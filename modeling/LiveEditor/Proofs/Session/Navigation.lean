import LiveEditor.Proofs.Search.Matches
import LiveEditor.Proofs.Session.Sides

/-! # Going through the matches

Looking for the next match moves the selection of a session and nothing else.
From a selection that ends at the beginning of the text the matches are selected
one by one, from the first to the last, and then again from the first on.
-/

namespace LiveEditor

theorem Workbench.apply_findNext (bench : Workbench) :
    bench.apply .findNext =
      { bench with
        selection :=
          ((bench.query.search bench.text).findNext bench.selection.stop).elim
            bench.selection .ofSpan } := by
  rw [apply]
  split
  · next none => rw [none, Option.elim_none]
  · next found => rw [found, Option.elim_some]

namespace Session

def select (session : Session) (selection : Selection) : Session :=
  { session with workbench := { session.workbench with selection } }

theorem apply_findNext (session : Session) :
    session.apply (.workbench .findNext) =
      session.select
        (((session.workbench.query.search session.workbench.text).findNext
          session.workbench.selection.stop).elim session.workbench.selection .ofSpan) := by
  simp [apply, Workbench.apply_findNext, select]

theorem stop_ofSpan_of_mem_allMatches {query : Query} {text : Text} {span : Span}
    (member : span ∈ query.allMatches text) : (Selection.ofSpan span).stop = span.stop :=
  Nat.max_eq_right (Query.fits_of_mem_allMatches member).ordered

theorem applyAll_findNext_of_unmatched {session : Session}
    (unmatched : session.workbench.query.allMatches session.workbench.text = [])
    (steps : Nat) :
    session.applyAll (List.replicate steps (.workbench .findNext)) = session := by
  have stays : session.apply (.workbench .findNext) = session := by
    rw [apply_findNext, (Query.findNext_eq_none_iff _ _ _).2 unmatched]
    rfl
  induction steps with
  | zero => rfl
  | succ steps induction => rw [List.replicate_succ, applyAll_cons, stays, induction]

/-- Step by step the selection goes through the matches. -/
theorem applyAll_findNext_of_chosen {session : Session} {spans : List Span}
    (matched : session.workbench.query.allMatches session.workbench.text = spans)
    (begins : session.workbench.selection.stop = 0) {steps : Nat} {span : Span}
    (chosen : spans[steps % spans.length]? = some span) :
    session.applyAll (List.replicate (steps + 1) (.workbench .findNext)) =
      session.select (.ofSpan span) := by
  subst matched
  induction steps generalizing span with
  | zero =>
      change session.apply (.workbench .findNext) = _
      rw [Nat.zero_mod, ← List.head?_eq_getElem?, ← Query.findNext_zero] at chosen
      rw [apply_findNext, begins, chosen, Option.elim_some]
  | succ steps induction =>
      have filled := Nat.lt_of_le_of_lt (Nat.zero_le _) (List.getElem?_eq_some_iff.1 chosen).1
      have before := List.getElem?_eq_getElem (Nat.mod_lt steps filled)
      have stop := stop_ofSpan_of_mem_allMatches (List.mem_of_getElem? before)
      rw [List.replicate_succ', applyAll_append, induction before]
      change Session.apply _ (.workbench .findNext) = _
      rw [apply_findNext]
      dsimp only [select]
      rw [stop, Query.findNext_stop before, Nat.mod_add_mod, chosen, Option.elim_some]

/-- The search for the next match finds nothing exactly when there is no match,
and otherwise the occurrence that is next to the offset.  It leads from each
match to the one behind it and from the last match to the first, so a session
whose selection ends at the beginning of its text goes through the matches, each
in its turn, and nothing but its selection changes. -/
theorem findNext_tours_matches (query : Query) (text : Text) :
    let spans := query.allMatches text
    let next := (query.search text).findNext
    (∀ offset, next offset = none ↔ spans = []) ∧
    (∀ offset span, next offset = some span ↔
      query.IsNext text (text.floorBoundary offset) span) ∧
    next 0 = spans.head? ∧
    (∀ index span, spans[index]? = some span →
      next span.stop = spans[(index + 1) % spans.length]?) ∧
    (∀ span ∈ spans, span.start < span.stop) ∧
    spans.Pairwise (fun one other => one.stop ≤ other.start) ∧
    ∀ session : Session, session.workbench.query = query →
      session.workbench.text = text → session.workbench.selection.stop = 0 →
      ∀ steps, session.applyAll (List.replicate (steps + 1) (.workbench .findNext)) =
        { session with
          workbench :=
            { session.workbench with
              selection :=
                spans[steps % spans.length]?.elim session.workbench.selection
                  fun span => ⟨span.start, span.stop⟩ } } := by
  intro spans next
  have nonempty : ∀ span ∈ spans, span.start < span.stop := fun span member =>
    (query.ordered_pattern text).nonempty span
      ((Span.chooseFrom_sublist 0 (query.pattern text)).subset member)
  refine ⟨query.findNext_eq_none_iff text, query.findNext_eq_some_iff text,
    query.findNext_zero text, fun index span => Query.findNext_stop, nonempty,
    Span.pairwise_chooseFrom (query.ordered_pattern text) 0, ?_⟩
  rintro session rfl rfl begins steps
  cases chosen : spans[steps % spans.length]? with
  | none =>
      -- Only an empty list has nothing at a remainder by its length.
      have unmatched : spans = [] := by
        rw [List.getElem?_eq_none_iff] at chosen
        rcases Nat.eq_zero_or_pos spans.length with empty | filled
        · exact List.length_eq_zero_iff.1 empty
        · exact absurd chosen (Nat.not_le.2 (Nat.mod_lt steps filled))
      exact applyAll_findNext_of_unmatched unmatched (steps + 1)
  | some span =>
      have ordered := Nat.le_of_lt (nonempty span (List.mem_of_getElem? chosen))
      rw [applyAll_findNext_of_chosen rfl begins chosen, select, Selection.ofSpan,
        Selection.ofEnds, Nat.min_eq_left ordered, Nat.max_eq_right ordered]
      rfl

/-- Of the words in this text that overlap each other the first one is a match. -/
theorem findNext_tours_overlappingWords :
    let query : Query := { text := "aa".toList }
    let session : Session :=
      { initial [] true with
        workbench := { Workbench.initial [] with text := "aaab AA".toList, query } }
    query.allMatches session.workbench.text = [⟨0, 2⟩, ⟨5, 7⟩] ∧
      session.applyAll (List.replicate 3 (.workbench .findNext)) =
        session.select ⟨0, 2⟩ := by
  intro query session
  have matched : query.allMatches session.workbench.text = [⟨0, 2⟩, ⟨5, 7⟩] := by
    decide +kernel
  have tour := (findNext_tours_matches query session.workbench.text).2.2.2.2.2.2 session rfl
    rfl rfl 2
  rw [matched] at tour
  exact ⟨matched, tour⟩

end Session

end LiveEditor
