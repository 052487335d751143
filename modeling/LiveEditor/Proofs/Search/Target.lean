import LiveEditor.Proofs.Search.Replacement

/-! # What a replacement acts on

A replacement takes the place of one span and is selected then.  Which span that
is depends on the selection, and the selection is judged by the piece that it
covers alone, while the search for another span looks at the whole text.  The
two agree unless whole words are asked for: then the piece alone has ends of its
own, where the text may go on with a word character.
-/

namespace LiveEditor

/-- A replacement has come in the place of a span of a text, and it is selected. -/
def Text.Exchanged (text : Text) (span : Span) (replacement : Text)
    (result : Text × Selection) : Prop :=
  ∃ before covered after, text = before ++ covered ++ after ∧
    span = ⟨before.byteLength, (before ++ covered).byteLength⟩ ∧
    result = (before ++ replacement ++ after,
      ⟨before.byteLength, (before ++ replacement).byteLength⟩)

namespace Text.Exchanged

variable {text replacement : Text} {span other : Span} {result : Text × Selection}

theorem slice (exchanged : text.Exchanged span replacement result) :
    result.1.slice result.2.span = .ok replacement := by
  rcases exchanged with ⟨before, _, after, _, _, rfl⟩
  exact slice_append before replacement after

/-- The result tells which span was exchanged. -/
theorem unique (one : text.Exchanged span replacement result)
    (two : text.Exchanged other replacement result) : span = other := by
  rcases one with ⟨before, covered, after, whole, rfl, rfl⟩
  rcases two with ⟨otherBefore, otherCovered, otherAfter, otherWhole, rfl, same⟩
  have texts := congrArg byteLength (congrArg Prod.fst same)
  have starts := congrArg (·.2.start) same
  have lengths := congrArg byteLength (whole.symm.trans otherWhole)
  simp only [byteLength_append] at texts starts lengths ⊢
  rw [Span.mk.injEq]
  omega

end Text.Exchanged

namespace Query

variable (query : Query)

def OccursAlone (piece : Text) : Prop :=
  query.Occurs piece ⟨0, piece.byteLength⟩

variable {query}

/-- A word that may begin and end anywhere occurs in a text when it occurs alone. -/
theorem occursAlone_iff_of_anywhere (anywhere : query.wholeWord = false)
    (before piece after : Text) :
    query.OccursAlone piece ↔
      query.Occurs (before ++ piece ++ after)
        ⟨before.byteLength, (before ++ piece).byteLength⟩ := by
  rw [OccursAlone, occurs_whole_iff, covers_iff]
  refine and_congr_right fun _ => ?_
  rw [(isLoose_rule anywhere).occursBetween_iff]
  constructor
  · intro sameCodes
    exact ⟨before, piece, after, rfl, rfl,
      ((isLoose_rule anywhere).occursBetween_iff _ _ _ _).2 sameCodes⟩
  · intro ⟨otherBefore, otherPiece, otherAfter, whole, ends, occurs⟩
    have starts : before.byteLength = otherBefore.byteLength := congrArg Span.start ends
    have stops := congrArg Span.stop ends
    rw [List.append_assoc, List.append_assoc] at whole
    rcases Text.append_inj_of_byteLength whole starts with ⟨rfl, rest⟩
    simp only [Text.byteLength_append] at stops
    have lengths : piece.byteLength = otherPiece.byteLength := by omega
    rcases Text.append_inj_of_byteLength rest lengths with ⟨rfl, _⟩
    exact occurs.sameCodes

theorem Occurs.exists_pieces {text : Text} {span : Span} (occurs : query.Occurs text span) :
    ∃ before covered after, text = before ++ covered ++ after ∧
      span = ⟨before.byteLength, (before ++ covered).byteLength⟩ := by
  rcases occurs with ⟨_, before, covered, after, whole, ends, _⟩
  exact ⟨before, covered, after, whole, ends⟩

end Query

namespace Search

/-! ## Which span is exchanged -/

/-- A selection counts as the one that it is moved to. -/
theorem replaceTarget_clampTo (search : Search) (selection : Selection) :
    search.replaceTarget (selection.clampTo search.text) = search.replaceTarget selection := by
  simp only [replaceTarget, Selection.clampTo_of_fits (Selection.fits_clampTo selection _)]

theorem exists_cut_clampTo (selection : Selection) (text : Text) :
    ∃ pieces, text.cut (selection.clampTo text).span = .ok pieces := by
  have fits := Selection.fits_clampTo selection text
  exact Span.Fits.exists_cut ⟨fits.ordered, fits.startsAtBoundary, fits.stopsAtBoundary⟩

/-- The selection is exchanged if its piece alone is a match, and otherwise the
next match behind it is. -/
theorem replaceTarget_of_slice (query : Query) {text piece : Text} {selection : Selection}
    (slice : text.slice (selection.clampTo text).span = .ok piece) :
    (query.OccursAlone piece →
      (query.search text).replaceTarget selection = some (selection.clampTo text).span) ∧
    (¬ query.OccursAlone piece →
      (query.search text).replaceTarget selection =
        (query.search text).findNext (selection.clampTo text).stop) := by
  rcases exists_cut_clampTo selection text with ⟨pieces, cut⟩
  have same : pieces.covered = piece :=
    Except.ok.inj ((Text.slice_of_cut cut).symm.trans slice)
  have target := @replaceTarget_eq (query.search text) (selection.clampTo text) pieces cut
  have moved := (query.search text).replaceTarget_clampTo selection
  have covers : (query.search text).query.covers pieces.covered = query.covers piece := by
    rw [same]
    rfl
  change (query.search text).replaceTarget (selection.clampTo text) = _ at moved
  rw [← moved, target, covers, Query.OccursAlone, Query.occurs_whole_iff]
  exact ⟨fun alone => if_pos alone, fun joined => if_neg joined⟩

theorem replaceCurrent_of_none {search : Search} {selection : Selection}
    (none : search.replaceTarget selection = none) (replacement : Text) :
    search.replaceCurrent selection replacement = Option.none := by
  rw [replaceCurrent, none]

theorem exchanged_of_replaceCurrent {search : Search} {selection : Selection} {target : Span}
    (pieces : ∃ before covered after, search.text = before ++ covered ++ after ∧
      target = ⟨before.byteLength, (before ++ covered).byteLength⟩)
    (chosen : search.replaceTarget selection = some target)
    {replacement : Text} {result : Text × Selection}
    (replaced : search.replaceCurrent selection replacement = some result) :
    search.text.Exchanged target replacement result := by
  rcases pieces with ⟨before, covered, after, whole, ends⟩
  subst ends
  have cut : search.text.cut ⟨before.byteLength, (before ++ covered).byteLength⟩ =
      .ok ⟨before, covered, after⟩ := Text.cut_eq_ok_iff.2 ⟨whole, rfl, rfl⟩
  rw [replaceCurrent_eq chosen cut, Option.some_inj] at replaced
  refine ⟨before, covered, after, whole, rfl, ?_⟩
  rw [← replaced]
  simp only [Text.byteLength_append]

/-! ## When it is a match -/

/-- What is exchanged is a match in the text: the selection exactly when that is
one, and otherwise the next match behind it. -/
structure HitsMatch (search : Search) (clamped : Selection) (target : Span) : Prop where
  occurs : search.query.Occurs search.text target
  selected : target = clamped.span ↔ search.query.Occurs search.text clamped.span
  searched : ¬ search.query.Occurs search.text clamped.span →
    search.findNext clamped.stop = some target

/-- A selection hits a match when its piece counts the same alone and in the text, or
when it is a match and the search behind it comes back to it. -/
def TellsMatch (search : Search) (clamped : Selection) (piece : Text) : Prop :=
  (search.query.OccursAlone piece ↔ search.query.Occurs search.text clamped.span) ∨
    search.query.Occurs search.text clamped.span ∧
      search.findNext clamped.stop = some clamped.span

theorem hitsMatch_selected_iff {search : Search} {clamped : Selection} {piece : Text}
    (alone : search.query.OccursAlone piece) :
    search.HitsMatch clamped clamped.span ↔ search.TellsMatch clamped piece := by
  constructor
  · intro hits
    exact .inl (iff_of_true alone hits.occurs)
  · intro tells
    have occurs : search.query.Occurs search.text clamped.span :=
      tells.elim (fun same => same.1 alone) And.left
    exact ⟨occurs, iff_of_true rfl occurs, fun other => absurd occurs other⟩

theorem hitsMatch_searched_iff {search : Search} {clamped : Selection} {piece : Text}
    (joined : ¬ search.query.OccursAlone piece) {target : Span}
    (found : search.findNext clamped.stop = some target)
    (occurs : search.query.Occurs search.text target) :
    search.HitsMatch clamped target ↔ search.TellsMatch clamped piece := by
  constructor
  · intro hits
    by_cases there : search.query.Occurs search.text clamped.span
    · have same : target = clamped.span := hits.selected.2 there
      exact .inr ⟨there, same ▸ found⟩
    · exact .inl (iff_of_false joined there)
  · intro tells
    refine ⟨occurs, ⟨fun same => same ▸ occurs, fun there => ?_⟩, fun _ => found⟩
    rcases tells with same | ⟨_, back⟩
    · exact absurd (same.2 there) joined
    · exact Option.some.inj (found.symm.trans back)

/-- A replacement comes in the place of one span and is selected then, and what is
outside stays.  The span is a match in the text, the selection or else the next one
behind it, if and only if the selection tells so alone; and a selection always does
when the query does not ask for whole words. -/
theorem replaceCurrent_hitsMatch_iff {query : Query} {text replacement : Text}
    {selection : Selection} {result : Text × Selection}
    (replaced : (query.search text).replaceCurrent selection replacement = some result) :
    let search := query.search text
    let clamped := selection.clampTo text
    ∃ piece target, text.slice clamped.span = .ok piece ∧
      text.Exchanged target replacement result ∧
      result.1.slice result.2.span = .ok replacement ∧
      (query.OccursAlone piece → target = clamped.span) ∧
      (¬ query.OccursAlone piece → search.findNext clamped.stop = some target) ∧
      (search.HitsMatch clamped target ↔ search.TellsMatch clamped piece) ∧
      (query.wholeWord = false → search.TellsMatch clamped piece) := by
  intro search clamped
  rcases exists_cut_clampTo selection text with ⟨⟨before, piece, after⟩, cut⟩
  have slice : text.slice clamped.span = .ok piece := by
    rw [Text.slice, cut]
    rfl
  rcases Text.cut_eq_ok_iff.1 cut with ⟨whole, start, stop⟩
  change text = before ++ piece ++ after at whole
  have ends : clamped.span = ⟨before.byteLength, (before ++ piece).byteLength⟩ := by
    rw [start, stop]
  rcases replaceTarget_of_slice query slice with ⟨selected, searched⟩
  have tells : query.wholeWord = false → search.TellsMatch clamped piece := by
    intro anywhere
    have same := Query.occursAlone_iff_of_anywhere anywhere before piece after
    rw [← ends, ← whole] at same
    exact .inl same
  by_cases alone : query.OccursAlone piece
  · have exchanged := exchanged_of_replaceCurrent ⟨before, piece, after, whole, ends⟩
      (selected alone) replaced
    exact ⟨piece, clamped.span, slice, exchanged, exchanged.slice, fun _ => rfl,
      fun joined => absurd alone joined, hitsMatch_selected_iff alone, tells⟩
  · have passed := searched alone
    cases found : search.findNext clamped.stop with
    | none =>
        rw [replaceCurrent_of_none (passed.trans found)] at replaced
        cases replaced
    | some target =>
        have occurs : query.Occurs text target := (query.mem_pattern_iff text target).1
          (mem_occurrences_of_findNext found)
        have exchanged := exchanged_of_replaceCurrent occurs.exists_pieces
          (passed.trans found) replaced
        exact ⟨piece, target, slice, exchanged, exchanged.slice,
          fun other => absurd other alone, fun _ => rfl,
          hitsMatch_searched_iff alone found occurs, tells⟩

/-- The selection is reversed and reaches beyond the text, and the word after it is
replaced, around which there are letters of other alphabets. -/
theorem replaceCurrent_hitsMatch_kelvinSign :
    let query : Query := { text := "k1".toList, wholeWord := true }
    let text : Text := "\u212a1é \u212a1".toList
    let search := query.search text
    let selection : Selection := ⟨99, 5⟩
    let result : Text × Selection := ("\u212a1é ->".toList, ⟨7, 9⟩)
    search.replaceCurrent selection "->".toList = some result ∧
      ∃ target, text.Exchanged target "->".toList result ∧
        search.HitsMatch (selection.clampTo text) target := by
  intro query text search selection result
  have replaced : search.replaceCurrent selection "->".toList = some result := by
    decide +kernel
  rcases replaceCurrent_hitsMatch_iff replaced with
    ⟨piece, target, slice, exchanged, _, _, _, hits, _⟩
  have clamped : selection.clampTo text = ⟨4, 11⟩ := by decide +kernel
  have covered : text.slice ⟨4, 11⟩ = .ok "é \u212a1".toList := rfl
  rw [clamped, Selection.span, covered, Except.ok.injEq] at slice
  refine ⟨replaced, target, exchanged, hits.2 (.inl (iff_of_false ?_ ?_))⟩
  · rw [← slice, Query.OccursAlone, Query.occurs_whole_iff]
    decide +kernel
  · rw [clamped, ← Query.mem_pattern_iff_occurs]
    decide +kernel

/-- The end of a longer word is selected, and it is replaced although the query asks
for whole words and the text has one. -/
theorem not_hitsMatch_insideWord :
    let query : Query := { text := "cat".toList, caseSensitive := true, wholeWord := true }
    let text : Text := "concat cat".toList
    let search := query.search text
    let result : Text × Selection := ("condog cat".toList, ⟨3, 6⟩)
    search.replaceCurrent ⟨3, 6⟩ "dog".toList = some result ∧
      search.allMatches = [⟨7, 10⟩] ∧
      ∀ target, text.Exchanged target "dog".toList result →
        ¬ search.HitsMatch ⟨3, 6⟩ target := by
  intro query text search result
  have inside : text.Exchanged ⟨3, 6⟩ "dog".toList result :=
    ⟨"con".toList, "cat".toList, " cat".toList, rfl, rfl, rfl⟩
  refine ⟨by decide +kernel, by decide +kernel, ?_⟩
  intro target exchanged hits
  have same : target = ⟨3, 6⟩ := exchanged.unique inside
  have found := (query.mem_pattern_iff_occurs text target).2 hits.occurs
  rw [same] at found
  exact absurd found (by decide +kernel)

end Search

end LiveEditor
