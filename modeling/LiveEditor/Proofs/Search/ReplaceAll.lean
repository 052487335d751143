import LiveEditor.Proofs.Search.Literal

/-! # Replacing every match

Replacing every match keeps the gaps between the matches and puts the same text in the
place of each of them.  If the matches are copies of the query, the query in their
place changes nothing; and a replacement that has no character of the text is found
again just where it was put, so that replacing it by the query gives the text back.
-/

namespace LiveEditor

/-- In a text that begins at `offset` a replacement has come in the place of each of the
given spans, and the gaps between them are as they were. -/
inductive Text.Replaced (replacement : Text) :
    (offset : Nat) → List Span → (text result : Text) → Prop
  | rest (offset : Nat) (text : Text) : Replaced replacement offset [] text text
  | span {offset : Nat} {spans : List Span} {gap covered text result : Text}
      (later : Replaced replacement (offset + (gap ++ covered).byteLength) spans text result) :
      Replaced replacement offset
        (⟨offset + gap.byteLength, offset + (gap ++ covered).byteLength⟩ :: spans)
        (gap ++ covered ++ text) (gap ++ replacement ++ result)

namespace Text.Replaced

variable {replacement text result : Text} {offset : Nat} {spans : List Span}

/-- Spans that fit a text in order can be replaced in the rest of it that holds them. -/
theorem exists_of_fits (front : Text) (fits : ∀ span ∈ spans, span.Fits (front ++ text))
    (disjoint : spans.Pairwise fun one other => one.stop ≤ other.start)
    (behind : ∀ span ∈ spans, front.byteLength ≤ span.start) (replacement : Text) :
    ∃ result, Text.Replaced replacement front.byteLength spans text result := by
  induction spans generalizing front text with
  | nil => exact ⟨text, .rest _ text⟩
  | cons span spans induction =>
      rcases List.forall_mem_cons.1 fits with ⟨spanFits, fits⟩
      rcases List.forall_mem_cons.1 behind with ⟨spanBehind, _⟩
      rcases List.pairwise_cons.1 disjoint with ⟨spanBefore, disjoint⟩
      rcases exists_pieces_of_isBoundary spanFits.startsAtBoundary spanFits.stopsAtBoundary
        spanFits.ordered with ⟨before, covered, after, whole, start, stop⟩
      rw [← start] at spanBehind
      rw [List.append_assoc] at whole
      rcases exists_append_of_byteLength_le whole spanBehind with ⟨gap, rfl, rest⟩
      have moved : front ++ text = front ++ gap ++ covered ++ after := by
        rw [whole, List.append_assoc (front ++ gap)]
      rw [moved] at fits
      rw [← stop] at spanBefore
      rcases induction (front ++ gap ++ covered) fits disjoint spanBefore with ⟨result, replaced⟩
      have ends : span = ⟨front.byteLength + gap.byteLength,
          front.byteLength + (gap ++ covered).byteLength⟩ := by
        rw [← byteLength_append, ← byteLength_append, ← List.append_assoc, start, stop]
      rw [List.append_assoc, byteLength_append] at replaced
      rw [rest, ← List.append_assoc, ends]
      exact ⟨_, .span replaced⟩

/-- The text that comes of it is the one that is computed. -/
theorem eq_replaceSpans (replaced : Text.Replaced replacement offset spans text result)
    (nonempty : ∀ span ∈ spans, span.start < span.stop) :
    result = Search.replaceSpans replacement offset spans text := by
  induction replaced with
  | rest offset text => rw [Search.replaceSpans_nil]
  | @span offset spans gap covered text result _ induction =>
      rcases List.forall_mem_cons.1 nonempty with ⟨filled, nonempty⟩
      have piece : covered ≠ [] := by
        rintro rfl
        simp at filled
      rw [List.append_assoc gap covered, Search.replaceSpans_gap, Search.replaceSpans_covered,
        ← induction nonempty, List.append_assoc]
      · exact Nat.le_refl _
      · exact piece
      · rw [byteLength_append, Nat.add_assoc]
      · exact Nat.le_refl _

/-- A replacement that is what stood in the place of each span changes nothing. -/
theorem eq_self (front : Text)
    (replaced : Text.Replaced replacement front.byteLength spans text result)
    (same : ∀ span ∈ spans, (front ++ text).slice span = .ok replacement) : result = text := by
  generalize begins : front.byteLength = offset at replaced
  induction replaced generalizing front with
  | rest offset text => rfl
  | @span offset spans gap covered text result _ induction =>
      rcases List.forall_mem_cons.1 same with ⟨here, same⟩
      have stands := slice_append (front ++ gap) covered text
      rw [List.append_assoc front gap covered, byteLength_append, byteLength_append, begins,
        List.append_assoc front, here] at stands
      have copy : replacement = covered := Except.ok.inj stands
      have later := induction (front ++ (gap ++ covered)) (by rwa [List.append_assoc])
        (by rw [byteLength_append, begins])
      rw [later, copy]

end Text.Replaced

namespace Query

variable {query : Query} {text : Text}

/-! ## Copies of the query -/

theorem replaced_replaceSpans (query : Query) (text replacement : Text) :
    Text.Replaced replacement 0 (query.allMatches text) text
      (Search.replaceSpans replacement 0 (query.allMatches text) text) := by
  have fits : ∀ span ∈ query.allMatches text, span.Fits ([] ++ text) :=
    fun _ => fits_of_mem_allMatches
  have disjoint := Span.pairwise_chooseFrom (query.ordered_pattern text) 0
  rcases Text.Replaced.exists_of_fits [] fits disjoint (fun _ _ => Nat.zero_le _) replacement with
    ⟨result, replaced⟩
  have same := replaced.eq_replaceSpans fun _ => nonempty_of_mem_allMatches
  subst same
  exact replaced

/-- Where case counts, a query occurs where a copy of it stands. -/
theorem Occurs.exists_copy (caseSensitive : query.caseSensitive = true) {span : Span}
    (occurs : query.Occurs text span) :
    ∃ before after, text = before ++ query.text ++ after ∧
      span = ⟨before.byteLength, (before ++ query.text).byteLength⟩ := by
  rcases occurs.2 with ⟨before, covered, after, whole, ends, between⟩
  have same := (forall₂_sameCharacter_iff covered query.text).2 between.sameCodes
  have equal : query.SameCharacter = (· = ·) := by
    funext one other
    rw [SameCharacter, if_pos caseSensitive]
  rw [equal, List.forall₂_eq_eq_eq] at same
  rw [same] at whole ends
  exact ⟨before, after, whole, ends⟩

theorem slice_of_mem_allMatches (caseSensitive : query.caseSensitive = true) {span : Span}
    (member : span ∈ query.allMatches text) : text.slice span = .ok query.text := by
  rcases (occurs_of_mem_allMatches member).exists_copy caseSensitive with
    ⟨before, after, whole, ends⟩
  rw [whole, ends]
  exact Text.slice_append before query.text after

theorem replaceSpans_self (caseSensitive : query.caseSensitive = true) (text : Text) :
    Search.replaceSpans query.text 0 (query.allMatches text) text = text :=
  (query.replaced_replaceSpans text query.text).eq_self []
    fun _ => slice_of_mem_allMatches caseSensitive

/-! ## A replacement that is found again -/

variable (caseSensitive : query.caseSensitive = true)

include caseSensitive

theorem allMatches_of_fresh (filled : query.text ≠ [])
    (fresh : ∀ character ∈ query.text, character ∉ text) : query.allMatches text = [] := by
  refine List.eq_nil_iff_forall_not_mem.2 fun span member => ?_
  rcases (occurs_of_mem_allMatches member).exists_copy caseSensitive with
    ⟨before, after, whole, _⟩
  rcases List.exists_cons_of_ne_nil filled with ⟨character, rest, letters⟩
  have inside : character ∈ query.text := letters ▸ List.mem_cons_self
  refine fresh character inside ?_
  rw [whole]
  exact List.mem_append_left _ (List.mem_append_right _ inside)

/-- A copy behind a gap that has none of its characters is the first match, and behind it
come the matches of the rest. -/
theorem allMatches_gap_copy (anywhere : query.wholeWord = false) (filled : query.text ≠ [])
    {gap : Text} (fresh : ∀ character ∈ query.text, character ∉ gap) (rest : Text) :
    query.allMatches (gap ++ query.text ++ rest) =
      ⟨gap.byteLength, (gap ++ query.text).byteLength⟩ ::
        (query.allMatches rest).map (·.shift (gap ++ query.text).byteLength) := by
  have here : query.Occurs (gap ++ query.text ++ rest)
      ⟨gap.byteLength, (gap ++ query.text).byteLength⟩ :=
    ⟨by simpa [isEmpty] using filled, gap, query.text, rest, rfl, rfl,
      ((isLoose_rule anywhere).occursBetween_iff _ _ _ _).2 rfl⟩
  have first : Span.IsFirstFrom (query.Occurs (gap ++ query.text ++ rest)) 0
      ⟨gap.byteLength, (gap ++ query.text).byteLength⟩ := by
    refine ⟨here, Nat.zero_le _, fun other occurs _ => Nat.le_of_not_lt fun earlier => ?_⟩
    rcases occurs.exists_copy caseSensitive with ⟨before, after, whole, rfl⟩
    rw [List.append_assoc, List.append_assoc] at whole
    -- A copy that begins earlier would begin with a character of the gap.
    rcases Text.exists_append_of_byteLength_le whole.symm (Nat.le_of_lt earlier) with
      ⟨passed, longer, letters⟩
    cases passed with
    | nil =>
        rw [List.append_nil] at longer
        rw [longer] at earlier
        exact absurd earlier (Nat.lt_irrefl _)
    | cons character passed =>
        rcases List.exists_cons_of_ne_nil filled with ⟨head, tail, word⟩
        rw [word, List.cons_append, List.cons_append] at letters
        have same : head = character := (List.cons.inj letters).1
        refine fresh head (word ▸ List.mem_cons_self) ?_
        rw [longer, same]
        exact List.mem_append_right _ List.mem_cons_self
  have ordered := query.ordered_pattern (gap ++ query.text ++ rest)
  have found := (query.find?_pattern_eq_some_iff _ 0 _).2 first
  rw [allMatches, Pattern.allMatches, Span.chooseFrom_of_find?_eq_some ordered found,
    chooseFrom_pattern_append anywhere]

/-- Replacing matches by a text that shares no character with what was there, and then
this text by the query, gives back what was there. -/
theorem replaceSpans_back (anywhere : query.wholeWord = false) {replacement : Text}
    (filled : replacement ≠ []) {count : Nat}
    (counted : (query.allMatches text).length = count)
    (fresh : ∀ character ∈ replacement, character ∉ text) :
    let replaced := Search.replaceSpans replacement 0 (query.allMatches text) text
    Search.replaceSpans query.text 0
      (({ query with text := replacement } : Query).allMatches replaced) replaced = text := by
  induction count generalizing text with
  | zero =>
      have nowhere := @allMatches_of_fresh { query with text := replacement } text caseSensitive
        filled fresh
      rw [List.length_eq_zero_iff.1 counted, Search.replaceSpans_nil]
      dsimp only
      rw [nowhere, Search.replaceSpans_nil]
  | succ count induction =>
      rcases List.exists_cons_of_length_eq_add_one counted with ⟨span, spans, matched⟩
      rcases exists_of_allMatches_eq_cons anywhere matched with
        ⟨gap, covered, later, rfl, some, rfl, rfl⟩
      have copy : covered = query.text := by
        have slice := slice_of_mem_allMatches caseSensitive (matched ▸ List.mem_cons_self)
        rw [Text.slice_append] at slice
        exact Except.ok.inj slice
      rw [matched, List.length_cons, List.length_map, Nat.succ.injEq] at counted
      have back := induction counted fun character member inside =>
        fresh character member (List.mem_append_right _ inside)
      have again := @allMatches_gap_copy { query with text := replacement } caseSensitive anywhere
        filled gap (fun character member inside =>
          fresh character member (List.mem_append_left _ (List.mem_append_left _ inside)))
      rw [matched, Search.replaceSpans_cons _ _ _ _ some]
      dsimp only at back again ⊢
      rw [again, Search.replaceSpans_cons _ _ _ _ filled, back, copy]

end Query

/-- Replacing every match fails for the empty query alone.  Otherwise each match gives way
to the replacement, as it is written, and every gap stays.  So where case counts, a
query in its own place changes nothing, and a replacement with no character of the
text can be taken back. -/
theorem Search.replaceAll_exchanges (query : Query) (text : Text) :
    (∀ replacement, (query.search text).replaceAll replacement = none ↔ query.text = []) ∧
    (∀ replacement result, (query.search text).replaceAll replacement = some result ↔
      query.text ≠ [] ∧
        Text.Replaced replacement 0 (query.allMatches text) text result) ∧
    (query.text ≠ [] → query.caseSensitive = true →
      (query.search text).replaceAll query.text = some text) ∧
    (query.text ≠ [] → query.caseSensitive = true → query.wholeWord = false →
      ∀ replacement, replacement ≠ [] → (∀ character ∈ replacement, character ∉ text) →
        ∃ replaced, (query.search text).replaceAll replacement = some replaced ∧
          (({ query with text := replacement } : Query).search replaced).replaceAll query.text =
            some text) := by
  have something : ∀ query : Query, query.text ≠ [] → query.isEmpty = false := by
    intro query filled
    simpa [Query.isEmpty] using filled
  refine ⟨fun replacement => ?_, fun replacement result => ?_, fun filled caseSensitive => ?_,
    fun filled caseSensitive anywhere replacement some fresh => ?_⟩
  · by_cases empty : query.text = []
    · simp [replaceAll, Query.search, Query.isEmpty, empty]
    · rw [Query.replaceAll_eq (something query empty)]
      simp [empty]
  · by_cases empty : query.text = []
    · simp [replaceAll, Query.search, Query.isEmpty, empty]
    · have computed := query.replaced_replaceSpans text replacement
      rw [Query.replaceAll_eq (something query empty), Option.some_inj]
      constructor
      · rintro rfl
        exact ⟨empty, computed⟩
      · rintro ⟨_, replaced⟩
        exact (replaced.eq_replaceSpans fun _ => Query.nonempty_of_mem_allMatches).symm
  · rw [Query.replaceAll_eq (something query filled), Query.replaceSpans_self caseSensitive]
  · exact ⟨_, Query.replaceAll_eq (something query filled) text replacement,
      (Query.replaceAll_eq (something { query with text := replacement } some) _ _).trans
        (congrArg Option.some
          (Query.replaceSpans_back caseSensitive anywhere some rfl fresh))⟩

end LiveEditor
