import LiveEditor.Proofs.Search.Locality

/-! # Replacing what a search finds

Replacing one match takes the text apart around a span: the selection, if what
it covers is a match by itself, and otherwise the next match.  Replacing every
match goes over the text once and keeps the gaps between the matches.
-/

namespace LiveEditor

/-! ## A match by itself -/

namespace Query

/-- What matches without anything around it.  A whole word has to begin and end
with a word character. -/
def StandsAlone (query : Query) (piece : Text) : Prop :=
  query.wholeWord = true →
    Unicode.isWordAt piece.head? = true ∧ Unicode.isWordAt piece.getLast? = true

theorem covers_iff (query : Query) (piece : Text) :
    query.covers piece = true ↔
      query.isEmpty = false ∧ query.rule.OccursBetween query.text [] piece [] := by
  simp only [covers, Bool.and_eq_true, Bool.not_eq_true', beq_iff_eq, Option.isSome_iff_exists,
    Text.places_eq_placesBehind, WordRule.occurrenceAt?_placesBehind, and_assoc,
    and_congr_right_iff]
  intro filled
  constructor
  · intro ⟨length, span, covered, after, whole, ends, occurs⟩
    have same := congrArg List.length occurs.sameCodes
    have nothing : after = [] := by
      rw [whole, List.length_append] at length
      rw [List.length_map, List.length_map] at same
      exact List.length_eq_zero_iff.1 (by omega)
    subst nothing
    rwa [whole, List.append_nil]
  · intro occurs
    have same := congrArg List.length occurs.sameCodes
    rw [List.length_map, List.length_map] at same
    exact ⟨same, _, piece, [], (List.append_nil piece).symm, rfl, occurs⟩

theorem covers_nil (query : Query) : query.covers [] = false := by
  rw [← Bool.not_eq_true, covers_iff]
  intro ⟨filled, occurs⟩
  have same := List.map_eq_nil_iff.1 occurs.sameCodes.symm
  simp [isEmpty, same] at filled

theorem occurs_whole_iff (query : Query) (text : Text) :
    query.Occurs text ⟨0, text.byteLength⟩ ↔ query.covers text = true := by
  rw [covers_iff]
  refine and_congr_right fun _ => ?_
  constructor
  · intro ⟨before, covered, after, whole, ends, occurs⟩
    have begins : before = [] :=
      Text.byteLength_eq_zero_iff.1 (congrArg Span.start ends).symm
    subst begins
    have nothing : after = [] := by
      have stop := congrArg Span.stop ends
      simp only [whole, Text.byteLength_append, List.nil_append] at stop
      exact Text.byteLength_eq_zero_iff.1 (by omega)
    subst nothing
    rwa [whole, List.append_nil]
  · intro occurs
    exact ⟨[], text, [], (List.append_nil text).symm, rfl, occurs⟩

/-- What occurs in a text is a match by itself exactly when it stands alone. -/
theorem covers_iff_standsAlone {query : Query} (filled : query.isEmpty = false)
    {before covered after : Text}
    (occurs : query.rule.OccursBetween query.text before covered after) :
    query.covers covered = true ↔ query.StandsAlone covered := by
  have edges : query.StandsAlone covered ↔
      query.rule.free (.between [] covered) = true ∧
        query.rule.free (.between covered []) = true := by
    rw [StandsAlone, rule]
    cases query.wholeWord with
    | false => simp [WordRule.ofOptions]
    | true =>
        simp [WordRule.ofOptions, WordRule.isWordBoundary, Unicode.isWordBoundary,
          Place.between, Unicode.isWordAt]
  rw [covers_iff, edges]
  constructor
  · intro covers
    exact ⟨by simpa using covers.2.freeBefore, covers.2.freeAfter⟩
  · intro free
    exact ⟨filled, occurs.sameCodes, by simpa using free.1, free.2⟩

end Query

namespace Search

/-! ## Replacing one match -/

theorem replaceTarget_eq {search : Search} {selection : Selection} {pieces : Text.Pieces}
    (cut : search.text.cut selection.span = .ok pieces) :
    search.replaceTarget selection =
      if search.query.covers pieces.covered then some selection.span
      else search.findNext selection.stop := by
  have clamped := Selection.clampTo_of_fits (Selection.fits_of_cut cut)
  have slice := Text.slice_of_cut cut
  simp only [replaceTarget, clamped, slice]
  rcases Bool.eq_false_or_eq_true (search.query.covers pieces.covered) with covers | covers
  · -- A cursor has no piece, and no query covers that.
    have piece : pieces.covered ≠ [] := by
      intro empty
      rw [empty, Query.covers_nil] at covers
      cases covers
    have selects : selection.isCursor = false := by
      have ends := (Text.cut_eq_ok_iff.1 cut).2
      have length := mt Text.byteLength_eq_zero_iff.1 piece
      rw [Text.byteLength_append] at ends
      simp only [Selection.isCursor, beq_eq_false_iff_ne]
      simp only [Selection.span] at ends
      omega
    simp [selects, covers, Except.toOption]
  · simp [covers, Except.toOption]

theorem replaceCurrent_eq {search : Search} {selection : Selection} {target : Span}
    (found : search.replaceTarget selection = some target) {pieces : Text.Pieces}
    (cut : search.text.cut target = .ok pieces) (replacement : Text) :
    search.replaceCurrent selection replacement =
      some (pieces.before ++ replacement ++ pieces.after,
        ⟨target.start, target.start + replacement.byteLength⟩) := by
  rw [replaceCurrent, found]
  simp only [Text.replace, cut, Except.map]
  rw [Selection.ofEnds_of_le (Nat.le_add_right _ _)]

/-! ## Replacing spans -/

variable (replacement : Text)

@[simp] theorem replaceSpans_nil (offset : Nat) (text : Text) :
    replaceSpans replacement offset [] text = text := by
  cases text <;> rfl

theorem replaceSpans_gap (offset : Nat) (span : Span) (spans : List Span) (gap rest : Text)
    (ahead : offset + gap.byteLength ≤ span.start) :
    replaceSpans replacement offset (span :: spans) (gap ++ rest) =
      gap ++ replaceSpans replacement (offset + gap.byteLength) (span :: spans) rest := by
  induction gap generalizing offset with
  | nil => rfl
  | cons character gap induction =>
      have size := character.utf8Size_pos
      rw [Text.byteLength_cons, ← Nat.add_assoc] at ahead ⊢
      rw [List.cons_append, replaceSpans, if_pos (by omega), induction _ ahead]
      rfl

/-- The replacement comes in the place of what is left of a span. -/
theorem replaceSpans_covered (offset : Nat) (span : Span) (spans : List Span)
    (covered rest : Text) (begun : span.start ≤ offset) (filled : covered ≠ [])
    (ends : span.stop = offset + covered.byteLength) :
    replaceSpans replacement offset (span :: spans) (covered ++ rest) =
      replacement ++ replaceSpans replacement span.stop spans rest := by
  induction covered generalizing offset with
  | nil => exact absurd rfl filled
  | cons character covered induction =>
      rw [Text.byteLength_cons] at ends
      rw [List.cons_append, replaceSpans, if_neg (Nat.not_lt.2 begun)]
      by_cases last : covered = []
      · subst last
        rw [Text.byteLength_nil, Nat.add_zero] at ends
        rw [ends, if_neg (Nat.lt_irrefl _)]
        rfl
      · have length : Text.byteLength covered ≠ 0 := mt Text.byteLength_eq_zero_iff.1 last
        rw [if_pos (by omega)]
        exact induction _ (by omega) last (by omega)

theorem replaceSpans_shift (offset distance : Nat) (spans : List Span) (text : Text) :
    replaceSpans replacement (offset + distance) (spans.map (·.shift distance)) text =
      replaceSpans replacement offset spans text := by
  induction text generalizing offset spans with
  | nil => simp [replaceSpans]
  | cons character rest induction =>
      cases spans with
      | nil => simp
      | cons span spans =>
          have next : offset + distance + character.utf8Size =
              offset + character.utf8Size + distance := Nat.add_right_comm _ _ _
          have whole := induction (offset + character.utf8Size) (span :: spans)
          rw [List.map_cons] at whole ⊢
          rw [replaceSpans, replaceSpans, next, whole, induction]
          simp [Span.shift]

/-- The gap before the first span stays, and behind the span the rest goes on. -/
theorem replaceSpans_cons (gap covered rest : Text) (filled : covered ≠ [])
    (spans : List Span) :
    replaceSpans replacement 0
        (⟨gap.byteLength, (gap ++ covered).byteLength⟩ ::
          spans.map (·.shift (gap ++ covered).byteLength))
        (gap ++ covered ++ rest) =
      gap ++ replacement ++ replaceSpans replacement 0 spans rest := by
  have moved := replaceSpans_shift replacement 0 (gap ++ covered).byteLength spans rest
  rw [Nat.zero_add] at moved
  rw [List.append_assoc, replaceSpans_gap, Nat.zero_add, replaceSpans_covered, moved,
    List.append_assoc]
  · exact Nat.le_refl _
  · exact filled
  · rw [Text.byteLength_append]
  · exact Nat.le_of_eq (Nat.zero_add _)

end Search

theorem Query.replaceAll_eq {query : Query} (filled : query.isEmpty = false)
    (text replacement : Text) :
    (query.search text).replaceAll replacement =
      some (Search.replaceSpans replacement 0 (query.allMatches text) text) := by
  rw [Search.replaceAll, search, filled]
  rfl

end LiveEditor
