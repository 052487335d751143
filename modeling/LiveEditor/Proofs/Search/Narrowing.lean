import LiveEditor.Proofs.Search.Choice

/-! # Narrowing a query

A query that asks for more occurs in fewer places.  Its matches are chosen anew
among them and need not be matches of the wider query, for an earlier match that
falls away frees the characters of others.  Still there are never more of them,
since the wider query has as many matches as can stand apart from each other.
-/

namespace LiveEditor

/-- Spans in place of others: there are no more of them, and each overlaps one of the
others. -/
structure Span.Thins (fewer more : List Span) : Prop where
  length_le : fewer.length ≤ more.length
  overlapping : ∀ span ∈ fewer, ∃ other ∈ more, span.Overlaps other

namespace Query

/-- Two queries for the same text, of which one asks for all that the other asks for. -/
structure Narrows (narrow wide : Query) : Prop where
  sameText : narrow.text = wide.text
  caseSensitive : wide.caseSensitive = true → narrow.caseSensitive = true
  wholeWord : wide.wholeWord = true → narrow.wholeWord = true

variable {narrow wide : Query}

theorem Narrows.sameCharacter (narrows : narrow.Narrows wide) {one other : Char}
    (same : narrow.SameCharacter one other) : wide.SameCharacter one other := by
  cases sensitive : wide.caseSensitive with
  | true =>
      have both := narrows.caseSensitive sensitive
      simpa only [SameCharacter, sensitive, both] using same
  | false =>
      simp only [SameCharacter, sensitive, Bool.false_eq_true, if_false]
      rw [SameCharacter] at same
      split at same
      · exact congrArg Unicode.foldCode same
      · exact same

theorem Narrows.standsAt (narrows : narrow.Narrows wide) {text : Text} {span : Span}
    (stands : narrow.StandsAt text span) : wide.StandsAt text span := by
  rcases stands with ⟨before, covered, after, whole, ends, characters, boundaries⟩
  refine ⟨before, covered, after, whole, ends, ?_, ?_⟩
  · rw [← narrows.sameText]
    exact characters.imp fun _ _ => narrows.sameCharacter
  · exact fun wholeWord => boundaries (narrows.wholeWord wholeWord)

theorem Narrows.occurs (narrows : narrow.Narrows wide) {text : Text} {span : Span}
    (occurs : narrow.Occurs text span) : wide.Occurs text span := by
  have filled : narrow.text ≠ [] := by simpa [isEmpty] using occurs.1
  have wideFilled : wide.text ≠ [] := narrows.sameText ▸ filled
  have stands := (occurs_iff_standsAt filled text span).1 occurs
  exact (occurs_iff_standsAt wideFilled text span).2 (narrows.standsAt stands)

theorem exists_overlaps_of_occurs {query : Query} {text : Text} {span : Span}
    (occurs : query.Occurs text span) :
    ∃ chosen ∈ query.allMatches text, span.Overlaps chosen := by
  have unobstructed : Span.Unobstructed (query.Occurs text) 0 (query.allMatches text) :=
    (Span.unobstructed_iff_eq_chooseFrom (query.ordered_pattern text)
      (query.mem_pattern_iff_occurs text) _).2 rfl
  have filled : query.text ≠ [] := by simpa [isEmpty] using occurs.1
  have nonempty := occurs.2.nonempty filled
  rcases unobstructed.exists_contains_start occurs (Nat.zero_le _) nonempty with
    ⟨chosen, member, contains⟩
  exact ⟨chosen, member, Span.overlaps_of_contains_start nonempty contains⟩

theorem Narrows.thins (narrows : narrow.Narrows wide) (text : Text) :
    Span.Thins (narrow.allMatches text) (wide.allMatches text) where
  length_le := length_le_allMatches
    (fun _ member => narrows.occurs (occurs_of_mem_allMatches member))
    (Span.pairwise_chooseFrom (narrow.ordered_pattern text) 0)
  overlapping := fun _ member =>
    exists_overlaps_of_occurs (narrows.occurs (occurs_of_mem_allMatches member))

/-- A query has as many matches as its occurrences can stand apart from each other.  So
letting case count, or asking for whole words, never adds a match, and each match that is
left or new overlaps one of those before. -/
theorem allMatches_most_and_thinned (query : Query) (text : Text) :
    (∀ spans : List Span, (∀ span ∈ spans, query.Occurs text span) →
      (spans.Pairwise fun one other => one.stop ≤ other.start) →
      spans.length ≤ (query.allMatches text).length) ∧
    Span.Thins
      (allMatches { query with caseSensitive := true } text)
      (allMatches { query with caseSensitive := false } text) ∧
    Span.Thins
      (allMatches { query with wholeWord := true } text)
      (allMatches { query with wholeWord := false } text) := by
  refine ⟨fun _ => length_le_allMatches, ?_, ?_⟩
  · have narrows : Narrows { query with caseSensitive := true }
        { query with caseSensitive := false } :=
      ⟨rfl, fun _ => rfl, id⟩
    exact narrows.thins text
  · have narrows : Narrows { query with wholeWord := true }
        { query with wholeWord := false } :=
      ⟨rfl, id, fun _ => rfl⟩
    exact narrows.thins text

/-- The match that is left was none before. -/
example :
    let text : Text := "Aaa".toList
    let query : Query := { text := "aa".toList }
    allMatches { query with caseSensitive := false } text = [⟨0, 2⟩] ∧
      allMatches { query with caseSensitive := true } text = [⟨1, 3⟩] := by
  decide +kernel

end Query

end LiveEditor
