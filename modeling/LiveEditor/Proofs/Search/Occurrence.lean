import LiveEditor.Proofs.Text.Selection
import LiveEditor.Search

/-! # What a search finds

A word occurs in a text around a piece that has the same codes, between two
places that are free for the rule.  The walk over the places of a text finds
these pieces and nothing else, so whatever a search finds lies between two
boundaries.
-/

namespace LiveEditor

def Place.between (passed behind : Text) : Place :=
  ⟨passed.byteLength, passed.getLast?, behind.head?⟩

namespace Text

def placesBehind (passed text : Text) : List Place :=
  placesFrom passed.byteLength passed.getLast? text

theorem places_eq_placesBehind (text : Text) : text.places = placesBehind [] text := rfl

@[simp] theorem placesBehind_nil (passed : Text) :
    placesBehind passed [] = [.between passed []] := rfl

@[simp] theorem placesBehind_cons (passed : Text) (character : Char) (rest : Text) :
    placesBehind passed (character :: rest) =
      .between passed (character :: rest) ::
        placesBehind (passed ++ [character]) rest := by
  simp [placesBehind, placesFrom, Place.between]

theorem exists_placesBehind_eq_cons (passed text : Text) :
    ∃ later, placesBehind passed text = .between passed text :: later := by
  cases text with
  | nil => exact ⟨[], placesBehind_nil passed⟩
  | cons character rest => exact ⟨_, placesBehind_cons passed character rest⟩

end Text

namespace WordRule

variable (rule : WordRule)

/-! ## Occurrences of a word -/

/-- What stands between two parts of a text is a word there: it has the codes of
the word, and the places at both of its ends are free. -/
structure OccursBetween (word before covered after : Text) : Prop where
  sameCodes : covered.map rule.code = word.map rule.code
  freeBefore : rule.free (.between before (covered ++ after)) = true
  freeAfter : rule.free (.between (before ++ covered) after) = true

def Occurs (word text : Text) (span : Span) : Prop :=
  ∃ before covered after, text = before ++ covered ++ after ∧
    span = ⟨before.byteLength, (before ++ covered).byteLength⟩ ∧
    rule.OccursBetween word before covered after

/-! ## Where a word stops -/

/-- What has the codes of a word stops at an offset of the text, at a place that
is free. -/
def StopsAt (word passed text : Text) (stop : Nat) : Prop :=
  ∃ covered after, text = covered ++ after ∧
    stop = (passed ++ covered).byteLength ∧
    covered.map rule.code = word.map rule.code ∧
    rule.free (.between (passed ++ covered) after) = true

theorem stopsAt_nil (passed text : Text) (stop : Nat) :
    rule.StopsAt [] passed text stop ↔
      stop = passed.byteLength ∧ rule.free (.between passed text) = true := by
  constructor
  · rintro ⟨covered, after, rfl, rfl, sameCodes, free⟩
    rcases List.map_eq_nil_iff.1 sameCodes with rfl
    rw [List.append_nil] at free ⊢
    exact ⟨rfl, free⟩
  · rintro ⟨rfl, free⟩
    refine ⟨[], text, rfl, ?_, rfl, ?_⟩
    · rw [List.append_nil]
    · rwa [List.append_nil]

theorem not_stopsAt_of_nil (character : Char) (word passed : Text) (stop : Nat) :
    ¬ rule.StopsAt (character :: word) passed [] stop := by
  rintro ⟨covered, after, whole, _, sameCodes, _⟩
  rcases List.nil_eq_append_iff.1 whole with ⟨rfl, rfl⟩
  cases sameCodes

theorem stopsAt_cons (character first : Char) (word passed rest : Text)
    (stop : Nat) :
    rule.StopsAt (character :: word) passed (first :: rest) stop ↔
      rule.code first = rule.code character ∧
        rule.StopsAt word (passed ++ [first]) rest stop := by
  constructor
  · rintro ⟨covered, after, whole, rfl, sameCodes, free⟩
    cases covered with
    | nil => cases sameCodes
    | cons held covered =>
        rcases List.cons.inj whole with ⟨rfl, rfl⟩
        rw [List.map_cons, List.map_cons] at sameCodes
        rcases List.cons.inj sameCodes with ⟨sameCode, sameCodes⟩
        refine ⟨sameCode, covered, after, rfl, ?_, sameCodes, ?_⟩
        · rw [List.append_assoc]
          rfl
        · rwa [List.append_assoc]
  · rintro ⟨sameCode, covered, after, rfl, rfl, sameCodes, free⟩
    rw [List.append_assoc] at free ⊢
    refine ⟨first :: covered, after, rfl, rfl, ?_, free⟩
    rw [List.map_cons, List.map_cons, sameCode, sameCodes]

theorem stopOf?_placesBehind_cons (character first : Char) (word passed rest : Text) :
    rule.stopOf? (character :: word) (passed.placesBehind (first :: rest)) =
      if rule.code first = rule.code character then
        rule.stopOf? word ((passed ++ [first]).placesBehind rest)
      else
        none := by
  rw [Text.placesBehind_cons, stopOf?]
  simp [Place.between]

theorem stopOf?_placesBehind (word passed text : Text) (stop : Nat) :
    rule.stopOf? word (passed.placesBehind text) = some stop ↔
      rule.StopsAt word passed text stop := by
  induction word generalizing passed text with
  | nil =>
      rcases Text.exists_placesBehind_eq_cons passed text with ⟨later, places⟩
      rw [places, stopOf?, stopsAt_nil]
      constructor
      · intro stops
        split at stops
        · next free => exact ⟨(Option.some.inj stops).symm, free⟩
        · cases stops
      · rintro ⟨rfl, free⟩
        rw [if_pos free]
        rfl
  | cons character word hypothesis =>
      cases text with
      | nil =>
          constructor
          · intro stops
            cases stops
          · intro stops
            exact absurd stops (rule.not_stopsAt_of_nil character word passed stop)
      | cons first rest =>
          rw [stopOf?_placesBehind_cons, stopsAt_cons, ← hypothesis]
          by_cases sameCode : rule.code first = rule.code character
          · simp [sameCode]
          · simp [sameCode]

/-! ## The walk over the places -/

theorem occurrenceAt?_placesBehind (word passed text : Text) (span : Span) :
    rule.occurrenceAt? word (passed.placesBehind text) = some span ↔
      ∃ covered after, text = covered ++ after ∧
        span = ⟨passed.byteLength, (passed ++ covered).byteLength⟩ ∧
        rule.OccursBetween word passed covered after := by
  rcases Text.exists_placesBehind_eq_cons passed text with ⟨later, places⟩
  rw [places, occurrenceAt?, ← places]
  constructor
  · intro occurs
    split at occurs
    · next free =>
        rcases Option.map_eq_some_iff.1 occurs with ⟨stop, stops, rfl⟩
        rcases (rule.stopOf?_placesBehind word passed text stop).1 stops with
          ⟨covered, after, rfl, rfl, sameCodes, freeAfter⟩
        exact ⟨covered, after, rfl, rfl, sameCodes, free, freeAfter⟩
    · cases occurs
  · rintro ⟨covered, after, rfl, rfl, occurs⟩
    rw [if_pos occurs.freeBefore, Option.map_eq_some_iff]
    refine ⟨_, (rule.stopOf?_placesBehind word passed _ _).2 ?_, rfl⟩
    exact ⟨covered, after, rfl, rfl, occurs.sameCodes, occurs.freeAfter⟩

theorem mem_occurrencesOf_cons (word : Text) (place : Place) (later : List Place)
    (span : Span) :
    span ∈ rule.occurrencesOf word (place :: later) ↔
      rule.occurrenceAt? word (place :: later) = some span ∨
        span ∈ rule.occurrencesOf word later := by
  rw [occurrencesOf, List.mem_append, Option.mem_toList]

/-- What the walk over the places of a text finds, it finds at one of them. -/
theorem mem_occurrencesOf_placesBehind (word passed text : Text) (span : Span) :
    span ∈ rule.occurrencesOf word (passed.placesBehind text) ↔
      ∃ between behind, text = between ++ behind ∧
        rule.occurrenceAt? word ((passed ++ between).placesBehind behind) =
          some span := by
  induction text generalizing passed with
  | nil =>
      rw [Text.placesBehind_nil, mem_occurrencesOf_cons, ← Text.placesBehind_nil]
      constructor
      · rintro (occurs | member)
        · exact ⟨[], [], rfl, by rwa [List.append_nil]⟩
        · cases member
      · rintro ⟨between, behind, whole, occurs⟩
        rcases List.nil_eq_append_iff.1 whole with ⟨rfl, rfl⟩
        rw [List.append_nil] at occurs
        exact .inl occurs
  | cons first rest hypothesis =>
      rw [Text.placesBehind_cons, mem_occurrencesOf_cons, ← Text.placesBehind_cons,
        hypothesis]
      constructor
      · rintro (occurs | ⟨between, behind, rfl, occurs⟩)
        · exact ⟨[], first :: rest, rfl, by rwa [List.append_nil]⟩
        · rw [List.append_assoc] at occurs
          exact ⟨first :: between, behind, rfl, occurs⟩
      · rintro ⟨between, behind, whole, occurs⟩
        cases between with
        | nil =>
            rw [List.nil_append] at whole
            rw [List.append_nil, ← whole] at occurs
            exact .inl occurs
        | cons held between =>
            rcases List.cons.inj whole with ⟨rfl, rfl⟩
            refine .inr ⟨between, behind, rfl, ?_⟩
            rwa [List.append_assoc]

/-- The spans that a rule finds in a text are the occurrences of the word. -/
theorem mem_occurrencesOf_iff (word text : Text) (span : Span) :
    span ∈ rule.occurrencesOf word text.places ↔ rule.Occurs word text span := by
  rw [Text.places_eq_placesBehind, mem_occurrencesOf_placesBehind]
  constructor
  · rintro ⟨before, behind, rfl, found⟩
    rcases (rule.occurrenceAt?_placesBehind word before behind span).1 found with
      ⟨covered, after, rfl, ends, occurs⟩
    exact ⟨before, covered, after, (List.append_assoc _ _ _).symm, ends, occurs⟩
  · rintro ⟨before, covered, after, whole, ends, occurs⟩
    rw [List.append_assoc] at whole
    exact ⟨before, covered ++ after, whole,
      (rule.occurrenceAt?_placesBehind word before _ span).2
        ⟨covered, after, rfl, ends, occurs⟩⟩

theorem Occurs.fits {rule : WordRule} {word text : Text} {span : Span}
    (occurs : rule.Occurs word text span) : span.Fits text := by
  rcases occurs with ⟨before, covered, after, rfl, rfl, _⟩
  exact Span.fits_of_append before covered after

end WordRule

/-! ## Occurrences of a query -/

theorem Query.mem_pattern_iff (query : Query) (text : Text) (span : Span) :
    span ∈ query.pattern text ↔
      query.isEmpty = false ∧ query.rule.Occurs query.text text span := by
  rw [pattern, Pattern.ofWord_eq, isEmpty]
  split
  · next empty => simp [empty]
  · next filled =>
      rw [WordRule.mem_occurrencesOf_iff]
      simp [filled]

theorem Search.mem_occurrences_of_findNext {search : Search} {offset : Nat}
    {span : Span} (found : search.findNext offset = some span) :
    span ∈ search.occurrences := by
  rw [findNext, Option.or_eq_some_iff] at found
  rcases found with ahead | ⟨_, first⟩
  · exact List.mem_of_find?_eq_some ahead
  · exact List.mem_of_head? first

theorem Query.occurs_of_findNext {query : Query} {text : Text} {offset : Nat}
    {span : Span} (found : (query.search text).findNext offset = some span) :
    query.rule.Occurs query.text text span :=
  ((query.mem_pattern_iff text span).1 (Search.mem_occurrences_of_findNext found)).2

end LiveEditor
