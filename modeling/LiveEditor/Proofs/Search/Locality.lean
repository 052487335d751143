import LiveEditor.Proofs.Search.Matches

/-! # Searching a rest of a text

What is found behind some characters of a text comes behind everything that
begins among them.  A rule that lets a word begin and end anywhere looks at the
characters of the word only, so what it finds in a rest of a text is what it
finds in the rest alone, moved to its place, and the same holds for the matches
of a query that does not ask for whole words.
-/

namespace LiveEditor

namespace Span

/-! ## Choosing among moved spans -/

theorem shift_byteLength (front before covered : Text) :
    shift ⟨before.byteLength, (before ++ covered).byteLength⟩ front.byteLength =
      ⟨(front ++ before).byteLength, (front ++ before ++ covered).byteLength⟩ := by
  simp [shift, Nat.add_comm]

theorem chooseFrom_map_shift (offset distance : Nat) (spans : List Span) :
    chooseFrom (offset + distance) (spans.map (·.shift distance)) =
      (chooseFrom offset spans).map (·.shift distance) := by
  induction spans generalizing offset with
  | nil => rfl
  | cons span rest induction =>
      have moved : offset + distance ≤ (span.shift distance).start ↔ offset ≤ span.start :=
        Nat.add_le_add_iff_right
      rw [List.map_cons, chooseFrom, chooseFrom]
      by_cases behind : offset ≤ span.start
      · rw [if_pos (moved.2 behind), if_pos behind, List.map_cons, ← induction]
        rfl
      · rw [if_neg (mt moved.1 behind), if_neg behind, induction]

theorem chooseFrom_append_of_lt {offset : Nat} {earlier : List Span}
    (passed : ∀ span ∈ earlier, span.start < offset) (later : List Span) :
    chooseFrom offset (earlier ++ later) = chooseFrom offset later := by
  induction earlier with
  | nil => rfl
  | cons span rest induction =>
      rcases List.forall_mem_cons.1 passed with ⟨before, restPassed⟩
      rw [List.cons_append, chooseFrom, if_neg (Nat.not_le.2 before), induction restPassed]

end Span

namespace WordRule

variable (rule : WordRule)

/-! ## Occurrences in a rest -/

theorem exists_occurrencesOf_append (word passed front text : Text) :
    ∃ earlier, rule.occurrencesOf word (passed.placesBehind (front ++ text)) =
        earlier ++ rule.occurrencesOf word ((passed ++ front).placesBehind text) ∧
      ∀ span ∈ earlier, span.start < (passed ++ front).byteLength := by
  induction front generalizing passed with
  | nil => exact ⟨[], by rw [List.append_nil]; rfl, by simp⟩
  | cons character front induction =>
      have size := character.utf8Size_pos
      rcases induction (passed ++ [character]) with ⟨earlier, found, before⟩
      rw [List.append_assoc, List.singleton_append] at found before
      refine ⟨(rule.occurrenceAt? word
        (passed.placesBehind (character :: (front ++ text)))).toList ++ earlier, ?_, ?_⟩
      · rw [List.cons_append, Text.placesBehind_cons, occurrencesOf, found,
          List.append_assoc]
      · intro span member
        rcases List.mem_append.1 member with here | later
        · have start := rule.start_of_occurrenceAt? (Option.mem_toList.1 here)
          rw [start, Text.byteLength_append, Text.byteLength_cons]
          omega
        · exact before span later

def IsLoose (rule : WordRule) : Prop :=
  ∀ place, rule.free place = true

variable {rule}

theorem IsLoose.occursBetween_iff (loose : rule.IsLoose) (word before covered after : Text) :
    rule.OccursBetween word before covered after ↔
      covered.map rule.code = word.map rule.code :=
  ⟨OccursBetween.sameCodes, fun sameCodes => ⟨sameCodes, loose _, loose _⟩⟩

theorem IsLoose.occurrenceAt?_append (loose : rule.IsLoose) (word front passed text : Text) :
    rule.occurrenceAt? word ((front ++ passed).placesBehind text) =
      (rule.occurrenceAt? word (passed.placesBehind text)).map (·.shift front.byteLength) := by
  apply Option.ext
  intro span
  rw [Option.map_eq_some_iff, occurrenceAt?_placesBehind]
  simp only [occurrenceAt?_placesBehind, loose.occursBetween_iff]
  constructor
  · intro ⟨covered, after, whole, ends, sameCodes⟩
    exact ⟨_, ⟨covered, after, whole, rfl, sameCodes⟩,
      (Span.shift_byteLength front passed covered).trans ends.symm⟩
  · intro ⟨other, ⟨covered, after, whole, ends, sameCodes⟩, moved⟩
    refine ⟨covered, after, whole, ?_, sameCodes⟩
    rw [← moved, ends, Span.shift_byteLength]

theorem IsLoose.occurrencesOf_append (loose : rule.IsLoose) (word front passed text : Text) :
    rule.occurrencesOf word ((front ++ passed).placesBehind text) =
      (rule.occurrencesOf word (passed.placesBehind text)).map (·.shift front.byteLength) := by
  induction text generalizing passed with
  | nil =>
      have here := loose.occurrenceAt?_append word front passed []
      rw [Text.placesBehind_nil, Text.placesBehind_nil] at here ⊢
      rw [occurrencesOf, occurrencesOf, here, occurrencesOf, occurrencesOf]
      cases rule.occurrenceAt? word [.between passed []] <;> rfl
  | cons character rest induction =>
      have here := loose.occurrenceAt?_append word front passed (character :: rest)
      rw [Text.placesBehind_cons, Text.placesBehind_cons] at here ⊢
      rw [occurrencesOf, here, occurrencesOf, List.append_assoc, induction, List.map_append]
      cases rule.occurrenceAt? word _ <;> rfl

end WordRule

namespace Query

variable {query : Query}

/-! ## Matches in a rest -/

theorem isLoose_rule (anywhere : query.wholeWord = false) : query.rule.IsLoose := by
  intro place
  rw [rule, anywhere]
  rfl

/-- Of the occurrences in a text those that are chosen from an offset on are the
matches of the rest behind it. -/
theorem chooseFrom_pattern_append (anywhere : query.wholeWord = false) (front text : Text) :
    Span.chooseFrom front.byteLength (query.pattern (front ++ text)) =
      (query.allMatches text).map (·.shift front.byteLength) := by
  rw [allMatches, Pattern.allMatches, ← Span.chooseFrom_map_shift, Nat.zero_add, pattern,
    Pattern.ofWord_eq, Pattern.ofWord_eq]
  split
  · rfl
  · rcases query.rule.exists_occurrencesOf_append query.text [] front text with
      ⟨earlier, found, before⟩
    have rest := (isLoose_rule anywhere).occurrencesOf_append query.text front [] text
    rw [List.append_nil] at rest
    rw [List.nil_append] at found before
    rw [Text.places_eq_placesBehind, Text.places_eq_placesBehind, found, rest,
      Span.chooseFrom_append_of_lt before]

theorem findNext_append (anywhere : query.wholeWord = false) {front text : Text} {span : Span}
    (first : (query.allMatches text).head? = some span) :
    (query.search (front ++ text)).findNext front.byteLength =
      some (span.shift front.byteLength) := by
  have ahead := Span.head?_chooseFrom (query.ordered_pattern (front ++ text)) front.byteLength
  rw [chooseFrom_pattern_append anywhere, List.head?_map, first, Option.map_some] at ahead
  rw [findNext_eq, Text.floorBoundary_of_isBoundary (Text.isBoundary_append front text),
    ← ahead, Option.some_or]

/-- Behind the first match the matches are those of the rest. -/
theorem exists_of_allMatches_eq_cons (anywhere : query.wholeWord = false) {text : Text}
    {span : Span} {spans : List Span} (matched : query.allMatches text = span :: spans) :
    ∃ gap covered later, text = gap ++ covered ++ later ∧ covered ≠ [] ∧
      span = ⟨gap.byteLength, (gap ++ covered).byteLength⟩ ∧
      spans = (query.allMatches later).map (·.shift (gap ++ covered).byteLength) := by
  have ordered := query.ordered_pattern text
  have found : (query.pattern text).find? (0 ≤ ·.start) = some span := by
    rw [← Span.head?_chooseFrom ordered, ← Pattern.allMatches, ← allMatches, matched,
      List.head?_cons]
  have choices := Span.chooseFrom_of_find?_eq_some ordered found
  rw [← Pattern.allMatches, ← allMatches, matched, List.cons_inj_right] at choices
  have member := List.mem_of_find?_eq_some found
  have nonempty := ordered.nonempty span member
  rcases ((query.mem_pattern_iff text span).1 member).2 with
    ⟨gap, covered, later, rfl, rfl, _⟩
  refine ⟨gap, covered, later, rfl, ?_, rfl, ?_⟩
  · intro empty
    rw [empty, List.append_nil] at nonempty
    exact absurd nonempty (Nat.lt_irrefl _)
  · rw [choices, chooseFrom_pattern_append anywhere]

end Query

end LiveEditor
