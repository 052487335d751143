import LiveEditor.Proofs.Search.Occurrence

/-! # The matches of a query

The occurrences of a query come in the order of their starts, and none of them
is empty.  The matches are chosen among them from left to right, each of them
the first occurrence at or behind the end of the match before it.  The search
for the next occurrence makes the same choice, so it leads from each match to
the one behind it, and from the last match back to the first.
-/

namespace LiveEditor

namespace Span

/-! ## The first span behind an offset -/

structure Ordered (spans : List Span) : Prop where
  ascending : spans.Pairwise fun one other => one.start < other.start
  nonempty : ∀ span ∈ spans, span.start < span.stop

theorem Ordered.tail {first : Span} {rest : List Span}
    (ordered : Ordered (first :: rest)) : Ordered rest where
  ascending := (List.pairwise_cons.1 ordered.ascending).2
  nonempty := (List.forall_mem_cons.1 ordered.nonempty).2

/-- Of the spans that count, the one with the least start at or behind an
offset. -/
structure IsFirstFrom (counts : Span → Prop) (offset : Nat) (span : Span) : Prop where
  counted : counts span
  behind : offset ≤ span.start
  least : ∀ other, counts other → offset ≤ other.start → span.start ≤ other.start

theorem find?_zero (spans : List Span) : spans.find? (0 ≤ ·.start) = spans.head? := by
  cases spans <;> simp

theorem find?_eq_some_iff {spans : List Span} (ordered : Ordered spans) (offset : Nat)
    (span : Span) :
    spans.find? (offset ≤ ·.start) = some span ↔ IsFirstFrom (· ∈ spans) offset span := by
  induction spans with
  | nil =>
      constructor
      · intro found
        cases found
      · intro first
        cases first.counted
  | cons head rest induction =>
      have later := (List.pairwise_cons.1 ordered.ascending).1
      by_cases behind : offset ≤ head.start
      · rw [List.find?_cons_of_pos (by simpa using behind), Option.some_inj]
        constructor
        · rintro rfl
          refine ⟨List.mem_cons_self, behind, ?_⟩
          rintro other (_ | ⟨_, member⟩) _
          · exact Nat.le_refl _
          · exact Nat.le_of_lt (later other member)
        · intro first
          have least := first.least head List.mem_cons_self behind
          rcases List.mem_cons.1 first.counted with same | member
          · exact same.symm
          · have further := later span member
            omega
      · rw [List.find?_cons_of_neg (by simpa using behind), induction ordered.tail]
        constructor
        · intro first
          refine ⟨List.mem_cons_of_mem head first.counted, first.behind, ?_⟩
          rintro other (_ | ⟨_, member⟩) otherBehind
          · exact absurd otherBehind behind
          · exact first.least other member otherBehind
        · intro first
          rcases List.mem_cons.1 first.counted with rfl | member
          · exact absurd first.behind behind
          · exact ⟨member, first.behind, fun other otherMember =>
              first.least other (List.mem_cons_of_mem head otherMember)⟩

theorem Ordered.eq_of_start_eq {spans : List Span} (ordered : Ordered spans)
    {one other : Span} (oneMember : one ∈ spans) (otherMember : other ∈ spans)
    (same : one.start = other.start) : one = other := by
  have first : ∀ span ∈ spans, spans.find? (span.start ≤ ·.start) = some span :=
    fun span member => (find?_eq_some_iff ordered span.start span).2
      ⟨member, Nat.le_refl _, fun _ _ behind => behind⟩
  have found := first other otherMember
  rw [← same, first one oneMember, Option.some_inj] at found
  exact found

/-! ## Choosing from left to right -/

theorem chooseFrom_of_find?_eq_none {spans : List Span} {offset : Nat}
    (none : spans.find? (offset ≤ ·.start) = none) : chooseFrom offset spans = [] := by
  induction spans with
  | nil => rfl
  | cons head rest induction =>
      rw [List.find?_eq_none] at none
      have before : ¬ offset ≤ head.start := by simpa using none head List.mem_cons_self
      rw [chooseFrom, if_neg before]
      apply induction
      rw [List.find?_eq_none]
      exact fun span member => none span (List.mem_cons_of_mem head member)

/-- The first choice, and then the choices behind it.  What has been passed over
begins before the first choice ends and is passed over again. -/
theorem chooseFrom_of_find?_eq_some {spans : List Span} (ordered : Ordered spans)
    {offset : Nat} {first : Span} (found : spans.find? (offset ≤ ·.start) = some first) :
    chooseFrom offset spans = first :: chooseFrom first.stop spans := by
  induction spans with
  | nil => cases found
  | cons head rest induction =>
      by_cases behind : offset ≤ head.start
      · rw [List.find?_cons_of_pos (by simpa using behind), Option.some_inj] at found
        subst found
        have passed : ¬ head.stop ≤ head.start :=
          Nat.not_le.2 (ordered.nonempty head List.mem_cons_self)
        rw [chooseFrom, if_pos behind, chooseFrom, if_neg passed]
      · rw [List.find?_cons_of_neg (by simpa using behind)] at found
        have member := List.mem_of_find?_eq_some found
        have further := (List.pairwise_cons.1 ordered.ascending).1 first member
        have nonempty := ordered.nonempty first (List.mem_cons_of_mem head member)
        have passed : ¬ first.stop ≤ head.start := by omega
        rw [chooseFrom, if_neg behind, induction ordered.tail found, chooseFrom,
          if_neg passed]

theorem head?_chooseFrom {spans : List Span} (ordered : Ordered spans) (offset : Nat) :
    (chooseFrom offset spans).head? = spans.find? (offset ≤ ·.start) := by
  cases found : spans.find? (offset ≤ ·.start) with
  | none => rw [chooseFrom_of_find?_eq_none found, List.head?_nil]
  | some first => rw [chooseFrom_of_find?_eq_some ordered found, List.head?_cons]

/-- Behind each choice stand the choices from its end on. -/
theorem drop_chooseFrom {spans : List Span} (ordered : Ordered spans) {offset index : Nat}
    {chosen : Span} (choice : (chooseFrom offset spans)[index]? = some chosen) :
    (chooseFrom offset spans).drop (index + 1) = chooseFrom chosen.stop spans := by
  induction index generalizing offset with
  | zero =>
      rw [← List.head?_eq_getElem?, head?_chooseFrom ordered] at choice
      rw [chooseFrom_of_find?_eq_some ordered choice]
      rfl
  | succ index induction =>
      cases found : spans.find? (offset ≤ ·.start) with
      | none =>
          rw [chooseFrom_of_find?_eq_none found] at choice
          cases choice
      | some first =>
          rw [chooseFrom_of_find?_eq_some ordered found] at choice ⊢
          exact induction choice

theorem getElem?_succ_chooseFrom {spans : List Span} (ordered : Ordered spans)
    {offset index : Nat} {chosen : Span}
    (choice : (chooseFrom offset spans)[index]? = some chosen) :
    (chooseFrom offset spans)[index + 1]? = spans.find? (chosen.stop ≤ ·.start) := by
  rw [← head?_chooseFrom ordered, ← drop_chooseFrom ordered choice, List.head?_drop]

theorem chooseFrom_sublist (offset : Nat) (spans : List Span) :
    (chooseFrom offset spans).Sublist spans := by
  induction spans generalizing offset with
  | nil => exact .slnil
  | cons head rest induction =>
      rw [chooseFrom]
      split
      · exact (induction head.stop).cons_cons head
      · exact (induction offset).cons head

theorem le_start_of_mem_chooseFrom {spans : List Span} (ordered : Ordered spans)
    {offset : Nat} : ∀ span ∈ chooseFrom offset spans, offset ≤ span.start := by
  induction spans generalizing offset with
  | nil => simp [chooseFrom]
  | cons head rest induction =>
      have nonempty := ordered.nonempty head List.mem_cons_self
      intro span member
      rw [chooseFrom] at member
      split at member
      · next behind =>
          rcases List.mem_cons.1 member with rfl | member
          · exact behind
          · have further := induction ordered.tail span member
            omega
      · exact induction ordered.tail span member

theorem pairwise_chooseFrom {spans : List Span} (ordered : Ordered spans) (offset : Nat) :
    (chooseFrom offset spans).Pairwise fun one other => one.stop ≤ other.start := by
  induction spans generalizing offset with
  | nil => exact .nil
  | cons head rest induction =>
      rw [chooseFrom]
      split
      · exact .cons (le_start_of_mem_chooseFrom ordered.tail) (induction ordered.tail _)
      · exact induction ordered.tail offset

end Span

namespace WordRule

variable (rule : WordRule)

/-! ## The order of occurrences -/

theorem Occurs.nonempty {rule : WordRule} {word text : Text} {span : Span}
    (filled : word ≠ []) (occurs : rule.Occurs word text span) : span.start < span.stop := by
  rcases occurs with ⟨before, covered, after, rfl, rfl, occurs⟩
  have some : covered ≠ [] := by
    rintro rfl
    exact filled (List.map_eq_nil_iff.1 occurs.sameCodes.symm)
  have positive : covered.byteLength ≠ 0 := mt Text.byteLength_eq_zero_iff.1 some
  simp only [Text.byteLength_append]
  omega

theorem le_start_of_mem_occurrencesOf {word passed text : Text} {span : Span}
    (member : span ∈ rule.occurrencesOf word (passed.placesBehind text)) :
    passed.byteLength ≤ span.start := by
  rcases (rule.mem_occurrencesOf_placesBehind word passed text span).1 member with
    ⟨between, behind, rfl, found⟩
  rcases (rule.occurrenceAt?_placesBehind word _ behind span).1 found with ⟨_, _, _, rfl, _⟩
  simp

theorem start_of_occurrenceAt? {word passed text : Text} {span : Span}
    (found : rule.occurrenceAt? word (passed.placesBehind text) = some span) :
    span.start = passed.byteLength := by
  rcases (rule.occurrenceAt?_placesBehind word passed text span).1 found with
    ⟨_, _, _, rfl, _⟩
  rfl

theorem pairwise_occurrencesOf (word passed text : Text) :
    (rule.occurrencesOf word (passed.placesBehind text)).Pairwise
      fun one other => one.start < other.start := by
  induction text generalizing passed with
  | nil =>
      rw [Text.placesBehind_nil, occurrencesOf, occurrencesOf, List.append_nil]
      cases rule.occurrenceAt? word [.between passed []] <;> simp
  | cons character rest induction =>
      have size := character.utf8Size_pos
      rw [Text.placesBehind_cons, occurrencesOf, ← Text.placesBehind_cons]
      cases found : rule.occurrenceAt? word (passed.placesBehind (character :: rest)) with
      | none => exact induction (passed ++ [character])
      | some span =>
          refine .cons (fun other member => ?_) (induction (passed ++ [character]))
          have here := rule.start_of_occurrenceAt? found
          have later := rule.le_start_of_mem_occurrencesOf member
          simp only [Text.byteLength_append, Text.byteLength_cons] at later
          omega

end WordRule

namespace Query

def Occurs (query : Query) (text : Text) (span : Span) : Prop :=
  query.isEmpty = false ∧ query.rule.Occurs query.text text span

/-- The occurrence with the least start at or behind an offset; if there is none,
the one with the least start of all. -/
def IsNext (query : Query) (text : Text) (offset : Nat) (span : Span) : Prop :=
  Span.IsFirstFrom (query.Occurs text) offset span ∨
    (∀ other, query.Occurs text other → other.start < offset) ∧
      Span.IsFirstFrom (query.Occurs text) 0 span

variable (query : Query) (text : Text)

theorem mem_pattern_iff_occurs (span : Span) :
    span ∈ query.pattern text ↔ query.Occurs text span :=
  query.mem_pattern_iff text span

theorem ordered_pattern : Span.Ordered (query.pattern text) where
  ascending := by
    rw [pattern, Pattern.ofWord_eq]
    split
    · exact .nil
    · exact query.rule.pairwise_occurrencesOf query.text [] text
  nonempty := by
    intro span member
    rcases (query.mem_pattern_iff text span).1 member with ⟨filled, occurs⟩
    exact occurs.nonempty (by simpa [isEmpty] using filled)

theorem find?_pattern_eq_some_iff (offset : Nat) (span : Span) :
    (query.pattern text).find? (offset ≤ ·.start) = some span ↔
      Span.IsFirstFrom (query.Occurs text) offset span := by
  rw [Span.find?_eq_some_iff (query.ordered_pattern text)]
  simp only [funext fun span => propext (query.mem_pattern_iff_occurs text span)]

/-! ## The next match -/

theorem findNext_eq (offset : Nat) :
    (query.search text).findNext offset =
      ((query.pattern text).find? (text.floorBoundary offset ≤ ·.start)).or
        (query.pattern text).head? := rfl

theorem findNext_eq_some_iff (offset : Nat) (span : Span) :
    (query.search text).findNext offset = some span ↔
      query.IsNext text (text.floorBoundary offset) span := by
  rw [findNext_eq, Option.or_eq_some_iff, ← Span.find?_zero, find?_pattern_eq_some_iff,
    find?_pattern_eq_some_iff, List.find?_eq_none]
  simp [IsNext, ← mem_pattern_iff_occurs]

theorem head?_allMatches : (query.allMatches text).head? = (query.pattern text).head? :=
  (Span.head?_chooseFrom (query.ordered_pattern text) 0).trans (Span.find?_zero _)

theorem findNext_eq_none_iff (offset : Nat) :
    (query.search text).findNext offset = none ↔ query.allMatches text = [] := by
  rw [findNext_eq, Option.or_eq_none_iff, ← head?_allMatches, List.head?_eq_none_iff]
  constructor
  · exact And.right
  · intro unmatched
    refine ⟨?_, unmatched⟩
    rw [← List.head?_eq_none_iff, head?_allMatches, List.head?_eq_none_iff] at unmatched
    rw [unmatched, List.find?_nil]

theorem exists_findNext {query : Query} {text : Text} {span : Span}
    (occurs : query.Occurs text span) (offset : Nat) :
    ∃ next, (query.search text).findNext offset = some next ∧ query.Occurs text next := by
  cases found : (query.search text).findNext offset with
  | none =>
      rw [findNext_eq, Option.or_eq_none_iff, List.head?_eq_none_iff] at found
      have member := (query.mem_pattern_iff_occurs text span).2 occurs
      rw [found.2] at member
      cases member
  | some next =>
      exact ⟨next, rfl, (query.mem_pattern_iff_occurs text next).1
        (Search.mem_occurrences_of_findNext found)⟩

theorem Occurs.eq_of_start_eq {query : Query} {text : Text} {one other : Span}
    (oneOccurs : query.Occurs text one) (otherOccurs : query.Occurs text other)
    (same : one.start = other.start) : one = other :=
  (query.ordered_pattern text).eq_of_start_eq
    ((query.mem_pattern_iff_occurs text one).2 oneOccurs)
    ((query.mem_pattern_iff_occurs text other).2 otherOccurs) same

theorem occurs_of_mem_allMatches {query : Query} {text : Text} {span : Span}
    (member : span ∈ query.allMatches text) : query.Occurs text span :=
  (query.mem_pattern_iff_occurs text span).1
    ((Span.chooseFrom_sublist 0 (query.pattern text)).subset member)

theorem fits_of_mem_allMatches {query : Query} {text : Text} {span : Span}
    (member : span ∈ query.allMatches text) : span.Fits text :=
  (occurs_of_mem_allMatches member).2.fits

theorem nonempty_of_mem_allMatches {query : Query} {text : Text} {span : Span}
    (member : span ∈ query.allMatches text) : span.start < span.stop :=
  (query.ordered_pattern text).nonempty span
    ((query.mem_pattern_iff_occurs text span).2 (occurs_of_mem_allMatches member))

theorem findNext_zero :
    (query.search text).findNext 0 = (query.allMatches text).head? := by
  have start : text.floorBoundary 0 = 0 := Nat.le_zero.1 (Text.floorBoundary_le text 0)
  rw [findNext_eq, start, Span.find?_zero, Option.or_self, head?_allMatches]

/-- From the end of a match the search goes to the match behind it, and from the
last one to the first. -/
theorem findNext_stop {query : Query} {text : Text} {index : Nat} {span : Span}
    (chosen : (query.allMatches text)[index]? = some span) :
    (query.search text).findNext span.stop =
      (query.allMatches text)[(index + 1) % (query.allMatches text).length]? := by
  have fits : span.Fits text := fits_of_mem_allMatches (List.mem_of_getElem? chosen)
  have next : (query.pattern text).find? (span.stop ≤ ·.start) =
      (query.allMatches text)[index + 1]? :=
    (Span.getElem?_succ_chooseFrom (query.ordered_pattern text) chosen).symm
  rw [findNext_eq, Text.floorBoundary_of_isBoundary fits.stopsAtBoundary, next,
    ← head?_allMatches, List.head?_eq_getElem?]
  have inside : index < (query.allMatches text).length :=
    (List.getElem?_eq_some_iff.1 chosen).1
  by_cases last : index + 1 = (query.allMatches text).length
  · rw [List.getElem?_eq_none (Nat.le_of_eq last.symm), Option.none_or, last,
      Nat.mod_self]
  · have further : index + 1 < (query.allMatches text).length := by omega
    rw [Nat.mod_eq_of_lt further, List.getElem?_eq_getElem further, Option.some_or]

end Query

end LiveEditor
