import LiveEditor.Proofs.Search.WholeWord
import Mathlib.Data.List.Forall2

/-! # Literal matches

A query is taken literally: it stands in a text wherever the characters are its own, one
by one and up to case if case does not count, between word boundaries if whole words are
asked for.  The places where it stands may overlap.  The matches are those of them that
no earlier match overlaps, and this tells them all.
-/

namespace LiveEditor

namespace Span

/-! ## Spans that no earlier one overlaps -/

/-- Spans in order that do not overlap: of all that count and begin at or behind an
offset those into which no earlier one of them reaches. -/
structure Unobstructed (counts : Span → Prop) (offset : Nat) (spans : List Span) : Prop where
  disjoint : spans.Pairwise fun one other => one.stop ≤ other.start
  nonempty : ∀ span ∈ spans, span.start < span.stop
  mem_iff : ∀ span, span ∈ spans ↔ (counts span ∧ offset ≤ span.start) ∧
    ∀ earlier ∈ spans, earlier.start < span.start → earlier.stop ≤ span.start

variable {counts : Span → Prop} {offset : Nat} {spans : List Span}

theorem Unobstructed.tail {first : Span} {rest : List Span}
    (unobstructed : Unobstructed counts offset (first :: rest)) :
    Unobstructed counts first.stop rest where
  disjoint := (List.pairwise_cons.1 unobstructed.disjoint).2
  nonempty := (List.forall_mem_cons.1 unobstructed.nonempty).2
  mem_iff := by
    intro span
    have behind := (List.pairwise_cons.1 unobstructed.disjoint).1
    have filled := unobstructed.nonempty first List.mem_cons_self
    have within := ((unobstructed.mem_iff first).1 List.mem_cons_self).1.2
    constructor
    · intro member
      rcases (unobstructed.mem_iff span).1 (List.mem_cons_of_mem first member) with
        ⟨⟨counted, _⟩, clear⟩
      exact ⟨⟨counted, behind span member⟩, fun earlier earlierMember =>
        clear earlier (List.mem_cons_of_mem first earlierMember)⟩
    · rintro ⟨⟨counted, begins⟩, clear⟩
      have member : span ∈ first :: rest := by
        refine (unobstructed.mem_iff span).2 ⟨⟨counted, by omega⟩, ?_⟩
        rintro earlier (_ | ⟨_, earlierMember⟩) before
        · exact begins
        · exact clear earlier earlierMember before
      rcases List.mem_cons.1 member with rfl | later
      · omega
      · exact later

/-- The first of them begins first of all that count. -/
theorem Unobstructed.isFirstFrom {first : Span} {rest : List Span}
    (unobstructed : Unobstructed counts offset (first :: rest)) :
    IsFirstFrom counts offset first := by
  rcases (unobstructed.mem_iff first).1 List.mem_cons_self with ⟨⟨counted, begins⟩, _⟩
  refine ⟨counted, begins, fun other otherCounted otherBegins => ?_⟩
  have filled := unobstructed.nonempty first List.mem_cons_self
  have behind := (List.pairwise_cons.1 unobstructed.disjoint).1
  refine Decidable.byContradiction fun before => ?_
  have notLater : ∀ span ∈ first :: rest, ¬ span.start < other.start := by
    rintro span (_ | ⟨_, member⟩)
    · omega
    · have := behind span member
      omega
  have member : other ∈ first :: rest := (unobstructed.mem_iff other).2
    ⟨⟨otherCounted, otherBegins⟩, fun span spanMember earlier =>
      absurd earlier (notLater span spanMember)⟩
  rcases List.mem_cons.1 member with rfl | later
  · exact before (Nat.le_refl _)
  · have := behind other later
    omega

theorem Unobstructed.leftmost (unobstructed : Unobstructed counts offset spans) :
    Leftmost counts offset spans := by
  induction spans generalizing offset with
  | nil =>
      refine .nil fun span counted => Nat.lt_of_not_le fun begins => ?_
      have member := (unobstructed.mem_iff span).2 ⟨⟨counted, begins⟩, by simp⟩
      cases member
  | cons first rest induction => exact .cons unobstructed.isFirstFrom (induction unobstructed.tail)

theorem Leftmost.unobstructed (filled : ∀ span, counts span → span.start < span.stop)
    (determined : ∀ one other, counts one → counts other → one.start = other.start →
      one = other)
    (leftmost : Leftmost counts offset spans) : Unobstructed counts offset spans := by
  induction leftmost with
  | nil passed =>
      refine ⟨.nil, by simp, fun span => ⟨by simp, ?_⟩⟩
      rintro ⟨⟨counted, begins⟩, _⟩
      exact absurd (passed span counted) (Nat.not_lt.2 begins)
  | @cons offset first rest isFirst _ induction =>
      have firstFilled := filled first isFirst.counted
      have behind : ∀ span ∈ rest, first.stop ≤ span.start := fun span member =>
        ((induction.mem_iff span).1 member).1.2
      refine ⟨.cons behind induction.disjoint,
        List.forall_mem_cons.2 ⟨firstFilled, induction.nonempty⟩, fun span => ⟨?_, ?_⟩⟩
      · rintro (_ | ⟨_, member⟩)
        · refine ⟨⟨isFirst.counted, isFirst.behind⟩, ?_⟩
          rintro earlier (_ | ⟨_, later⟩) before
          · omega
          · have := behind earlier later
            omega
        · rcases (induction.mem_iff span).1 member with ⟨⟨counted, begins⟩, clear⟩
          have := isFirst.behind
          refine ⟨⟨counted, by omega⟩, ?_⟩
          rintro earlier (_ | ⟨_, later⟩) before
          · exact begins
          · exact clear earlier later before
      · rintro ⟨⟨counted, begins⟩, clear⟩
        rcases Nat.eq_or_lt_of_le (isFirst.least span counted begins) with same | before
        · rw [determined first span isFirst.counted counted same]
          exact List.mem_cons_self
        · have passed := clear first List.mem_cons_self before
          exact List.mem_cons_of_mem first ((induction.mem_iff span).2
            ⟨⟨counted, passed⟩, fun earlier member =>
              clear earlier (List.mem_cons_of_mem first member)⟩)

end Span

namespace Query

/-! ## Literal occurrences -/

/-- Two characters count as the same: they are equal, or they differ in case at most
when case does not count. -/
def SameCharacter (query : Query) (one other : Char) : Prop :=
  if query.caseSensitive then one = other
  else Unicode.foldCode one = Unicode.foldCode other

/-- The characters of a query stand at a span of a text, one by one, and between word
boundaries of the text if whole words are asked for. -/
def StandsAt (query : Query) (text : Text) (span : Span) : Prop :=
  ∃ before covered after, text = before ++ covered ++ after ∧
    span = ⟨before.byteLength, (before ++ covered).byteLength⟩ ∧
    List.Forall₂ query.SameCharacter covered query.text ∧
    (query.wholeWord = true →
      Unicode.isWordBoundary before.getLast? (covered ++ after).head? = true ∧
        Unicode.isWordBoundary (before ++ covered).getLast? after.head? = true)

variable {query : Query}

theorem sameCharacter_iff (one other : Char) :
    query.SameCharacter one other ↔ query.rule.code one = query.rule.code other := by
  rw [SameCharacter, rule, WordRule.ofOptions]
  cases query.caseSensitive with
  | false => exact Iff.rfl
  | true => exact Char.toNat_inj.symm

theorem forall₂_sameCharacter_iff (covered word : Text) :
    List.Forall₂ query.SameCharacter covered word ↔
      covered.map query.rule.code = word.map query.rule.code := by
  rw [← List.forall₂_eq_eq_eq, List.forall₂_map_left_iff, List.forall₂_map_right_iff]
  simp only [← sameCharacter_iff]

theorem occursBetween_rule_iff (word before covered after : Text) :
    query.rule.OccursBetween word before covered after ↔
      List.Forall₂ query.SameCharacter covered word ∧
      (query.wholeWord = true →
        Unicode.isWordBoundary before.getLast? (covered ++ after).head? = true ∧
          Unicode.isWordBoundary (before ++ covered).getLast? after.head? = true) := by
  rw [forall₂_sameCharacter_iff]
  have free : ∀ place : Place, query.rule.free place = true ↔
      (query.wholeWord = true → Unicode.isWordBoundary place.before place.after = true) := by
    intro place
    rw [rule, WordRule.ofOptions]
    cases query.wholeWord <;> simp [WordRule.isWordBoundary]
  constructor
  · intro occurs
    exact ⟨occurs.sameCodes, fun wholeWord =>
      ⟨(free _).1 occurs.freeBefore wholeWord, (free _).1 occurs.freeAfter wholeWord⟩⟩
  · rintro ⟨sameCodes, boundaries⟩
    exact ⟨sameCodes, (free _).2 fun wholeWord => (boundaries wholeWord).1,
      (free _).2 fun wholeWord => (boundaries wholeWord).2⟩

theorem occurs_iff_standsAt (filled : query.text ≠ []) (text : Text) (span : Span) :
    query.Occurs text span ↔ query.StandsAt text span := by
  have something : query.isEmpty = false := by simpa [isEmpty] using filled
  simp only [Occurs, something, true_and, WordRule.Occurs, occursBetween_rule_iff, StandsAt]

theorem allMatches_of_text_nil (empty : query.text = []) (text : Text) :
    query.allMatches text = [] := by
  rw [allMatches, pattern, Pattern.allMatches, Pattern.ofWord_eq, empty]
  rfl

/-- The empty query has no matches.  The matches of any other query are the places where
its characters stand and no earlier match overlaps them; they are in order, do not
overlap and are not empty, and no other list of spans is like this. -/
theorem allMatches_unobstructed (query : Query) (text : Text) :
    (query.text = [] → query.allMatches text = []) ∧
    (query.text ≠ [] → ∀ spans, spans = query.allMatches text ↔
      Span.Unobstructed (query.StandsAt text) 0 spans) := by
  refine ⟨fun empty => allMatches_of_text_nil empty text, fun filled spans => ?_⟩
  have same := occurs_iff_standsAt filled text
  rw [← leftmost_iff_eq_allMatches same spans]
  constructor
  · refine Span.Leftmost.unobstructed ?_ ?_
    · exact fun span stands => ((same span).2 stands).2.nonempty filled
    · exact fun one other oneStands otherStands =>
        ((same one).2 oneStands).eq_of_start_eq ((same other).2 otherStands)
  · exact Span.Unobstructed.leftmost

end Query

end LiveEditor
