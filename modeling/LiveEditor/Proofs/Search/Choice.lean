import LiveEditor.Proofs.Search.Literal

/-! # Choices from left to right

Choosing spans from left to right passes over a span only when it overlaps one
that has been chosen.  Where a span that begins later also ends later, no choice
of spans that do not overlap has more of them.  The occurrences of a word are of
this kind, since each of them has as many characters as the word.
-/

namespace LiveEditor

namespace Span

def Overlaps (one other : Span) : Prop :=
  ∃ offset, one.contains offset = true ∧ other.contains offset = true

variable {counts : Span → Prop} {offset : Nat}

/-! ## What is passed over -/

theorem overlaps_of_contains_start {one other : Span} (nonempty : one.start < one.stop)
    (contains : other.contains one.start = true) : one.Overlaps other :=
  ⟨one.start, contains_iff.2 ⟨Nat.le_refl _, nonempty⟩, contains⟩

/-- A span that counts begins inside one that has been chosen. -/
theorem Unobstructed.exists_contains_start {spans : List Span}
    (unobstructed : Unobstructed counts offset spans) {span : Span} (counted : counts span)
    (behind : offset ≤ span.start) (nonempty : span.start < span.stop) :
    ∃ chosen ∈ spans, chosen.contains span.start = true := by
  by_cases member : span ∈ spans
  · exact ⟨span, member, contains_iff.2 ⟨Nat.le_refl _, nonempty⟩⟩
  · by_contra clear
    apply member
    refine (unobstructed.mem_iff span).2 ⟨⟨counted, behind⟩, ?_⟩
    intro earlier earlierMember before
    refine Nat.le_of_not_lt fun reaches => clear ⟨earlier, earlierMember, ?_⟩
    exact contains_iff.2 ⟨Nat.le_of_lt before, reaches⟩

theorem unobstructed_iff_eq_chooseFrom {spans : List Span} (ordered : Ordered spans)
    (counted : ∀ span, span ∈ spans ↔ counts span) (choices : List Span) :
    Unobstructed counts offset choices ↔ choices = chooseFrom offset spans := by
  have chosen := leftmost_chooseFrom ordered offset
  rw [Leftmost.congr counted] at chosen
  have determined : ∀ one other, counts one → counts other → one.start = other.start →
      one = other := fun one other oneCounts otherCounts =>
    ordered.eq_of_start_eq ((counted one).2 oneCounts) ((counted other).2 otherCounts)
  constructor
  · intro unobstructed
    exact unobstructed.leftmost.unique determined chosen
  · intro same
    rw [same]
    exact chosen.unobstructed
      (fun span counts => ordered.nonempty span ((counted span).2 counts)) determined

/-! ## The longest choice -/

/-- The exchange argument: the first span of any other choice ends no earlier than
the first one from the left, so what is behind the former is behind the latter. -/
theorem Leftmost.length_le {choices spans : List Span}
    (leftmost : Leftmost counts offset choices)
    (endsInOrder : ∀ one other, counts one → counts other → one.start ≤ other.start →
      one.stop ≤ other.stop)
    (counted : ∀ span ∈ spans, counts span) (behind : ∀ span ∈ spans, offset ≤ span.start)
    (disjoint : spans.Pairwise fun one other => one.stop ≤ other.start) :
    spans.length ≤ choices.length := by
  induction leftmost generalizing spans with
  | nil passed =>
      cases spans with
      | nil => exact Nat.le_refl _
      | cons span rest =>
          have before := passed span (counted span List.mem_cons_self)
          exact absurd (behind span List.mem_cons_self) (Nat.not_le.2 before)
  | @cons offset first choices isFirst later induction =>
      cases spans with
      | nil => exact Nat.zero_le _
      | cons span rest =>
          rcases List.pairwise_cons.1 disjoint with ⟨spanBefore, restDisjoint⟩
          have spanCounts := counted span List.mem_cons_self
          have starts : first.start ≤ span.start :=
            isFirst.least span spanCounts (behind span List.mem_cons_self)
          have stops : first.stop ≤ span.stop :=
            endsInOrder first span isFirst.counted spanCounts starts
          have shorter : rest.length ≤ choices.length :=
            induction (fun other member => counted other (List.mem_cons_of_mem span member))
              (fun other member => Nat.le_trans stops (spanBefore other member)) restDisjoint
          exact Nat.succ_le_succ shorter

end Span

namespace WordRule

/-! ## The ends of occurrences -/

theorem Occurs.stop_le_stop {rule : WordRule} {word text : Text} {one other : Span}
    (oneOccurs : rule.Occurs word text one) (otherOccurs : rule.Occurs word text other)
    (inOrder : one.start ≤ other.start) : one.stop ≤ other.stop := by
  rcases oneOccurs with ⟨before, covered, after, whole, rfl, occurs⟩
  rcases otherOccurs with ⟨otherBefore, otherCovered, otherAfter, split, rfl, otherOccurs⟩
  have sameLength : covered.length = otherCovered.length := by
    have codes := congrArg List.length (occurs.sameCodes.trans otherOccurs.sameCodes.symm)
    simpa only [List.length_map] using codes
  rw [List.append_assoc] at whole split
  rcases Text.exists_append_of_byteLength_le (whole.symm.trans split) inOrder with
    ⟨gap, rfl, behind⟩
  rw [← List.append_assoc] at behind
  -- Both begin behind `before`, and `gap` comes on top of the one that begins later.
  have front : covered <+: gap ++ otherCovered :=
    List.prefix_of_prefix_length_le (List.prefix_append covered after)
      (behind ▸ List.prefix_append (gap ++ otherCovered) otherAfter)
      (by rw [List.length_append]; omega)
  rcases front with ⟨more, longer⟩
  have length := congrArg Text.byteLength longer
  simp only [Text.byteLength_append] at length ⊢
  omega

end WordRule

theorem Query.length_le_allMatches {query : Query} {text : Text} {spans : List Span}
    (occurring : ∀ span ∈ spans, query.Occurs text span)
    (disjoint : spans.Pairwise fun one other => one.stop ≤ other.start) :
    spans.length ≤ (query.allMatches text).length := by
  have leftmost : Span.Leftmost (query.Occurs text) 0 (query.allMatches text) :=
    (leftmost_iff_eq_allMatches (fun _ => Iff.rfl) _).2 rfl
  exact leftmost.length_le (fun _ _ one other => one.2.stop_le_stop other.2) occurring
    (fun _ _ => Nat.zero_le _) disjoint

end LiveEditor
