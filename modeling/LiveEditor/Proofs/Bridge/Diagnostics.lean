import LiveEditor.Bridge.Diagnostics
import LiveEditor.Proofs.Number.Digits
import LiveEditor.Proofs.Search.WholeWord
import Mathlib.Data.Finset.Card
import Mathlib.Data.List.Forall2

/-! # The line numbers of a diagnostic

A diagnostic names a line where ASCII digits stand between two colons.  The places where
they do are chosen from left to right so that none shares a colon with the one before it,
and the values of their digits are the line numbers, less those that do not fit into 64
bits.
-/

namespace LiveEditor

/-- A choice from a later offset on is one from an earlier offset on, too, if nothing that
counts begins between the two. -/
theorem Span.Leftmost.of_later {counts : Span → Prop} {earlier later : Nat}
    {spans : List Span} (leftmost : Leftmost counts later spans) (ordered : earlier ≤ later)
    (skipped : ∀ span, counts span → earlier ≤ span.start → later ≤ span.start) :
    Leftmost counts earlier spans := by
  cases leftmost with
  | nil passed =>
      refine .nil fun span counted => Nat.lt_of_not_le fun behind => ?_
      exact absurd (passed span counted) (Nat.not_lt.2 (skipped span counted behind))
  | cons first rest =>
      exact .cons ⟨first.counted, Nat.le_trans ordered first.behind, fun other counted behind =>
        first.least other counted (skipped other counted behind)⟩ rest

namespace Diagnostics

def AreDigits (digits : Text) : Prop :=
  digits ≠ [] ∧ ∀ digit ∈ digits, digit ∈ "0123456789".toList

def Encloses (text : Text) (span : Span) (digits : Text) : Prop :=
  AreDigits digits ∧ text.slice span = .ok (':' :: digits ++ [':'])

def IsReference (text : Text) (span : Span) : Prop :=
  ∃ digits, Encloses text span digits

/-- A number stands between two colons at a span of a text, written out and perhaps with
zeros before it. -/
def Names (text : Text) (span : Span) (value : Nat) : Prop :=
  ∃ zeros, text.slice span =
    .ok (':' :: (List.replicate zeros '0' ++ Nat.toDigits 10 value) ++ [':'])

/-! ## Digits at the front of a text -/

theorem isDigit_iff {character : Char} :
    isDigit character = true ↔ character ∈ "0123456789".toList := by
  constructor
  · intro digit
    rcases Number.digitChar_digitValue digit with ⟨written, small⟩
    have listed : ∀ value < 10, value.digitChar ∈ "0123456789".toList := by decide
    rw [← written]
    exact listed _ small
  · have digits : "0123456789".toList.all isDigit = true := by decide
    exact List.all_eq_true.1 digits character

theorem AreDigits.all_isDigit {digits : Text} (areDigits : AreDigits digits) :
    ∀ digit ∈ digits, isDigit digit = true :=
  fun digit member => isDigit_iff.2 (areDigits.2 digit member)

theorem enclosedDigits?_eq_some_iff {text digits : Text} :
    enclosedDigits? text = some digits ↔
      AreDigits digits ∧ ∃ after, text = ':' :: digits ++ [':'] ++ after := by
  constructor
  · intro found
    rw [enclosedDigits?.eq_def] at found
    split at found
    · next rest =>
        have decimal : ∀ digit ∈ rest.takeWhile isDigit, isDigit digit = true :=
          List.all_eq_true.1 List.all_takeWhile
        have whole : rest.takeWhile isDigit ++ rest.dropWhile isDigit = rest :=
          List.takeWhile_append_dropWhile
        generalize rest.takeWhile isDigit = taken at found decimal whole
        generalize rest.dropWhile isDigit = behind at whole
        subst whole
        dsimp only at found
        split at found
        · next closed =>
            cases found
            refine ⟨⟨closed.1, fun digit member => isDigit_iff.1 (decimal digit member)⟩, ?_⟩
            have colon : behind[0]? = some ':' := by
              rw [← closed.2, List.getElem?_append_right (Nat.le_refl _), Nat.sub_self]
            cases behind with
            | nil => cases colon
            | cons first after =>
                cases colon
                exact ⟨after, by simp⟩
        · cases found
    · cases found
  · rintro ⟨areDigits, after, rfl⟩
    have taken : (digits ++ ':' :: after).takeWhile isDigit = digits := by
      rw [List.takeWhile_append_of_pos areDigits.all_isDigit,
        List.takeWhile_cons_of_neg (by decide), List.append_nil]
    have colon : (digits ++ ':' :: after)[digits.length]? = some ':' := by
      rw [List.getElem?_append_right (Nat.le_refl _), Nat.sub_self]
      rfl
    rw [List.append_assoc, List.singleton_append, List.cons_append, enclosedDigits?,
      taken, if_pos ⟨areDigits.1, colon⟩]

/-! ## References -/

theorem encloses_iff {text digits : Text} {span : Span} :
    Encloses text span digits ↔ ∃ before rest, text = before ++ rest ∧
      enclosedDigits? rest = some digits ∧
      span = ⟨before.byteLength, (before ++ (':' :: digits ++ [':'])).byteLength⟩ := by
  rw [Encloses, Text.slice_eq_ok_iff]
  constructor
  · rintro ⟨areDigits, before, after, whole, place⟩
    exact ⟨before, _, whole.trans (List.append_assoc _ _ _),
      enclosedDigits?_eq_some_iff.2 ⟨areDigits, after, rfl⟩, place⟩
  · rintro ⟨before, rest, rfl, found, place⟩
    rcases enclosedDigits?_eq_some_iff.1 found with ⟨areDigits, after, rfl⟩
    exact ⟨areDigits, before, after, (List.append_assoc _ _ _).symm, place⟩

theorem IsReference.eq_of_start_eq {text : Text} {one other : Span}
    (oneReference : IsReference text one) (otherReference : IsReference text other)
    (sameStart : one.start = other.start) : one = other := by
  rcases oneReference with ⟨digits, encloses⟩
  rcases otherReference with ⟨otherDigits, otherEncloses⟩
  rcases encloses_iff.1 encloses with ⟨before, rest, whole, found, rfl⟩
  rcases encloses_iff.1 otherEncloses with ⟨otherBefore, otherRest, split, otherFound, rfl⟩
  rcases Text.append_inj_of_byteLength (whole.symm.trans split) sameStart with ⟨rfl, rfl⟩
  rw [found] at otherFound
  cases otherFound
  rfl

theorem IsReference.start_lt {text : Text} {span : Span} (reference : IsReference text span) :
    span.start < text.byteLength := by
  rcases reference with ⟨digits, encloses⟩
  rcases encloses_iff.1 encloses with ⟨before, rest, rfl, found, rfl⟩
  rcases enclosedDigits?_eq_some_iff.1 found with ⟨_, after, rfl⟩
  have positive := ':'.utf8Size_pos
  simp only [Text.byteLength_append, Text.byteLength_cons, List.cons_append]
  omega

theorem isFirstFrom_of_enclosedDigits? (before : Text) {rest digits : Text}
    (found : enclosedDigits? rest = some digits) :
    Span.IsFirstFrom (IsReference (before ++ rest)) before.byteLength
      ⟨before.byteLength, (before ++ (':' :: digits ++ [':'])).byteLength⟩ where
  counted := ⟨digits, encloses_iff.2 ⟨before, rest, rfl, found, rfl⟩⟩
  behind := Nat.le_refl _
  least := fun _ _ => id

/-- A reference that begins behind a part of a text begins behind the next character if
there is none right there. -/
theorem IsReference.next_le_start {before rest : Text} {character : Char} {span : Span}
    (reference : IsReference (before ++ character :: rest) span)
    (behind : before.byteLength ≤ span.start)
    (nothing : enclosedDigits? (character :: rest) = none) :
    (before ++ [character]).byteLength ≤ span.start := by
  rcases reference with ⟨digits, encloses⟩
  rcases encloses_iff.1 encloses with ⟨front, back, whole, found, rfl⟩
  rcases Text.exists_append_of_byteLength_le whole behind with ⟨gap, rfl, there⟩
  cases gap with
  | nil =>
      rw [there, List.nil_append, found] at nothing
      cases nothing
  | cons first gap =>
      rcases List.cons.inj there with ⟨rfl, _⟩
      simp only [Text.byteLength_append, Text.byteLength_cons, Text.byteLength_nil]
      omega

/-! ## The choice -/

/-- Behind `before` and the next `skip` characters the digits that are found are those of
the references that are chosen from there on. -/
theorem exists_leftmost (before rest : Text) (skip : Nat) :
    ∃ chosen,
      Span.Leftmost (IsReference (before ++ rest)) (before ++ rest.take skip).byteLength chosen ∧
      List.Forall₂ (Encloses (before ++ rest)) chosen (allEnclosedDigits skip rest) := by
  induction rest generalizing before skip with
  | nil =>
      refine ⟨[], .nil fun span reference => ?_, by cases skip <;> exact .nil⟩
      rw [List.take_nil]
      exact reference.start_lt
  | cons character rest induction =>
      have whole : before ++ character :: rest = (before ++ [character]) ++ rest := by simp
      cases skip with
      | succ skip =>
          have later := induction (before ++ [character]) skip
          rw [← whole, List.append_assoc] at later
          exact later
      | zero =>
          -- The next character begins a reference, or none begins before the one behind it.
          rw [List.take_zero, List.append_nil, allEnclosedDigits]
          cases found : enclosedDigits? (character :: rest) with
          | none =>
              rcases induction (before ++ [character]) 0 with ⟨chosen, leftmost, digits⟩
              rw [← whole, List.take_zero, List.append_nil] at leftmost
              rw [← whole] at digits
              refine ⟨chosen, leftmost.of_later (by simp) ?_, digits⟩
              exact fun span reference behind => reference.next_le_start behind found
          | some digits =>
              rcases enclosedDigits?_eq_some_iff.1 found with ⟨_, after, shape⟩
              have first : character = ':' := (List.cons.inj shape).1
              have behind : rest = (digits ++ [':']) ++ after := (List.cons.inj shape).2
              rcases induction (before ++ [character]) (digits.length + 1) with
                ⟨chosen, leftmost, later⟩
              have passed : before ++ [character] ++ rest.take (digits.length + 1) =
                  before ++ (':' :: digits ++ [':']) := by
                rw [first, behind, List.take_left' (by simp), List.append_assoc]
                rfl
              rw [passed, ← whole] at leftmost
              rw [← whole] at later
              exact ⟨_ :: chosen, .cons (isFirstFrom_of_enclosedDigits? before found) leftmost,
                .cons (encloses_iff.2 ⟨before, _, rfl, found, rfl⟩) later⟩

theorem exists_leftmost_iff (text : Text) :
    ∃ chosen, (∀ spans, Span.Leftmost (IsReference text) 0 spans ↔ spans = chosen) ∧
      List.Forall₂ (Encloses text) chosen (allEnclosedDigits 0 text) := by
  rcases exists_leftmost [] text 0 with ⟨chosen, leftmost, digits⟩
  refine ⟨chosen, fun spans => ⟨fun other => ?_, fun same => same ▸ leftmost⟩, digits⟩
  exact other.unique (fun _ _ => IsReference.eq_of_start_eq) leftmost

/-! ## The values of the digits -/

def value (digits : Text) : Nat :=
  Number.ofDigits 10 (digits.map Number.digitValue)

theorem Encloses.names {text digits : Text} {span : Span}
    (encloses : Encloses text span digits) : Names text span (value digits) := by
  rcases Number.exists_eq_replicate_append_toDigits encloses.1.1 encloses.1.all_isDigit with
    ⟨zeros, written⟩
  refine ⟨zeros, ?_⟩
  rw [value, ← written]
  exact encloses.2

theorem lineNumbers_eq (diagnostic : Text) :
    lineNumbers diagnostic =
      ((allEnclosedDigits 0 diagnostic).map value).filter (· < Number.bound64) := by
  rw [lineNumbers, ← List.filterMap_eq_filter, List.filterMap_map]
  congr 1
  funext digits
  have fits : number? digits =
      if value digits < Number.bound64 then some (value digits) else none := rfl
  rw [fits, Function.comp_apply, Option.guard]
  simp only [decide_eq_true_eq]

end Diagnostics

namespace ErrorLines

/-! ## New lines -/

theorem countNew_eq (set : ErrorLines) (lines : List Nat) :
    set.countNew lines = (lines.toFinset.filter (· ∉ set.lines)).card := by
  induction lines generalizing set with
  | nil => rfl
  | cons line rest induction =>
      have later : (rest.toFinset.filter (· ∉ (set.insert line).lines)) =
          (rest.toFinset.filter (· ∉ set.lines)).erase line := by
        ext number
        simp only [mem_lines_insert, Finset.mem_filter, Finset.mem_erase]
        tauto
      have listed : set.contains line = true ↔ line ∈ set.lines := List.contains_iff_mem
      rw [countNew, induction, later, List.toFinset_cons, Finset.filter_insert]
      by_cases known : line ∈ set.lines
      · rw [if_pos (listed.2 known), if_neg (not_not_intro known), Nat.zero_add,
          Finset.erase_eq_of_notMem (by simp [known])]
      · rw [if_neg (listed.not.2 known), if_pos known, Nat.add_comm,
          ← Finset.erase_insert_eq_erase, Finset.card_erase_add_one (Finset.mem_insert_self _ _)]

end ErrorLines

/-- The references of a diagnostic are chosen from left to right, and there is one such
choice.  The line numbers are the values of their digits, less those that do not fit into
64 bits.  Recording a diagnostic adds its line numbers to the error lines and counts the
different ones that are new. -/
theorem Diagnostics.lineNumbers_characterized (diagnostic : Text) (set : ErrorLines) :
    (∃ chosen values,
      (∀ spans, Span.Leftmost (IsReference diagnostic) 0 spans ↔ spans = chosen) ∧
      List.Forall₂ (Names diagnostic) chosen values ∧
      lineNumbers diagnostic = values.filter (· < Number.bound64)) ∧
    (∀ number, number ∈ (set.record diagnostic).lines ↔
      number ∈ set.lines ∨ number ∈ lineNumbers diagnostic) ∧
    set.recordCount diagnostic =
      ((lineNumbers diagnostic).toFinset.filter (· ∉ set.lines)).card := by
  refine ⟨?_, fun number => ErrorLines.mem_lines_record, set.countNew_eq _⟩
  rcases exists_leftmost_iff diagnostic with ⟨chosen, unique, digits⟩
  refine ⟨chosen, _, unique, ?_, lineNumbers_eq diagnostic⟩
  exact List.forall₂_map_right_iff.2 (digits.imp fun _ _ => Encloses.names)

end LiveEditor
