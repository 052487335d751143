import LiveEditor.Number.Digits
import Mathlib.Data.List.Induction

/-! # Decimal digits

Decimal digits are read as the number that they were written for.  A row of digits is
the written form of its value with zeros before it, which have no part in the value.
-/

namespace LiveEditor.Number

/-! ## Written numbers -/

theorem digitIn?_ten_of_isDigit {character : Char} (digit : character.isDigit = true) :
    digitIn? 10 character = some (character.toNat - 48) := by
  have bounds := digit
  simp only [Char.isDigit, Bool.and_eq_true, decide_eq_true_eq] at bounds
  have small : character.toNat ≤ 57 := UInt32.le_iff_toNat_le.1 bounds.2
  rw [digitIn?, hexDigit?, if_pos ⟨bounds.1, bounds.2⟩, Option.filter_some, if_pos]
  simp only [decide_eq_true_eq]
  omega

theorem ofDigits_append_singleton (base digit : Nat) (digits : List Nat) :
    ofDigits base (digits ++ [digit]) = ofDigits base digits * base + digit :=
  List.foldl_append

abbrev digitValue (character : Char) : Nat :=
  character.toNat - 48

theorem digitValue_digitChar : ∀ digit < 10, digitValue digit.digitChar = digit := by
  decide

theorem ofDigits_toDigits (value : Nat) :
    ofDigits 10 ((Nat.toDigits 10 value).map digitValue) = value := by
  induction value using Nat.strongRecOn with
  | ind value induction =>
      rw [Nat.toDigits_eq_if (by decide)]
      split
      · next small =>
          rw [List.map_singleton, digitValue_digitChar value small]
          exact Nat.zero_add value
      · next large =>
          rw [List.map_append, List.map_singleton, ofDigits_append_singleton,
            induction (value / 10) (by omega),
            digitValue_digitChar _ (Nat.mod_lt value (by decide))]
          exact Nat.div_add_mod' value 10

theorem isDigit_of_mem_toDigits {value : Nat} :
    ∀ character ∈ Nat.toDigits 10 value, character.isDigit = true :=
  fun _ member => Nat.isDigit_of_mem_toDigits (by decide) (by decide) member

/-- Only zero begins with a zero. -/
theorem head?_toDigits_ne_zero {value : Nat} (positive : 0 < value) :
    (Nat.toDigits 10 value).head? ≠ some '0' := by
  induction value using Nat.strongRecOn with
  | ind value induction =>
      rw [Nat.toDigits_eq_if (by decide)]
      split
      · next small =>
          have nonzero : ∀ digit < 10, 0 < digit → digit.digitChar ≠ '0' := by decide
          exact fun same => nonzero value small positive (Option.some.inj same)
      · next large =>
          have later := induction (value / 10) (by omega) (by omega)
          cases digits : Nat.toDigits 10 (value / 10) with
          | nil => exact absurd digits Nat.toDigits_ne_nil
          | cons first rest =>
              rw [digits] at later
              exact later

/-! ## Rows of digits -/

theorem digitChar_digitValue {character : Char} (digit : character.isDigit = true) :
    (digitValue character).digitChar = character ∧ digitValue character < 10 := by
  simp only [Char.isDigit, Bool.and_eq_true, decide_eq_true_eq] at digit
  have least : 48 ≤ character.toNat := UInt32.le_iff_toNat_le.1 digit.1
  have most : character.toNat ≤ 57 := UInt32.le_iff_toNat_le.1 digit.2
  have small : digitValue character < 10 := by
    rw [digitValue]
    omega
  refine ⟨Char.toNat_inj.1 ?_, small⟩
  rw [Nat.toNat_digitChar_of_lt_ten small, digitValue]
  omega

/-- A digit behind a written number makes a longer number, unless the number is zero. -/
theorem exists_toDigits_append_digitChar (value : Nat) {digit : Nat} (small : digit < 10) :
    ∃ zeros, Nat.toDigits 10 value ++ [digit.digitChar] =
      List.replicate zeros '0' ++ Nat.toDigits 10 (value * 10 + digit) := by
  rcases Nat.eq_zero_or_pos value with rfl | positive
  · refine ⟨1, ?_⟩
    rw [Nat.zero_mul, Nat.zero_add, Nat.toDigits_of_lt_base small]
    rfl
  · refine ⟨0, ?_⟩
    rw [← Nat.toDigits_of_lt_base small, Nat.toDigits_append_toDigits (by decide) positive small,
      Nat.mul_comm]
    rfl

/-- A row of digits is its value in writing, behind some zeros. -/
theorem exists_eq_replicate_append_toDigits {digits : List Char} (filled : digits ≠ [])
    (decimal : ∀ character ∈ digits, character.isDigit = true) :
    ∃ zeros, digits = List.replicate zeros '0' ++
      Nat.toDigits 10 (ofDigits 10 (digits.map digitValue)) := by
  induction digits using List.reverseRecOn with
  | nil => exact absurd rfl filled
  | append_singleton front last induction =>
      rcases List.forall_mem_append.1 decimal with ⟨frontDecimal, lastDecimal⟩
      rcases digitChar_digitValue (lastDecimal last List.mem_cons_self) with ⟨written, small⟩
      rw [List.map_append, List.map_singleton, ofDigits_append_singleton]
      by_cases start : front = []
      · refine ⟨0, ?_⟩
        rw [start, List.map_nil, ofDigits, List.foldl_nil, Nat.zero_mul, Nat.zero_add,
          Nat.toDigits_of_lt_base small, written]
        rfl
      · rcases induction start frontDecimal with ⟨zeros, frontWritten⟩
        rcases exists_toDigits_append_digitChar (ofDigits 10 (front.map digitValue)) small with
          ⟨more, longer⟩
        refine ⟨zeros + more, ?_⟩
        rw [← List.replicate_append_replicate, List.append_assoc, ← longer, written,
          ← List.append_assoc, ← frontWritten]

end LiveEditor.Number
