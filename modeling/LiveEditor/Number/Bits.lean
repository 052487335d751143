/-! # Bits of a number

A number stands for a set of positions, those of its bits.  `bitPositions` lists
a set in time that depends on its size and not on its highest position.
-/

namespace LiveEditor.Number

def bitPositionsFrom : (bound : Nat) → (bits : Nat) → List Nat
  | 0, _ => []
  | bound + 1, bits =>
      if bits = 0 then []
      else bits.log2 :: bitPositionsFrom bound (bits ^^^ 1 <<< bits.log2)

def bitPositions (bits : Nat) : List Nat :=
  bitPositionsFrom (bits.log2 + 1) bits

example : bitPositions 13 = [3, 2, 0] := by decide +kernel

/-- A number without its highest bit is below that bit. -/
theorem xor_highest_lt {bits : Nat} (different : bits ≠ 0) :
    bits ^^^ 1 <<< bits.log2 < 1 <<< bits.log2 := by
  rw [Nat.one_shiftLeft]
  refine Nat.lt_pow_two_of_testBit _ fun position above => ?_
  rw [Nat.testBit_xor, Nat.testBit_two_pow]
  by_cases highest : bits.log2 = position
  · simp [← highest, Nat.testBit_log2 different]
  · have higher : bits.log2 < position := by omega
    have below := (Nat.log2_lt different).1 higher
    simp [highest, Nat.testBit_lt_two_pow below]

theorem filter_bitPositionsFrom (bound bits position : Nat)
    (below : bits < 1 <<< bound) :
    (bitPositionsFrom bound bits).filter (· = position) =
      if bits.testBit position then [position] else [] := by
  rw [Nat.one_shiftLeft] at below
  induction bound generalizing bits with
  | zero =>
      have zero : bits = 0 := by simpa using below
      simp [zero, bitPositionsFrom]
  | succ bound hypothesis =>
      by_cases zero : bits = 0
      · simp [zero, bitPositionsFrom]
      · have lower : bits.log2 ≤ bound :=
          Nat.le_of_lt_succ ((Nat.log2_lt zero).2 below)
        have less := xor_highest_lt zero
        have rest := hypothesis (bits ^^^ 1 <<< bits.log2)
          (Nat.lt_of_lt_of_le (by simpa [Nat.one_shiftLeft] using less)
            (Nat.pow_le_pow_right (by decide) lower))
        rw [bitPositionsFrom, if_neg zero, List.filter_cons, rest, Nat.testBit_xor,
          Nat.one_shiftLeft, Nat.testBit_two_pow]
        by_cases highest : bits.log2 = position
        · simp [← highest, Nat.testBit_log2 zero]
        · simp [highest]

/-- A position is listed when its bit is set, and then once. -/
theorem filter_bitPositions (bits position : Nat) :
    (bitPositions bits).filter (· = position) =
      if bits.testBit position then [position] else [] :=
  filter_bitPositionsFrom _ _ _ (by
    rw [Nat.one_shiftLeft]
    exact Nat.lt_log2_self)

end LiveEditor.Number
