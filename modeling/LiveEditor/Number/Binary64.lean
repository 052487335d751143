import LiveEditor.Number.Digits

/-! # The range of binary floating point

A reader of numbers has to know which of them are too large for a binary
floating-point number of 64 bits.  Such a number has 53 significant bits, and
rounding to the nearest one reaches infinity from half a unit above the largest
finite one.
-/

namespace LiveEditor.Binary64

def round (value : Nat) : Nat :=
  if value < 1 <<< 53 then
    value
  else
    let shift := value.log2 - 52
    let kept := value >>> shift
    let dropped := value % (1 <<< shift)
    let half := 1 <<< (shift - 1)
    if half < dropped ∨ (dropped = half ∧ kept % 2 = 1) then
      (kept + 1) <<< shift
    else
      kept <<< shift

def overflow : Nat := (1 <<< 1024) - (1 <<< 970)

example : round (2 ^ 53 + 1) = 2 ^ 53 := by decide +kernel
example : round (2 ^ 53 + 3) = 2 ^ 53 + 4 := by decide +kernel

/-- Whether a decimal number, given by its digits and a power of ten, rounds to
infinity.  The number of places settles all but the numbers near the limit, so
that no large power is computed in vain. -/
def tooLarge (digits : List Nat) (exponent : Int) : Bool :=
  let significant := digits.dropWhile (· == 0)
  let places : Int := significant.length + exponent
  if significant.isEmpty || places < 300 then
    false
  else if 310 < places then
    true
  else
    match exponent with
    | .ofNat power => overflow ≤ Number.ofDigits 10 significant * Nat.pow 10 power
    | .negSucc below => overflow * Nat.pow 10 (below + 1) ≤
        Number.ofDigits 10 significant

example : tooLarge [1] 308 = false := by decide +kernel
example : tooLarge [1, 8] 307 = true := by decide +kernel
example : tooLarge [0] 1000000000 = false := by decide +kernel

end LiveEditor.Binary64
