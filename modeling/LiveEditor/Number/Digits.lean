/-! # Digits and widths of numbers

A row of digits, the first of them the most significant, stands for a number.
Numbers from outside often have to fit into a fixed width; the bounds here are
the least numbers that do not.
-/

namespace LiveEditor.Number

def hexDigit? (character : Char) : Option Nat :=
  if '0' ≤ character ∧ character ≤ '9' then some (character.toNat - 48)
  else if 'a' ≤ character ∧ character ≤ 'f' then some (character.toNat - 87)
  else if 'A' ≤ character ∧ character ≤ 'F' then some (character.toNat - 55)
  else none

def digitIn? (base : Nat) (character : Char) : Option Nat :=
  (hexDigit? character).filter (· < base)

def upperHexDigit (value : Nat) : Char :=
  (Nat.digitChar value).toUpper

def ofDigits (base : Nat) (digits : List Nat) : Nat :=
  digits.foldl (fun total digit => total * base + digit) 0

def ofText? (base : Nat) (text : List Char) : Option Nat :=
  if text.isEmpty then none
  else (text.mapM (digitIn? base)).map (ofDigits base)

def bound16 : Nat := 0x10000

def bound64 : Nat := 0x10000000000000000

def signedBound64 : Int := 0x8000000000000000

example : ofDigits 10 [0, 4, 2] = 42 := by decide
example : ofText? 16 "fF".toList = some 255 := by decide
example : ofText? 8 "08".toList = none := by decide
example : bound64 = 1 <<< 64 := by decide

end LiveEditor.Number
