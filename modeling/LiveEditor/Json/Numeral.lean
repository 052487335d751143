import LiveEditor.Text.Basic
import LiveEditor.Number.Binary64

/-! # Numerals of JSON

A numeral is well formed when it follows the grammar and its value does not
overflow a binary floating-point number.  The significand is gathered in 64
bits: a digit that does not fit any more only counts towards the exponent when
it stands before the point, and not at all when it stands behind it.
-/

namespace LiveEditor.Json

structure Numeral where
  whole : List Nat
  fraction : List Nat
  exponentNegative : Bool
  exponent : List Nat
  deriving DecidableEq, Repr

def digit? (character : Char) : Option Nat :=
  if '0' ≤ character ∧ character ≤ '9' then some (character.toNat - 48) else none

def digits : Text → List Nat × Text
  | [] => ([], [])
  | character :: rest =>
      match digit? character with
      | none => ([], character :: rest)
      | some value =>
          let (values, remaining) := digits rest
          (value :: values, remaining)

namespace Numeral

def significandLimit : Nat := Number.bound64 - 1

def gatherWhole (significand : Nat) : List Nat → Nat × Nat
  | [] => (significand, 0)
  | digit :: rest =>
      if significand * 10 + digit ≤ significandLimit then
        gatherWhole (significand * 10 + digit) rest
      else
        (significand, rest.length + 1)

/-- Gather the digits after the point: the significand, and how many of them it
took up. -/
def gatherFraction (significand : Nat) : List Nat → Nat × Nat
  | [] => (significand, 0)
  | digit :: rest =>
      if significand * 10 + digit ≤ significandLimit then
        let (gathered, count) := gatherFraction (significand * 10 + digit) rest
        (gathered, count + 1)
      else
        (significand, 0)

def exponentLimit : Nat := 0x7fffffff

def overflows (numeral : Numeral) : Bool :=
  let (wholePart, beyond) := gatherWhole 0 numeral.whole
  let (significand, behind) := gatherFraction wholePart numeral.fraction
  let exponent := Number.ofDigits 10 numeral.exponent
  if significand = 0 then
    false
  else if exponentLimit < exponent then
    !numeral.exponentNegative
  else
    let written : Int :=
      if numeral.exponentNegative then -(exponent : Int) else exponent
    match written + beyond - behind with
    | .negSucc _ => false
    | .ofNat power =>
        decide (308 < power) ||
          decide (Binary64.overflow ≤
            Binary64.round significand * Binary64.round (Nat.pow 10 power))

end Numeral

def readExponent (text : Text) : Option (Bool × List Nat × Text) :=
  match text with
  | [] => some (false, [], [])
  | mark :: rest =>
      if mark = 'e' ∨ mark = 'E' then
        let (negative, unsigned) :=
          match rest with
          | '-' :: more => (true, more)
          | '+' :: more => (false, more)
          | _ => (false, rest)
        match digits unsigned with
        | ([], _) => none
        | (values, remaining) => some (negative, values, remaining)
      else
        some (false, [], text)

def readFraction (text : Text) : Option (List Nat × Text) :=
  match text with
  | '.' :: rest =>
      match digits rest with
      | ([], _) => none
      | (values, remaining) => some (values, remaining)
  | _ => some ([], text)

def readUnsigned (text : Text) : Option (Numeral × Text) := do
  let (whole, afterWhole) ←
    match digits text with
    | ([], _) => none
    | (0 :: _ :: _, _) => none
    | found => some found
  let (fraction, afterFraction) ← readFraction afterWhole
  let (exponentNegative, exponent, rest) ← readExponent afterFraction
  return (⟨whole, fraction, exponentNegative, exponent⟩, rest)

def isNumeralCharacter (character : Char) : Bool :=
  (digit? character).isSome || ['-', '+', '.', 'e', 'E'].contains character

def readNumeral (text : Text) : Option (Text × Text) :=
  let candidate := text.takeWhile isNumeralCharacter
  let unsigned :=
    match candidate with
    | '-' :: rest => rest
    | _ => candidate
  match readUnsigned unsigned with
  | none => none
  | some (numeral, rest) =>
      if numeral.overflows then none
      else some (text.splitAt (candidate.length - rest.length))

example : readNumeral "-1.50e+3,".toList = some ("-1.50e+3".toList, [',']) := by
  decide +kernel
example : readNumeral "01".toList = none := by decide +kernel
example : readNumeral "1e309".toList = none := by decide +kernel

end LiveEditor.Json
