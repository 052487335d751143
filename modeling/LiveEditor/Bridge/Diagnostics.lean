import LiveEditor.ErrorLines
import LiveEditor.Number.Digits
import LiveEditor.Text.Basic

/-! # Line numbers in diagnostics

A compiler names a line by its number between two colons.  A colon that closes
one number cannot open the next.  Only ASCII digits count, and a number that
does not fit into 64 bits names no line.
-/

namespace LiveEditor.Diagnostics

def isDigit (character : Char) : Bool :=
  '0' ≤ character && character ≤ '9'

def enclosedDigits? : Text → Option Text
  | ':' :: rest =>
      let digits := rest.takeWhile isDigit
      if digits ≠ [] ∧ rest[digits.length]? = some ':' then some digits else none
  | _ => none

/-- The digits between two colons all over a text, from left to right.  The
first `skip` characters belong to what has been found already. -/
def allEnclosedDigits : (skip : Nat) → Text → List Text
  | _, [] => []
  | skip + 1, _ :: rest => allEnclosedDigits skip rest
  | 0, character :: rest =>
      match enclosedDigits? (character :: rest) with
      | some digits => digits :: allEnclosedDigits (digits.length + 1) rest
      | none => allEnclosedDigits 0 rest

def number? (digits : Text) : Option Nat :=
  let value := Number.ofDigits 10 (digits.map fun digit => digit.toNat - 48)
  if value < Number.bound64 then some value else none

def lineNumbers (diagnostic : Text) : List Nat :=
  (allEnclosedDigits 0 diagnostic).filterMap number?

example : lineNumbers "a:1:2: b:007:".toList = [1, 7] := by decide

end LiveEditor.Diagnostics

namespace LiveEditor.ErrorLines

def record (set : ErrorLines) (diagnostic : Text) : ErrorLines :=
  set.insertAll (Diagnostics.lineNumbers diagnostic)

theorem mem_lines_record {set : ErrorLines} {diagnostic : Text} {line : Nat} :
    line ∈ (set.record diagnostic).lines ↔
      line ∈ set.lines ∨ line ∈ Diagnostics.lineNumbers diagnostic :=
  mem_lines_insertAll

def countNew (set : ErrorLines) : List Nat → Nat
  | [] => 0
  | line :: rest =>
      (if set.contains line then 0 else 1) + countNew (set.insert line) rest

def recordCount (set : ErrorLines) (diagnostic : Text) : Nat :=
  set.countNew (Diagnostics.lineNumbers diagnostic)

end LiveEditor.ErrorLines
