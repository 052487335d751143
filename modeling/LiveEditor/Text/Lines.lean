import LiveEditor.Text.Utf8

/-! # Lines of a text

A line ends just after its line feed; the last line ends with the text and may
be empty.  Lines are numbered from one, so no text has a line zero.  The bytes of a text
are read once for the offsets at which its lines begin; a line ends where the one
behind it begins.
-/

namespace LiveEditor

structure LineIndex where
  starts : Array Nat
  length : Nat

namespace LineIndex

/-- Where lines begin behind the line feeds of some bytes, the first of which has the
offset `position`. -/
def startsFrom (position : Nat) : List UInt8 → List Nat
  | [] => []
  | byte :: rest =>
      if byte = '\n'.toUInt8 then (position + 1) :: startsFrom (position + 1) rest
      else startsFrom (position + 1) rest

def ofText (text : Text) : LineIndex where
  starts := (0 :: startsFrom 0 (Utf8.encode text)).toArray
  length := text.byteLength

def lineCount (index : LineIndex) : Nat :=
  index.starts.size

def lineSpan? (index : LineIndex) : Nat → Option Span
  | 0 => none
  | number + 1 =>
      match index.starts[number]? with
      | none => none
      | some start => some ⟨start, index.starts[number + 1]?.getD index.length⟩

end LineIndex

namespace Text

def lineCount (text : Text) : Nat :=
  (LineIndex.ofText text).lineCount

def lineSpan? (text : Text) (number : Nat) : Option Span :=
  (LineIndex.ofText text).lineSpan? number

def lineSpansAt (text : Text) (numbers : List Nat) : List Span :=
  let index := LineIndex.ofText text
  numbers.filterMap index.lineSpan?

theorem lineSpansAt_eq (text : Text) (numbers : List Nat) :
    text.lineSpansAt numbers = numbers.filterMap text.lineSpan? := rfl

example : [1, 2, 3, 4].map (lineSpan? "é\nb\n".toList) =
    [some ⟨0, 3⟩, some ⟨3, 5⟩, some ⟨5, 5⟩, none] := by decide

end Text

end LiveEditor
