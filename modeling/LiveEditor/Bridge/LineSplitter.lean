import LiveEditor.Text.Utf8

/-! # Splitting a byte stream into lines

A line ends at a line feed, a carriage return, or the two in this order.  The
chunks of a stream may cut a line, a character or such a pair anywhere, so the
splitter keeps the bytes of the line that is not complete and whether the last
byte was a carriage return.  A line is decoded when it is complete.  What is
being gathered is kept with its end in front, where the next byte goes.
-/

namespace LiveEditor

structure LineSplitter where
  /-- The bytes of the line that is not complete, the last one first. -/
  pending : List UInt8 := []
  afterReturn : Bool := false
  deriving DecidableEq, Repr, Inhabited

namespace LineSplitter

def lineFeed : UInt8 := 10
def carriageReturn : UInt8 := 13

def start : LineSplitter := {}

def pendingText (splitter : LineSplitter) : Text :=
  Utf8.decodeLossy splitter.pending.reverse

def take (splitter : LineSplitter) (byte : UInt8) :
    Option Text × LineSplitter :=
  if splitter.afterReturn ∧ byte = lineFeed then
    (none, { splitter with afterReturn := false })
  else if byte = lineFeed ∨ byte = carriageReturn then
    (some splitter.pendingText,
      { pending := [], afterReturn := byte = carriageReturn })
  else
    (none, { pending := byte :: splitter.pending, afterReturn := false })

def push (splitter : LineSplitter) : List UInt8 → List Text × LineSplitter
  | [] => ([], splitter)
  | byte :: rest =>
      let (line, next) := splitter.take byte
      let (lines, last) := next.push rest
      (line.toList ++ lines, last)

def pushAll (splitter : LineSplitter) :
    List (List UInt8) → List Text × LineSplitter
  | [] => ([], splitter)
  | chunk :: rest =>
      let (lines, next) := splitter.push chunk
      let (more, last) := next.pushAll rest
      (lines ++ more, last)

def finish (splitter : LineSplitter) : Option Text × LineSplitter :=
  (if splitter.pending.isEmpty then none
    else some splitter.pendingText,
    start)

/-! ## Lines of a whole text -/

/-- The lines of a text, cut at every line break; an empty last line does not
count.  `current` holds the line so far, its last character first. -/
def linesOfFrom (afterReturn : Bool) (current : Text) : Text → List Text
  | [] => if current.isEmpty then [] else [current.reverse]
  | character :: rest =>
      if afterReturn ∧ character = '\n' then
        linesOfFrom false current rest
      else if character = '\n' ∨ character = '\r' then
        current.reverse :: linesOfFrom (character = '\r') [] rest
      else
        linesOfFrom false (character :: current) rest

def linesOf (text : Text) : List Text :=
  linesOfFrom false [] text

example : (start.push [97, 13]).1 = ["a".toList] := by decide
example : (start.pushAll [[97, 13], [10, 98]]).1 = ["a".toList] := by decide
example : linesOf "a\r\nb\rc\n\n".toList =
    ["a".toList, "b".toList, "c".toList, []] := by decide

end LineSplitter

end LiveEditor
