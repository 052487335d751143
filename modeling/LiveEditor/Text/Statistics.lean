import LiveEditor.Text.Lines
import LiveEditor.Unicode.Blank

/-! # Counting characters, words and lines

A word is a longest stretch of characters that are not blank.
-/

namespace LiveEditor

structure Statistics where
  characters : Nat
  words : Nat
  lines : Nat
  deriving DecidableEq, Repr

namespace Text

def wordCountFrom (insideWord : Bool) : Text → Nat
  | [] => if insideWord then 1 else 0
  | character :: rest =>
      if Unicode.isBlank character then
        (if insideWord then 1 else 0) + wordCountFrom false rest
      else
        wordCountFrom true rest

def wordCount (text : Text) : Nat :=
  wordCountFrom false text

def statistics (text : Text) : Statistics where
  characters := text.length
  words := text.wordCount
  lines := text.lineCount

example : statistics "val x\n = 1 ".toList = ⟨11, 4, 2⟩ := by decide

end Text

end LiveEditor
