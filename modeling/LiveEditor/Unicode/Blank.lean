import LiveEditor.Unicode.CodeRange

/-! # Blank characters

The property White_Space decides what trimming removes and what separates
words.  Neither the zero-width space nor the byte order mark is blank.
-/

namespace LiveEditor.Unicode

def blankRanges : CodeRanges :=
  [ (0x9, 0xD), (0x20, 0x20), (0x85, 0x85), (0xA0, 0xA0), (0x1680, 0x1680),
    (0x2000, 0x200A), (0x2028, 0x2029), (0x202F, 0x202F), (0x205F, 0x205F), (0x3000, 0x3000) ]

def isBlank (character : Char) : Bool :=
  blankRanges.contains character.toNat

example : isBlank '\u2028' = true := by decide
example : isBlank '\u200b' = false := by decide

def trim (text : List Char) : List Char :=
  ((text.dropWhile isBlank).reverse.dropWhile isBlank).reverse

example : trim " a b\n".toList = "a b".toList := by decide

end LiveEditor.Unicode
