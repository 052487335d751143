import LiveEditor.Unicode.Alphabetic
import LiveEditor.Unicode.Mark
import LiveEditor.Unicode.Numeric

/-! # Word characters

The characters that words are made of: alphabetic characters, marks, decimal
digits, connecting punctuation such as the underscore, and the two joiners.  A
place between two characters is a word boundary when exactly one of its two
sides is a word character; the edges of a text count as no word character.
-/

namespace LiveEditor.Unicode

def connectorRanges : CodeRanges :=
  [ (0x5F, 0x5F), (0x203F, 0x2040), (0x2054, 0x2054), (0xFE33, 0xFE34), (0xFE4D, 0xFE4F),
    (0xFF3F, 0xFF3F) ]

def isJoiner (character : Char) : Bool :=
  character.toNat == 0x200C || character.toNat == 0x200D

/-- The ranges of what the latest edition of the standard added to the
alphabetic characters and the decimal digits. -/
def latestRanges : CodeRanges :=
  [ (0x88F, 0x88F), (0xC5C, 0xC5C), (0xCDC, 0xCDC), (0xA7CE, 0xA7CF), (0xA7D2, 0xA7D2),
    (0xA7D4, 0xA7D4), (0xA7F1, 0xA7F1), (0x10940, 0x10959), (0x10EC5, 0x10EC7),
    (0x10EFA, 0x10EFB), (0x11B60, 0x11B67), (0x11DB0, 0x11DDB), (0x11DE0, 0x11DE9),
    (0x16EA0, 0x16EB8), (0x16EBB, 0x16ED3), (0x16FF2, 0x16FF6), (0x187F8, 0x187FF),
    (0x18D09, 0x18D1E), (0x18D80, 0x18DF2), (0x1E6C0, 0x1E6DE), (0x1E6E0, 0x1E6F5),
    (0x1E6FE, 0x1E6FF), (0x2B73A, 0x2B73F), (0x2CEA2, 0x2CEAD), (0x323B0, 0x33479) ]

/-- A character that words are made of.  Words follow the edition of the
standard before the latest one. -/
def isWord (character : Char) : Bool :=
  (isAlphabetic character || isMark character || isDecimalDigit character ||
    connectorRanges.contains character.toNat || isJoiner character) &&
    !latestRanges.contains character.toNat

def isWordAt (neighbour : Option Char) : Bool :=
  neighbour.any isWord

def isWordBoundary (before after : Option Char) : Bool :=
  isWordAt before != isWordAt after

example : isWordBoundary none (some 'a') = true := by decide +kernel
example : isWordBoundary (some '_') (some '1') = false := by decide +kernel

end LiveEditor.Unicode
