import LiveEditor.Style.Palette
import LiveEditor.Style.StyledText
import LiveEditor.Unicode.Alphabetic
import LiveEditor.Unicode.Numeric

/-! # Tokens of the built-in language

One scan cuts a text into tokens that cover it without a gap.  The token at a
place is decided by its first characters: comments first, then strings,
numbers and words, and any other character by itself.  A comment or string
without an end runs to the end of the text.
-/

namespace LiveEditor

inductive TokenKind where
  | comment
  | string
  | number
  | keyword
  | typeName
  | identifier
  | other
  deriving DecidableEq, Repr

def TokenKind.style? : TokenKind → Option Style
  | .comment => some Palette.comment
  | .string => some Palette.string
  | .number => some Palette.number
  | .keyword => some Palette.keyword
  | .typeName => some Palette.typeName
  | .identifier | .other => none

structure Token where
  span : Span
  kind : TokenKind
  deriving DecidableEq, Repr

structure Lexicon where
  keywords : List Text
  types : List Text

namespace Lexicon

def kotlin : Lexicon where
  keywords :=
    [ "fun", "class", "object", "val", "var", "if", "else", "when", "for", "while",
      "do", "return", "null", "true", "false", "in", "is", "interface", "sealed",
      "data", "enum", "try", "catch", "finally", "throw", "super", "this", "as",
      "typealias", "package", "import" ].map String.toList
  types :=
    [ "Int", "String", "Float", "Double", "Boolean", "Char", "Long", "Short", "Any",
      "Unit", "List", "Map", "Set" ].map String.toList

def classify (lexicon : Lexicon) (word : Text) : TokenKind :=
  if lexicon.keywords.contains word then .keyword
  else if lexicon.types.contains word then .typeName
  else .identifier

end Lexicon

namespace Token

/-! ## One token

Each length counts the characters of the token after the first one. -/

def beginsWord (character : Char) : Bool :=
  Unicode.isAlphabetic character || character == '_'

def continuesWord (character : Char) : Bool :=
  Unicode.isAlphabetic character || Unicode.isNumeric character || character == '_'

def continuesNumber (character : Char) : Bool :=
  Unicode.isNumeric character || character == '.'

def blockCommentLength : (rest : Text) → Nat
  | [] => 0
  | '*' :: '/' :: _ => 2
  | _ :: rest => 1 + blockCommentLength rest

def lineCommentLength (rest : Text) : Nat :=
  (rest.takeWhile (· != '\n')).length

/-- The length of a string behind its opening quote: through the first quote
that does not follow a backslash, or to the end of the text.  A backslash takes
the character after it along. -/
def stringLength : (escaped : Bool) → Text → Nat
  | _, [] => 0
  | true, _ :: rest => 1 + stringLength false rest
  | false, character :: rest =>
      if character = '"' then 1
      else 1 + stringLength (character == '\\') rest

/-- The kind of the token that begins with a character, and how many of the
characters after it belong to the token. -/
def front (lexicon : Lexicon) (first : Char) (rest : Text) : TokenKind × Nat :=
  if first = '/' ∧ rest.head? = some '*' then
    (.comment, 1 + blockCommentLength (rest.drop 1))
  else if first = '/' ∧ rest.head? = some '/' then
    (.comment, lineCommentLength rest)
  else if first = '"' then
    (.string, stringLength false rest)
  else if Unicode.isNumeric first then
    (.number, (rest.takeWhile continuesNumber).length)
  else if beginsWord first then
    let more := rest.takeWhile continuesWord
    (lexicon.classify (first :: more), more.length)
  else
    (.other, 0)

/-! ## All tokens -/

/-- The tokens of a text that begins at `offset`.  The first `skip` characters
belong to a token that has been found already. -/
def scanFrom (lexicon : Lexicon) (offset : Nat) : (skip : Nat) → Text → List Token
  | _, [] => []
  | skip + 1, character :: rest =>
      scanFrom lexicon (offset + character.utf8Size) skip rest
  | 0, character :: rest =>
      let (kind, more) := front lexicon character rest
      let next := offset + character.utf8Size
      ⟨⟨offset, next + Text.byteLength (rest.take more)⟩, kind⟩ ::
        scanFrom lexicon next more rest

def scan (lexicon : Lexicon) (text : Text) : List Token :=
  scanFrom lexicon 0 0 text

example : scan .kotlin "val é=1".toList =
    [⟨⟨0, 3⟩, .keyword⟩, ⟨⟨3, 4⟩, .other⟩, ⟨⟨4, 6⟩, .identifier⟩,
      ⟨⟨6, 7⟩, .other⟩, ⟨⟨7, 8⟩, .number⟩] := by decide +kernel

example : scan .kotlin "/*/".toList = [⟨⟨0, 3⟩, .comment⟩] := by decide +kernel

def styledRange? (token : Token) : Option StyledRange :=
  token.kind.style?.map fun style => ⟨token.span, style⟩

end Token

def StyledText.ofTokens (lexicon : Lexicon) (text : Text) : StyledText :=
  (StyledText.plain text).withStyles
    ((Token.scan lexicon text).filterMap Token.styledRange?)

end LiveEditor
