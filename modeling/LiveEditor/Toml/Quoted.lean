import LiveEditor.Json.Reader
import LiveEditor.Text.Basic

/-! # Strings of TOML

A string is written between quotes or apostrophes, one or three on each side.
Between quotes a backslash begins an escape; between apostrophes every
character stands for itself.  The forms with three may span lines.  Reading
takes all four; writing takes the plainest form that fits.  The `skip` of a
reader counts the characters at the front that an escape has already used up.
-/

namespace LiveEditor.Toml

def isPlain (character : Char) : Bool :=
  character == '\t' || (0x20 ≤ character.toNat && character.toNat != 0x7F)

def afterNewline? : Text → Option Text
  | '\n' :: rest => some rest
  | '\r' :: '\n' :: rest => some rest
  | _ => none

def isSpace (character : Char) : Bool :=
  character == ' ' || character == '\t'

/-! ## Escapes -/

def codePoint? (count : Nat) (text : Text) : Option Char := do
  if text.length < count then none
  let code ← Number.ofText? 16 (text.take count)
  if h : code.isValidChar then return Char.ofNatAux code h else none

def readEscape : Text → Option (Char × Nat)
  | [] => none
  | letter :: rest =>
      match letter with
      | 'b' => some ('\x08', 1)
      | 't' => some ('\t', 1)
      | 'n' => some ('\n', 1)
      | 'f' => some ('\x0c', 1)
      | 'r' => some ('\r', 1)
      | '"' => some ('"', 1)
      | '\\' => some ('\\', 1)
      | 'u' => (codePoint? 4 rest).map fun value => (value, 5)
      | 'U' => (codePoint? 8 rest).map fun value => (value, 9)
      | _ => none

/-- How many characters behind a backslash at the end of a line vanish with it:
the rest of the line, and the blanks and line breaks at the front of what
follows. -/
def continuationLength? (text : Text) : Option Nat :=
  match afterNewline? (text.dropWhile isSpace) with
  | none => none
  | some rest =>
      some (text.length - (skipLayout rest).length)
where
  skipLayout : Text → Text
    | [] => []
    | character :: rest =>
        if isSpace character || character == '\n' then skipLayout rest
        else if character == '\r' && rest.head? == some '\n' then skipLayout rest
        else character :: rest

/-! ## Reading -/

def readBasicFrom : (skip : Nat) → Text → Option (Text × Text)
  | _, [] => none
  | skip + 1, _ :: rest => readBasicFrom skip rest
  | 0, character :: rest =>
      if character = '"' then
        some ([], rest)
      else if character = '\\' then
        match readEscape rest with
        | none => none
        | some (value, length) =>
            (readBasicFrom length rest).map fun found =>
              (value :: found.1, found.2)
      else if isPlain character then
        (readBasicFrom 0 rest).map fun found => (character :: found.1, found.2)
      else
        none

def readLiteral : Text → Option (Text × Text)
  | [] => none
  | character :: rest =>
      if character = '\x27' then some ([], rest)
      else if isPlain character then
        (readLiteral rest).map fun found => (character :: found.1, found.2)
      else none

/-- Where a string closes that has three quotes on each side: how many quotes
at the front of the text still belong to the string.  A row of more than five
cannot be closed by its last three. -/
def closing? (quote : Char) (text : Text) : Option Nat :=
  let count := (text.takeWhile (· == quote)).length
  if count < 3 then none else some (min count 5 - 3)

def readBlockFrom (quote : Char) (escapes : Bool) :
    (skip : Nat) → Text → Option (Text × Text)
  | _, [] => none
  | skip + 1, _ :: rest => readBlockFrom quote escapes skip rest
  | 0, character :: rest =>
      match closing? quote (character :: rest) with
      | some inside =>
          some (List.replicate inside quote, (character :: rest).drop (inside + 3))
      | none =>
          if character = '\\' ∧ escapes then
            match readEscape rest with
            | some (value, length) =>
                (readBlockFrom quote escapes length rest).map fun found =>
                  (value :: found.1, found.2)
            | none =>
                match continuationLength? rest with
                | some length => readBlockFrom quote escapes length rest
                | none => none
          else if character = '\n' ∨ isPlain character then
            (readBlockFrom quote escapes 0 rest).map fun found =>
              (character :: found.1, found.2)
          else if character = '\r' ∧ rest.head? = some '\n' then
            readBlockFrom quote escapes 0 rest
          else
            none

def readBlock (quote : Char) (escapes : Bool) (text : Text) :
    Option (Text × Text) :=
  readBlockFrom quote escapes 0 ((afterNewline? text).getD text)

def readString : Text → Option (Text × Text)
  | '"' :: '"' :: '"' :: rest => readBlock '"' true rest
  | '"' :: rest => readBasicFrom 0 rest
  | '\x27' :: '\x27' :: '\x27' :: rest => readBlock '\x27' false rest
  | '\x27' :: rest => readLiteral rest
  | _ => none

/-! ## Writing -/

def isUnwritable (character : Char) : Bool :=
  (character.toNat < 0x20 && character != '\t' && character != '\n') ||
    character.toNat == 0x7F

def longestRowFrom (quote : Char) (count : Nat) : Text → Nat
  | [] => count
  | character :: rest =>
      if character = quote then longestRowFrom quote (count + 1) rest
      else max count (longestRowFrom quote 0 rest)

def longestRow (quote : Char) (text : Text) : Nat :=
  longestRowFrom quote 0 text

inductive QuotedForm where
  | basic
  | literal
  | basicBlock
  | literalBlock
  deriving DecidableEq, Repr

def QuotedForm.of (text : Text) : QuotedForm :=
  let writable := !text.any isUnwritable
  let oneLine := !text.contains '\n'
  let noBackslash := !text.contains '\\'
  if writable && noBackslash && !text.contains '"' && oneLine then .basic
  else if writable && !text.contains '\x27' && oneLine then .literal
  else if writable && noBackslash && longestRow '"' text ≤ 2 then .basicBlock
  else if writable && longestRow '\x27' text ≤ 2 then .literalBlock
  else if oneLine then .basic
  else .basicBlock

def escaped (character : Char) : Text :=
  if character = '\x08' then ['\\', 'b']
  else if character = '\t' then ['\\', 't']
  else if character = '\x0c' then ['\\', 'f']
  else if character = '\r' then ['\\', 'r']
  else if character = '\\' then ['\\', '\\']
  else if isUnwritable character then
    ['\\', 'u', '0', '0', Number.upperHexDigit (character.toNat / 16),
      Number.upperHexDigit (character.toNat % 16)]
  else [character]

def escapeLine : Text → Text
  | [] => []
  | character :: rest =>
      (if character = '"' then ['\\', '"']
        else if character = '\n' then ['\\', 'n']
        else escaped character) ++ escapeLine rest

/-- The inside of a string of several lines between quotes.  Of a row of quotes
every third one is escaped; `row` quotes have gone before. -/
def escapeBlock (row : Nat) : Text → Text
  | [] => []
  | character :: rest =>
      if character = '"' then
        if row = 2 then ['\\', '"'] ++ escapeBlock 0 rest
        else '"' :: escapeBlock (row + 1) rest
      else if character = '\n' then
        '\n' :: escapeBlock 0 rest
      else
        escaped character ++ escapeBlock 0 rest

def blockOpening (text : Text) : Text :=
  if text.contains '\n' then ['\n'] else []

def quoted (text : Text) : Text :=
  match QuotedForm.of text with
  | .basic => ['"'] ++ escapeLine text ++ ['"']
  | .literal => ['\x27'] ++ text ++ ['\x27']
  | .basicBlock =>
      "\"\"\"".toList ++ blockOpening text ++ escapeBlock 0 text ++ "\"\"\"".toList
  | .literalBlock => "'''".toList ++ blockOpening text ++ text ++ "'''".toList

example : quoted "a\"b".toList = "'a\"b'".toList := by decide +kernel
example : readString (quoted "'\"\"\"\"\\\n".toList) =
    some ("'\"\"\"\"\\\n".toList, []) := by decide +kernel

end LiveEditor.Toml
