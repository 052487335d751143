import LiveEditor.Json.Numeral
import LiveEditor.Json.Value

/-! # Reading JSON

A strict reader.  Blanks are spaces, tabs, line feeds and carriage returns;
strings hold no control characters and no half of a surrogate pair; nothing
follows the value but blanks; and arrays and objects nest at most 127 deep.
The number that the reading of a row of parts begins with bounds how many there
are: every part takes a character, so the length of the text is bound enough.
-/

namespace LiveEditor.Json

def isSeparator (character : Char) : Bool :=
  character == ' ' || character == '\t' || character == '\n' || character == '\r'

def skipSeparators (text : Text) : Text :=
  text.dropWhile isSeparator

/-! ## Strings -/

def hexUnit? : Text → Option (Nat × Text)
  | first :: second :: third :: fourth :: rest => do
      let a ← Number.hexDigit? first
      let b ← Number.hexDigit? second
      let c ← Number.hexDigit? third
      let d ← Number.hexDigit? fourth
      return (((a * 16 + b) * 16 + c) * 16 + d, rest)
  | _ => none

/-- The character of an escape that begins with `u`, and how many characters of
the text belong to it.  Code points beyond the basic plane take two units. -/
def readUnitEscape (text : Text) : Option (Char × Nat) := do
  let (unit, rest) ← hexUnit? text
  if 0xD800 ≤ unit ∧ unit ≤ 0xDBFF then
    match rest with
    | '\\' :: 'u' :: more =>
        let (low, _) ← hexUnit? more
        if 0xDC00 ≤ low ∧ low ≤ 0xDFFF then
          return (Char.ofNat (0x10000 + (unit - 0xD800) * 0x400 + (low - 0xDC00)), 10)
        else
          none
    | _ => none
  else if 0xDC00 ≤ unit ∧ unit ≤ 0xDFFF then
    none
  else
    return (Char.ofNat unit, 4)

def readEscape : Text → Option (Char × Nat)
  | [] => none
  | letter :: rest =>
      match letter with
      | '"' => some ('"', 1)
      | '\\' => some ('\\', 1)
      | '/' => some ('/', 1)
      | 'b' => some ('\x08', 1)
      | 'f' => some ('\x0c', 1)
      | 'n' => some ('\n', 1)
      | 'r' => some ('\r', 1)
      | 't' => some ('\t', 1)
      | 'u' => (readUnitEscape rest).map fun found => (found.1, found.2 + 1)
      | _ => none

/-- Read a string behind its opening quote.  The first `skip` characters belong
to an escape that has been read. -/
def readStringFrom : (skip : Nat) → Text → Option (Text × Text)
  | _, [] => none
  | skip + 1, _ :: rest => readStringFrom skip rest
  | 0, character :: rest =>
      if character = '"' then
        some ([], rest)
      else if character = '\\' then
        match readEscape rest with
        | none => none
        | some (value, length) =>
            (readStringFrom length rest).map fun found =>
              (value :: found.1, found.2)
      else if character.toNat < 0x20 then
        none
      else
        (readStringFrom 0 rest).map fun found => (character :: found.1, found.2)

def readString : Text → Option (Text × Text)
  | '"' :: rest => readStringFrom 0 rest
  | _ => none

/-! ## Values -/

def readScalar (text : Text) : Option (Json × Text) :=
  match text with
  | 'n' :: 'u' :: 'l' :: 'l' :: rest => some (.null, rest)
  | 't' :: 'r' :: 'u' :: 'e' :: rest => some (.boolean true, rest)
  | 'f' :: 'a' :: 'l' :: 's' :: 'e' :: rest => some (.boolean false, rest)
  | '"' :: rest =>
      (readStringFrom 0 rest).map fun found => (.string found.1, found.2)
  | _ => (readNumeral text).map fun found => (.number found.1, found.2)

def readParts {α : Type} (part : Text → Option (α × Text)) (close : Char) :
    Nat → Text → Option (List α × Text)
  | 0, _ => none
  | bound + 1, text =>
      match part (skipSeparators text) with
      | none => none
      | some (value, rest) =>
          match skipSeparators rest with
          | [] => none
          | character :: more =>
              if character = ',' then
                (readParts part close bound more).map fun found =>
                  (value :: found.1, found.2)
              else if character = close then
                some ([value], more)
              else
                none

def readEnclosed {α : Type} (part : Text → Option (α × Text)) (close : Char)
    (text : Text) : Option (List α × Text) :=
  match skipSeparators text with
  | [] => none
  | character :: rest =>
      if character = close then some ([], rest)
      else readParts part close text.length text

def readField (value : Text → Option (Json × Text)) (text : Text) :
    Option ((Text × Json) × Text) := do
  let (name, afterName) ← readString text
  match skipSeparators afterName with
  | ':' :: rest =>
      let (found, remaining) ← value (skipSeparators rest)
      return ((name, found), remaining)
  | _ => none

def readValue : (depth : Nat) → Text → Option (Json × Text)
  | 0, text => readScalar text
  | depth + 1, text =>
      match text with
      | '[' :: rest =>
          (readEnclosed (readValue depth) ']' rest).map fun found =>
            (.array found.1, found.2)
      | '{' :: rest =>
          (readEnclosed (readField (readValue depth)) '}' rest).map fun found =>
            (.object found.1, found.2)
      | _ => readScalar text

def nestingLimit : Nat := 127

def parse? (text : Text) : Option Json :=
  match readValue nestingLimit (skipSeparators text) with
  | none => none
  | some (value, rest) => if (skipSeparators rest).isEmpty then some value else none

end LiveEditor.Json
