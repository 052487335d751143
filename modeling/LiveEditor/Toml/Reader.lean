import LiveEditor.Toml.Scalar

/-! # Reading TOML

A document is a row of lines: keys with values, headers of tables, comments.
Blanks may stand around every part.  Arrays and tables in braces nest at most
79 deep, and a dotted key has at most as many parts.  The number that the
reading of a row of parts begins with bounds how many there are; the length of
the text is bound enough.
-/

namespace LiveEditor.Toml

def nestingLimit : Nat := 79

def skipSpaces (text : Text) : Text :=
  text.dropWhile isSpace

/-- A text without the blanks, line breaks and comments at its front.  A
character that no comment may hold ends the skipping, inside a comment too. -/
def skipFiller : (inComment : Bool) → Text → Text
  | _, [] => []
  | true, character :: rest =>
      if character = '\n' then skipFiller false rest
      else if isPlain character then skipFiller true rest
      else if character = '\r' ∧ rest.head? = some '\n' then skipFiller true rest
      else character :: rest
  | false, character :: rest =>
      if isSpace character ∨ character = '\n' then skipFiller false rest
      else if character = '\r' ∧ rest.head? = some '\n' then skipFiller false rest
      else if character = '#' then skipFiller true rest
      else character :: rest

def passLineEnd (text : Text) : Option Text :=
  let rest :=
    match skipSpaces text with
    | '#' :: comment => comment.dropWhile isPlain
    | other => other
  if rest.isEmpty then some [] else afterNewline? rest

/-! ## Keys -/

def isKeyCharacter (character : Char) : Bool :=
  character.isAlphanum || character == '_' || character == '-'

def readKeyPart (text : Text) : Option (Text × Text) :=
  match text with
  | '"' :: rest => readBasicFrom 0 rest
  | '\x27' :: rest => readLiteral rest
  | _ =>
      match text.takeWhile isKeyCharacter with
      | [] => none
      | part => some (part, text.drop part.length)

def readKeyParts : Nat → Text → Option (List Text × Text)
  | 0, _ => none
  | bound + 1, text =>
      match readKeyPart (skipSpaces text) with
      | none => none
      | some (part, rest) =>
          match skipSpaces rest with
          | '.' :: more =>
              (readKeyParts bound more).map fun found => (part :: found.1, found.2)
          | remaining => some ([part], remaining)

def readKey (text : Text) : Option (List Text × Text) :=
  readKeyParts nestingLimit text

/-! ## Values -/

def readScalar (text : Text) : Option (Toml × Text) :=
  match text with
  | 't' :: 'r' :: 'u' :: 'e' :: rest => some (.boolean true, rest)
  | 'f' :: 'a' :: 'l' :: 's' :: 'e' :: rest => some (.boolean false, rest)
  | '"' :: _ | '\x27' :: _ =>
      (readString text).map fun found => (.string found.1, found.2)
  | _ => readNumberOrDate text

def readItems (value : Text → Option (Toml × Text)) :
    Nat → Text → Option (List Toml × Text)
  | 0, _ => none
  | bound + 1, text =>
      match skipFiller false text with
      | [] => none
      | ']' :: rest => some ([], rest)
      | begin =>
          match value begin with
          | none => none
          | some (item, rest) =>
              match skipFiller false rest with
              | ',' :: more =>
                  (readItems value bound more).map fun found =>
                    (item :: found.1, found.2)
              | ']' :: more => some ([item], more)
              | _ => none

def readField (value : Text → Option (Toml × Text)) (text : Text) :
    Option ((List Text × Toml) × Text) := do
  let (key, afterKey) ← readKey text
  let afterSign ← expect '=' afterKey
  let (found, rest) ← value (skipSpaces afterSign)
  return ((key, found), rest)

def readFields (value : Text → Option (Toml × Text)) :
    Nat → Text → Option (List (List Text × Toml) × Text)
  | 0, _ => none
  | bound + 1, text =>
      match readField value text with
      | none => none
      | some (field, rest) =>
          match skipSpaces rest with
          | ',' :: more =>
              (readFields value bound more).map fun found =>
                (field :: found.1, found.2)
          | '\x7d' :: more => some ([field], more)
          | _ => none

def Fields.addField (fields : Fields) (key : List Text) (value : Toml) :
    Option Fields :=
  match key.getLast? with
  | none => none
  | some last => Fields.addDotted last value key.dropLast fields

def inlineTable? (fields : List (List Text × Toml)) : Option Toml :=
  (fields.foldlM (fun table field => Fields.addField table field.1 field.2) []).map
    (.table .inline)

def readValue : (depth : Nat) → Text → Option (Toml × Text)
  | 0, text =>
      match text with
      | '[' :: _ | '\x7b' :: _ => none
      | _ => readScalar text
  | depth + 1, text =>
      match text with
      | '[' :: rest =>
          (readItems (readValue depth) text.length rest).map fun found =>
            (.array found.1, found.2)
      | '\x7b' :: rest =>
          match skipSpaces rest with
          | '\x7d' :: more => some (.table .inline [], more)
          | begin =>
              match readFields (readValue depth) text.length begin with
              | none => none
              | some (fields, remaining) =>
                  (inlineTable? fields).map fun table => (table, remaining)
      | _ => readScalar text

/-! ## Documents -/

structure Draft where
  fields : Fields := []
  current : List Text := []

def readHeader (draft : Draft) (text : Text) : Option (Draft × Text) := do
  let (repeated, inside) :=
    match text with
    | '[' :: rest => (true, rest)
    | _ => (false, text)
  let (path, afterPath) ← readKey inside
  let afterBracket ← expect ']' afterPath
  let rest ← if repeated then expect ']' afterBracket else some afterBracket
  let key ← path.getLast?
  let change := if repeated then Fields.openElement key else Fields.openTable key
  let fields ← Fields.descend change path.dropLast draft.fields
  return ({ fields, current := path }, rest)

def readLine (draft : Draft) (text : Text) : Option (Draft × Text) :=
  match text with
  | '[' :: rest => readHeader draft rest
  | _ => do
      let ((key, value), rest) ← readField (readValue nestingLimit) text
      let fields ←
        Fields.descend (fun table => Fields.addField table key value)
          draft.current draft.fields
      return ({ draft with fields }, rest)

def readLines : Nat → Draft → Text → Option Draft
  | 0, _, _ => none
  | bound + 1, draft, text =>
      match skipSpaces text with
      | [] => some draft
      | begin =>
          match afterNewline? begin with
          | some rest => readLines bound draft rest
          | none =>
              if begin.head? = some '#' then
                (passLineEnd begin).bind (readLines bound draft)
              else
                match readLine draft begin with
                | none => none
                | some (next, rest) =>
                    (passLineEnd rest).bind (readLines bound next)

def skipMark : Text → Text
  | '\ufeff' :: rest => rest
  | text => text

def parse? (text : Text) : Option Fields :=
  (readLines (text.length + 1) {} (skipMark text)).map Draft.fields

end LiveEditor.Toml
