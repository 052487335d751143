import LiveEditor.Json.Value

/-! # Writing JSON

Values are laid out with two blanks for each level and one item or field on a
line; empty arrays and objects stay on their line.  In strings only the quote,
the backslash and control characters are escaped.
-/

namespace LiveEditor.Json

def escaped (character : Char) : Text :=
  if character = '"' then ['\\', '"']
  else if character = '\\' then ['\\', '\\']
  else if character = '\n' then ['\\', 'n']
  else if character = '\r' then ['\\', 'r']
  else if character = '\t' then ['\\', 't']
  else if character = '\x08' then ['\\', 'b']
  else if character = '\x0c' then ['\\', 'f']
  else if character.toNat < 0x20 then
    ['\\', 'u', '0', '0', Nat.digitChar (character.toNat / 16),
      Nat.digitChar (character.toNat % 16)]
  else [character]

def quoted (value : Text) : Text :=
  '"' :: value.flatMap escaped ++ ['"']

def newLine (level : Nat) : Text :=
  '\n' :: List.replicate (2 * level) ' '

mutual

def layOut (level : Nat) : Json → Text
  | .null => "null".toList
  | .boolean value => (if value then "true" else "false").toList
  | .number literal => literal
  | .string value => quoted value
  | .array [] => ['[', ']']
  | .array (first :: rest) =>
      '[' :: newLine (level + 1) ++ layOut (level + 1) first ++
        layOutItems (level + 1) rest ++ newLine level ++ [']']
  | .object [] => ['{', '}']
  | .object ((name, first) :: rest) =>
      '{' :: newLine (level + 1) ++ quoted name ++ [':', ' '] ++
        layOut (level + 1) first ++ layOutFields (level + 1) rest ++
        newLine level ++ ['}']

def layOutItems (level : Nat) : List Json → Text
  | [] => []
  | item :: rest =>
      ',' :: newLine level ++ layOut level item ++ layOutItems level rest

def layOutFields (level : Nat) : List (Text × Json) → Text
  | [] => []
  | (name, value) :: rest =>
      ',' :: newLine level ++ quoted name ++ [':', ' '] ++
        layOut level value ++ layOutFields level rest

end

def pretty (value : Json) : Text :=
  layOut 0 value

end LiveEditor.Json
