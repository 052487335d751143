import LiveEditor.Text.Basic

/-! # JSON values

The values of a JSON document.  A number keeps the form in which it is written,
because nothing here computes with it.  An object keeps its fields in the order
of the document; of several fields with one name the last one counts.
-/

namespace LiveEditor

inductive Json where
  | null
  | boolean (value : Bool)
  | number (literal : Text)
  | string (value : Text)
  | array (items : List Json)
  | object (fields : List (Text × Json))
  deriving Repr, Inhabited

namespace Json

/-- The value of a field of an object's field list; the last of several
counts. -/
def field? (fields : List (Text × Json)) (name : Text) : Option Json :=
  (fields.reverse.find? fun field => field.1 == name).map Prod.snd

def string? : Json → Option Text
  | .string value => some value
  | _ => none

def boolean? : Json → Option Bool
  | .boolean value => some value
  | _ => none

def items? : Json → Option (List Json)
  | .array items => some items
  | _ => none

def fields? : Json → Option (List (Text × Json))
  | .object fields => some fields
  | _ => none

def ofNat (value : Nat) : Json :=
  .number (Nat.toDigits 10 value)

end Json

end LiveEditor
