import LiveEditor.Text.Basic

/-! # TOML values

The values of a TOML document.  A table remembers how it came to be, because
that decides what may still be added to it: a table written in braces is closed,
a table with a header of its own takes keys under that header only, a table
that only occurs on the way to another header may still get its own, and a
table made by dotted keys grows by further dotted keys.  Floats and dates keep
the form in which they are written, because nothing here computes with them.
-/

namespace LiveEditor

inductive TableOrigin where
  | inline
  | header
  | implicit
  | dotted
  deriving DecidableEq, Repr

inductive Toml where
  | string (value : Text)
  | integer (value : Int)
  | float (literal : Text)
  | boolean (value : Bool)
  | dateTime (literal : Text)
  | array (items : List Toml)
  | table (origin : TableOrigin) (fields : List (Text × Toml))
  | tables (elements : List Toml)
  deriving Repr, Inhabited

namespace Toml

abbrev Fields := List (Text × Toml)

namespace Fields

def replace (fields : Fields) (key : Text) (value : Toml) : Fields :=
  fields.map fun field => if field.1 = key then (key, value) else field

def add (fields : Fields) (key : Text) (value : Toml) : Option Fields :=
  match fields.lookup key with
  | none => some (fields ++ [(key, value)])
  | some _ => none

/-- Put a value under a dotted key: `path` leads to the table and `key` is the
last part.  Tables on the way are made; those that are there must have been
made by dotted keys, or lie on the way to a header and not be the last. -/
def addDotted (key : Text) (value : Toml) : (path : List Text) → Fields → Option Fields
  | [], fields => fields.add key value
  | step :: rest, fields =>
      match fields.lookup step with
      | none =>
          (addDotted key value rest []).map fun inner =>
            fields ++ [(step, .table .dotted inner)]
      | some (.table .dotted inner) =>
          (addDotted key value rest inner).map fun inner =>
            fields.replace step (.table .dotted inner)
      | some (.table .implicit inner) =>
          if rest.isEmpty then none
          else
            (addDotted key value rest inner).map fun inner =>
              fields.replace step (.table .implicit inner)
      | some (.tables elements) =>
          match elements.getLast? with
          | some (.table origin inner) =>
              if rest.isEmpty then none
              else
                (addDotted key value rest inner).map fun inner =>
                  fields.replace step
                    (.tables (elements.dropLast ++ [.table origin inner]))
          | _ => none
      | some _ => none

/-- Change the table that a path of headers leads to.  Tables on the way are
made; of repeated headers the last table counts. -/
def descend (change : Fields → Option Fields) :
    (path : List Text) → Fields → Option Fields
  | [], fields => change fields
  | step :: rest, fields =>
      match fields.lookup step with
      | none =>
          (descend change rest []).map fun inner =>
            fields ++ [(step, .table .implicit inner)]
      | some (.table .inline _) => none
      | some (.table origin inner) =>
          (descend change rest inner).map fun inner =>
            fields.replace step (.table origin inner)
      | some (.tables elements) =>
          match elements.getLast? with
          | some (.table origin inner) =>
              (descend change rest inner).map fun inner =>
                fields.replace step
                  (.tables (elements.dropLast ++ [.table origin inner]))
          | _ => none
      | some _ => none

def openTable (key : Text) (fields : Fields) : Option Fields :=
  match fields.lookup key with
  | none => some (fields ++ [(key, .table .header [])])
  | some (.table .implicit inner) =>
      some (fields.replace key (.table .header inner))
  | some _ => none

def openElement (key : Text) (fields : Fields) : Option Fields :=
  match fields.lookup key with
  | none => some (fields ++ [(key, .tables [.table .header []])])
  | some (.tables elements) =>
      some (fields.replace key (.tables (elements ++ [.table .header []])))
  | some _ => none

end Fields

end Toml

end LiveEditor
