import LiveEditor.Settings.Basic
import LiveEditor.Toml.Reader

/-! # Reading settings

Settings are a TOML document with a section for each part.  What is missing
keeps its standard value and unknown keys are ignored, but a value of the wrong
type or out of range makes the whole document worthless.

A section is usually a table.  An array gives the values of a section in the
order of its keys, and a date counts as a section without any.
-/

namespace LiveEditor.Settings

inductive Section where
  | byKey (fields : Toml.Fields)
  | byPlace (items : List Toml)

def section? (document : Toml.Fields) (name : String) : Option Section :=
  match document.lookup name.toList with
  | none => some (.byKey [])
  | some (.table _ fields) => some (.byKey fields)
  | some (.array items) | some (.tables items) => some (.byPlace items)
  | some (.dateTime _) => some (.byKey [])
  | some _ => none

def Section.value? (values : Section) (place : Nat) (key : String) : Option Toml :=
  match values with
  | .byKey fields => fields.lookup key.toList
  | .byPlace items => items[place]?

def Section.get {α : Type} (values : Section) (place : Nat) (key : String)
    (decode : Toml → Option α) (standard : α) : Option α :=
  match values.value? place key with
  | none => some standard
  | some value => decode value

/-! ## Types of values -/

def string? : Toml → Option Text
  | .string value => some value
  | _ => none

def boolean? : Toml → Option Bool
  | .boolean value => some value
  | _ => none

def natural? (bound : Nat) : Toml → Option Nat
  | .integer (.ofNat value) => if value < bound then some value else none
  | _ => none

/-! ## Sections -/

def readBridge (values : Section) : Option Endpoint := do
  let host ← values.get 0 "host" string? Endpoint.standard.host
  let port ← values.get 1 "port" (natural? Number.bound16) Endpoint.standard.port
  let probeTimeout ←
    values.get 2 "probe_timeout_ms" (natural? Number.bound64)
      Endpoint.standard.probeTimeout
  let connectTimeout ←
    values.get 3 "connect_timeout_ms" (natural? Number.bound64)
      Endpoint.standard.connectTimeout
  return { host, port, probeTimeout, connectTimeout }

def readEditor (values : Section) : Option EditorSettings := do
  let draftName ←
    values.get 0 "draft_file_name" string? EditorSettings.standard.draftName
  let defaultExtension ←
    values.get 1 "default_extension" string? EditorSettings.standard.defaultExtension
  let clearErrorsOnEdit ←
    values.get 2 "clear_errors_on_edit" boolean?
      EditorSettings.standard.clearErrorsOnEdit
  return { draftName, defaultExtension, clearErrorsOnEdit }

def readGrammarDirectory (values : Section) : Option (Option Text) :=
  values.get 0 "config_dir" (fun value => (string? value).map some) none

def ofFields (document : Toml.Fields) : Option Settings := do
  let bridge ← readBridge (← section? document "bridge")
  let editor ← readEditor (← section? document "editor")
  let grammarDirectory ← readGrammarDirectory (← section? document "syntax")
  return { bridge, editor, grammarDirectory }

def parse? (document : Text) : Option Settings :=
  (Toml.parse? document).bind ofFields

/-! ## Files -/

inductive LoadError where
  | file (error : FileError)
  | malformed
  deriving DecidableEq, Repr

def load (tree : FileTree) (path : Path) : Except LoadError Settings :=
  match tree.readText path with
  | .error error => .error (.file error)
  | .ok document =>
      match parse? document with
      | none => .error .malformed
      | some settings => .ok settings

end LiveEditor.Settings
