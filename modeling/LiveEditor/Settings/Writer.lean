import LiveEditor.Settings.Basic
import LiveEditor.Toml.Quoted

/-! # Writing settings

Settings are written section by section, one key on a line, with an empty line
between sections.  A grammar directory that is not set is left out.  A document
has no place for numbers that do not fit into 64 bits with a sign.
-/

namespace LiveEditor.Settings

def keyLine (key : String) (value : Text) : Text :=
  key.toList ++ " = ".toList ++ value ++ ['\n']

def sectionLine (name : String) : Text :=
  ['['] ++ name.toList ++ [']', '\n']

def writtenNumber (value : Nat) : Text :=
  Nat.toDigits 10 value

def writtenBoolean (value : Bool) : Text :=
  (if value then "true" else "false").toList

def write (settings : Settings) : Text :=
  sectionLine "bridge" ++
    keyLine "host" (Toml.quoted settings.bridge.host) ++
    keyLine "port" (writtenNumber settings.bridge.port) ++
    keyLine "probe_timeout_ms" (writtenNumber settings.bridge.probeTimeout) ++
    keyLine "connect_timeout_ms" (writtenNumber settings.bridge.connectTimeout) ++
    ['\n'] ++
    sectionLine "editor" ++
    keyLine "draft_file_name" (Toml.quoted settings.editor.draftName) ++
    keyLine "default_extension" (Toml.quoted settings.editor.defaultExtension) ++
    keyLine "clear_errors_on_edit"
      (writtenBoolean settings.editor.clearErrorsOnEdit) ++
    ['\n'] ++
    sectionLine "syntax" ++
    (match settings.grammarDirectory with
      | none => []
      | some directory => keyLine "config_dir" (Toml.quoted directory))

/-! ## Files -/

def isWritableNumber (value : Nat) : Bool :=
  (value : Int) < Number.signedBound64

def document? (settings : Settings) : Option Text :=
  if isWritableNumber settings.bridge.probeTimeout &&
      isWritableNumber settings.bridge.connectTimeout then
    some settings.write
  else
    none

inductive SaveError where
  | file (error : FileError)
  | notWritable
  deriving DecidableEq, Repr

/-- Write a document to the file of a path.  A path that demands a directory is
refused: with a slash at its end no matter what is there, and with a dot when it
leads to a directory. -/
def writeDocument (tree : FileTree) (path : Path) (document : Text) :
    Except FileError FileTree :=
  match path.ending with
  | .plain => tree.write path (Utf8.encode document)
  | .slash =>
      match tree.locateParent path with
      | .error error => .error error
      | .ok _ => .error .isADirectory
  | .dot =>
      match tree.locate path with
      | .error error => .error error
      | .ok _ => .error .isADirectory

def save (settings : Settings) (tree : FileTree) (path : Path) :
    Except SaveError Unit × FileTree :=
  match tree.makeParents path with
  | (.error error, made) => (.error (.file error), made)
  | (.ok (), made) =>
      match settings.document? with
      | none => (.error .notWritable, made)
      | some document =>
          match writeDocument made path document with
          | .error error => (.error (.file error), made)
          | .ok written => (.ok (), written)

end LiveEditor.Settings
