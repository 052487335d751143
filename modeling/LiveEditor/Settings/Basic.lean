import LiveEditor.Editor.Basic

/-! # Settings

Everything that a user can set up: where the bridge is, how the editor behaves,
and where grammars are looked for before the bundled ones.
-/

namespace LiveEditor

structure Settings where
  bridge : Endpoint := .standard
  editor : EditorSettings := .standard
  grammarDirectory : Option Text := none
  deriving DecidableEq, Repr

namespace Settings

def standard : Settings := {}

end Settings

end LiveEditor
