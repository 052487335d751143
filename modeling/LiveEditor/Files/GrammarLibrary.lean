import LiveEditor.Files.Tree
import LiveEditor.Highlight.Bundled

/-! # Finding grammars

A grammar is looked for by its resource name.  A file in the grammar directory
comes first, even one that turns out to be no grammar; only where there is no
such file do the bundled grammars count.
-/

namespace LiveEditor.Grammar

def ofFile? (tree : FileTree) (path : Path) : Option Grammar :=
  match tree.readText path with
  | .error _ => none
  | .ok document => (ofJson document).toOption

def find? (tree : FileTree) (directory : Option Path) (name : Text) :
    Option Grammar :=
  match directory.map fun path => path.join (Path.ofText name) with
  | none => bundled? name
  | some path => if tree.isFile path then ofFile? tree path else bundled? name

end LiveEditor.Grammar
