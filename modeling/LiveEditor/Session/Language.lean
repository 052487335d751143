import LiveEditor.Text.Basic

/-! # Languages

The language of a document decides how it is highlighted and which extension a
new document gets.  One language is built in; the others are described by a
grammar that is loaded by the name of its resource.
-/

namespace LiveEditor

def offeredExtensions : List Text :=
  [".txt", ".kt", ".java", ".py"].map String.toList

def isOfferedExtension (extension : Text) : Bool :=
  offeredExtensions.contains extension

inductive Language where
  | builtIn
  | configured (name resource extension : Text)
  deriving DecidableEq, Repr, Inhabited

namespace Language

def python : Language :=
  .configured "Python".toList "python.json".toList ".py".toList

def java : Language :=
  .configured "Java".toList "java.json".toList ".java".toList

def presets : List Language :=
  [.builtIn, python, java]

def name : Language → Text
  | .builtIn => "Kotlin".toList
  | .configured name _ _ => name

def label (language : Language) : Text :=
  match language with
  | .builtIn => language.name ++ " (built-in)".toList
  | .configured name _ _ => name ++ " (config)".toList

def extension : Language → Text
  | .builtIn => ".kt".toList
  | .configured _ _ extension => extension

def resource? : Language → Option Text
  | .builtIn => none
  | .configured _ resource _ => some resource

def ofName? (name : Text) : Option Language :=
  presets.find? fun language =>
    language.name.map Char.toLower == name.map Char.toLower

example : ofName? "pyTHON".toList = some python := by decide +kernel
example : ofName? "kotlin ".toList = none := by decide +kernel

end Language

end LiveEditor
