import LiveEditor.Files.Path
import LiveEditor.Highlight.Grammar
import LiveEditor.Search
import LiveEditor.Session.Language

/-! # The workbench

The workbench is the side of a session that the user works on: the document
with its selection, what is searched for, the language, and where the document
is kept.  Nothing that comes from the bridge changes it.
-/

namespace LiveEditor

structure Workbench where
  text : Text
  selection : Selection
  fileName : Text
  handle : Option Text
  newExtension : Text
  language : Language
  grammar : Option Grammar
  query : Query
  replacement : Text
  deriving DecidableEq, Repr

inductive WorkbenchEvent where
  | edited (text : Text) (selection : Selection)
  | selectionChanged (selection : Selection)
  | cut
  | pasted (clip : Text)
  | queryChanged (text : Text)
  | caseSensitiveChanged (on : Bool)
  | wholeWordChanged (on : Bool)
  | replacementChanged (text : Text)
  | findNext
  | replaceCurrent
  | replaceAll
  | languageSelected (language : Language) (grammar : Option Grammar)
  | extensionSelected (extension : Text)
  | newDocument
  | documentOpened (handle text : Text)
  | documentSaved (handle : Text)
  | draftRestored (text : Text)
  deriving DecidableEq, Repr

namespace Workbench

def untitled (extension : Text) : Text :=
  "Untitled".toList ++ extension

def initial (defaultExtension : Text) : Workbench :=
  let extension :=
    if isOfferedExtension defaultExtension then defaultExtension
    else Language.builtIn.extension
  { text := []
    selection := .cursor 0
    fileName := untitled extension
    handle := none
    newExtension := extension
    language := .builtIn
    grammar := none
    query := {}
    replacement := [] }

def setText (bench : Workbench) (text : Text) (selection : Selection) :
    Workbench :=
  { bench with text, selection := selection.clampTo text }

def replaceSelection (bench : Workbench) (clip : Text) : Workbench :=
  match bench.text.replace bench.selection.span clip with
  | .error _ => bench
  | .ok text =>
      bench.setText text (.cursor (bench.selection.start + clip.byteLength))

def setDocument (bench : Workbench) (text : Text) : Workbench :=
  bench.setText text (.cursor text.byteLength)

def apply (bench : Workbench) : WorkbenchEvent → Workbench
  | .edited text selection => bench.setText text selection
  | .selectionChanged selection =>
      { bench with selection := selection.clampTo bench.text }
  | .cut => bench.replaceSelection []
  | .pasted clip => bench.replaceSelection clip
  | .queryChanged text => { bench with query := { bench.query with text } }
  | .caseSensitiveChanged on =>
      { bench with query := { bench.query with caseSensitive := on } }
  | .wholeWordChanged on =>
      { bench with query := { bench.query with wholeWord := on } }
  | .replacementChanged text => { bench with replacement := text }
  | .findNext =>
      match (bench.query.search bench.text).findNext bench.selection.stop with
      | none => bench
      | some found => { bench with selection := .ofSpan found }
  | .replaceCurrent =>
      match (bench.query.search bench.text).replaceCurrent bench.selection
          bench.replacement with
      | none => bench
      | some (text, selection) => bench.setText text selection
  | .replaceAll =>
      match (bench.query.search bench.text).replaceAll bench.replacement with
      | none => bench
      | some text => bench.setText text bench.selection
  | .languageSelected language grammar =>
      { bench with language, grammar, newExtension := language.extension }
  | .extensionSelected extension =>
      if isOfferedExtension extension then
        { bench with newExtension := extension }
      else
        bench
  | .newDocument =>
      { bench.setText [] (.cursor 0) with
        handle := none
        fileName := untitled bench.newExtension }
  | .documentOpened handle text =>
      { bench.setDocument text with
        fileName := Path.displayName handle
        handle := some handle }
  | .documentSaved handle =>
      { bench with
        fileName := Path.displayName handle
        handle := some handle }
  | .draftRestored text => bench.setDocument text

def selectedText? (bench : Workbench) : Option Text :=
  if bench.selection.isCursor then none
  else (bench.text.slice bench.selection.span).toOption

def suggestedName (bench : Workbench) : Text :=
  if bench.newExtension.isSuffixOf bench.fileName then bench.fileName
  else untitled bench.newExtension

end Workbench

end LiveEditor
