import LiveEditor.Bridge.Exchange
import LiveEditor.Editor.Notification
import LiveEditor.Files.Store
import LiveEditor.Session.Basic

/-! # Editors

An editor owns a session and all that a session does without: a store for
documents, a clipboard, the grammars, the bus, and the tasks that talk to the
bridge in the background.  A task reports events, and these wait in a queue
until the editor takes them out in the order in which they came.
-/

namespace LiveEditor

structure EditorSettings where
  draftName : Text
  defaultExtension : Text
  clearErrorsOnEdit : Bool
  deriving DecidableEq, Repr

namespace EditorSettings

def standard : EditorSettings where
  draftName := "autosave_draft.txt".toList
  defaultExtension := ".kt".toList
  clearErrorsOnEdit := true

def newSession (settings : EditorSettings) : Session :=
  .initial settings.defaultExtension settings.clearErrorsOnEdit

end EditorSettings

/-- A task in the background: what it sends to the bridge when it first runs,
the events that it has still to report, and whether it stays open behind
them. -/
structure BackgroundTask where
  id : Nat
  request : Option Request
  remaining : List BridgeEvent
  held : Bool

namespace BackgroundTask

def isFinished (task : BackgroundTask) : Bool :=
  task.remaining.isEmpty && !task.held

end BackgroundTask

inductive DocumentError where
  | file (error : FileError)
  | noSaveTarget (suggested : Text)
  deriving DecidableEq, Repr

def DocumentError.message : DocumentError → Text
  | .file error => s!"IO error: {error.message}".toList
  | .noSaveTarget suggested =>
      "Document has no save location; suggested name: ".toList ++ suggested

structure Editor (σ : Type) where
  settings : EditorSettings
  session : Session
  store : σ
  grammars : σ → Text → Option Grammar
  clipboard : Option Text := none
  bus : Bus := .empty
  queue : List BridgeEvent := []
  tasks : List BackgroundTask := []
  compileTask : Option Nat := none
  nextTask : Nat := 0
  nextGeneration : Nat := 1
  requests : List Request := []

namespace Editor

variable {σ : Type} [DocumentStore σ]

def initial (settings : EditorSettings) (store : σ)
    (grammars : σ → Text → Option Grammar) : Editor σ :=
  { settings, session := settings.newSession, store, grammars }

/-! ## Events -/

def notification? (monitor : Monitor) : SessionEvent → Option Notification
  | .bridge (.compileLine generation line) =>
      if monitor.isCurrent generation then some (.compileLine line.text) else none
  | .bridge (.compileFinished generation result) =>
      if monitor.isCurrent generation then
        some (.compileFinished (result.toOption.getD false))
      else
        none
  | .bridge (.connectFinished result) => some (.connectionChecked result.isOk)
  | _ => none

def autosave (editor : Editor σ) : Editor σ :=
  { editor with
    store := (DocumentStore.save editor.store editor.settings.draftName
      editor.session.workbench.text).2 }

/-- Let an event happen: change the session, save the draft if the text has
changed, and tell the subscribers. -/
def dispatch (editor : Editor σ) (event : SessionEvent) : Editor σ :=
  let extra := notification? editor.session.monitor event
  let changed := { editor with session := editor.session.apply event }
  let saved :=
    if changed.session.workbench.text ≠ editor.session.workbench.text then
      changed.autosave
    else
      changed
  { saved with
    bus := (extra.toList ++ [Notification.stateChanged]).foldl Bus.emit saved.bus }

def act (editor : Editor σ) (event : WorkbenchEvent) : Editor σ :=
  editor.dispatch (.workbench event)

/-! ## The text field and the clipboard -/

def edit (editor : Editor σ) (text : Text) (selection : Selection) : Editor σ :=
  editor.act (.edited text selection)

def copy (editor : Editor σ) : Editor σ :=
  match editor.session.workbench.selectedText? with
  | none => editor
  | some selected => { editor with clipboard := some selected }

def cut (editor : Editor σ) : Editor σ :=
  match editor.session.workbench.selectedText? with
  | none => editor
  | some selected => { editor with clipboard := some selected }.act .cut

def paste (editor : Editor σ) : Editor σ :=
  editor.act (.pasted (editor.clipboard.getD []))

def selectLanguage (editor : Editor σ) (language : Language) : Editor σ :=
  editor.act (.languageSelected language
    (language.resource?.bind fun name => editor.grammars editor.store name))

/-! ## Documents -/

def newDocument (editor : Editor σ) : Editor σ :=
  editor.act .newDocument

def openDocument (editor : Editor σ) (handle : Text) :
    Except DocumentError Unit × Editor σ :=
  match DocumentStore.load editor.store handle with
  | .error error => (.error (.file error), editor)
  | .ok text => (.ok (), editor.act (.documentOpened handle text))

def saveAs (editor : Editor σ) (handle : Text) :
    Except DocumentError Unit × Editor σ :=
  match DocumentStore.save editor.store handle editor.session.workbench.text with
  | (.error error, store) => (.error (.file error), { editor with store })
  | (.ok (), store) =>
      (.ok (), { editor with store }.act (.documentSaved handle))

def save (editor : Editor σ) : Except DocumentError Unit × Editor σ :=
  match editor.session.workbench.handle with
  | none =>
      (.error (.noSaveTarget editor.session.workbench.suggestedName), editor)
  | some handle => editor.saveAs handle

def restoreDraft (editor : Editor σ) : Bool × Editor σ :=
  match DocumentStore.load editor.store editor.settings.draftName with
  | .error _ => (false, editor)
  | .ok text => (true, editor.act (.draftRestored text))

end Editor

end LiveEditor
