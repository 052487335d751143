import LiveEditor.Session.Basic

/-! # The session as one record

The same session with all its fields side by side, and with one arm for each event.
An arm can read and write every field here; that the arms keep to the two sides of a
session is a theorem about them.
-/

namespace LiveEditor

structure SessionRecord where
  text : Text
  selection : Selection
  fileName : Text
  handle : Option Text
  newExtension : Text
  language : Language
  grammar : Option Grammar
  query : Query
  replacement : Text
  errors : ErrorLines
  indicator : Indicator
  detail : Option Text
  output : Text
  connected : Bool
  connection : Connection
  generation : Nat
  clearErrorsOnEdit : Bool
  deriving DecidableEq

namespace SessionRecord

def initial (defaultExtension : Text) (clearErrorsOnEdit : Bool) : SessionRecord :=
  let extension :=
    if isOfferedExtension defaultExtension then defaultExtension
    else Language.builtIn.extension
  { text := []
    selection := .cursor 0
    fileName := Workbench.untitled extension
    handle := none
    newExtension := extension
    language := .builtIn
    grammar := none
    query := {}
    replacement := []
    errors := .empty
    indicator := .idle
    detail := none
    output := []
    connected := false
    connection := .disconnected
    generation := 0
    clearErrorsOnEdit }

def setText (state : SessionRecord) (text : Text) (selection : Selection) :
    SessionRecord :=
  { state with
    errors :=
      if text ≠ state.text ∧ state.clearErrorsOnEdit ∧ ¬ state.errors.isEmpty
      then .empty else state.errors
    selection := selection.clampTo text
    text }

def isCurrent (state : SessionRecord) (generation : Nat) : Bool :=
  generation == state.generation && state.indicator == .compiling

def apply (state : SessionRecord) : SessionEvent → SessionRecord
  | .workbench (.edited text selection) => state.setText text selection
  | .workbench (.selectionChanged selection) =>
      { state with selection := selection.clampTo state.text }
  | .workbench .cut =>
      match state.text.replace state.selection.span [] with
      | .ok text => state.setText text (.cursor state.selection.span.start)
      | .error _ => state
  | .workbench (.pasted clip) =>
      match state.text.replace state.selection.span clip with
      | .ok text =>
          state.setText text (.cursor (state.selection.start + clip.byteLength))
      | .error _ => state
  | .workbench (.queryChanged text) =>
      { state with query := { state.query with text } }
  | .workbench (.caseSensitiveChanged on) =>
      { state with query := { state.query with caseSensitive := on } }
  | .workbench (.wholeWordChanged on) =>
      { state with query := { state.query with wholeWord := on } }
  | .workbench (.replacementChanged text) => { state with replacement := text }
  | .workbench .findNext =>
      match (state.query.search state.text).findNext state.selection.stop with
      | some found => { state with selection := .ofSpan found }
      | none => state
  | .workbench .replaceCurrent =>
      match (state.query.search state.text).replaceCurrent state.selection
          state.replacement with
      | some (text, selection) => state.setText text selection
      | none => state
  | .workbench .replaceAll =>
      match (state.query.search state.text).replaceAll state.replacement with
      | some text => state.setText text state.selection
      | none => state
  | .workbench (.languageSelected language grammar) =>
      { state with newExtension := language.extension, grammar, language }
  | .workbench (.extensionSelected extension) =>
      if isOfferedExtension extension then { state with newExtension := extension }
      else state
  | .workbench .newDocument =>
      let emptied := state.setText [] (.cursor 0)
      { emptied with
        handle := none
        fileName := Workbench.untitled emptied.newExtension }
  | .workbench (.documentOpened handle text) =>
      { state.setText text (.cursor text.byteLength) with
        fileName := Path.displayName handle
        handle := some handle }
  | .workbench (.documentSaved handle) =>
      { state with fileName := Path.displayName handle, handle := some handle }
  | .workbench (.draftRestored text) =>
      state.setText text (.cursor text.byteLength)
  | .bridge .connectStarted =>
      { state with
        indicator := .connecting
        detail := none
        connection := state.connection.probeStarted }
  | .bridge (.connectFinished result) =>
      let probed :=
        { state with
          connection := state.connection.probeFinished
          connected := result.isOk }
      if probed.indicator = .connecting then
        { probed with
          indicator := if probed.connected then .connected else .notConnected
          detail :=
            match result with
            | .ok () => none
            | .error reason => some reason }
      else
        probed
  | .bridge (.compileStarted generation) =>
      { state with
        generation
        errors := .empty
        output := []
        indicator := .compiling
        detail := none
        connection := state.connection.streamStarted }
  | .bridge (.compileLine generation line) =>
      if state.isCurrent generation then
        { state with
          errors :=
            match line.diagnostic? with
            | some diagnostic => state.errors.record diagnostic
            | none => state.errors
          output := state.output ++ line.text ++ ['\n'] }
      else
        state
  | .bridge (.compileFinished generation result) =>
      if state.isCurrent generation then
        let ended := { state with connection := state.connection.streamFinished }
        match result with
        | .ok true => { ended with indicator := .success }
        | .ok false => { ended with indicator := .failed }
        | .error reason => { ended with indicator := .failed, detail := some reason }
      else
        state
  | .bridge (.compileCancelled generation) =>
      if state.isCurrent generation then
        { state with
          connection := state.connection.streamFinished
          indicator := .idle }
      else
        state

def applyAll (state : SessionRecord) (events : List SessionEvent) : SessionRecord :=
  events.foldl apply state

/-! ## Its two sides -/

def sides (state : SessionRecord) : Session where
  workbench :=
    { text := state.text
      selection := state.selection
      fileName := state.fileName
      handle := state.handle
      newExtension := state.newExtension
      language := state.language
      grammar := state.grammar
      query := state.query
      replacement := state.replacement }
  monitor :=
    { indicator := state.indicator
      detail := state.detail
      output := state.output
      connected := state.connected
      connection := state.connection
      generation := state.generation }
  errors := state.errors
  clearErrorsOnEdit := state.clearErrorsOnEdit

def ofSides (session : Session) : SessionRecord where
  text := session.workbench.text
  selection := session.workbench.selection
  fileName := session.workbench.fileName
  handle := session.workbench.handle
  newExtension := session.workbench.newExtension
  language := session.workbench.language
  grammar := session.workbench.grammar
  query := session.workbench.query
  replacement := session.workbench.replacement
  errors := session.errors
  indicator := session.monitor.indicator
  detail := session.monitor.detail
  output := session.monitor.output
  connected := session.monitor.connected
  connection := session.monitor.connection
  generation := session.monitor.generation
  clearErrorsOnEdit := session.clearErrorsOnEdit

theorem sides_ofSides (session : Session) : (ofSides session).sides = session := rfl

theorem ofSides_sides (state : SessionRecord) : ofSides state.sides = state := rfl

end SessionRecord

end LiveEditor
