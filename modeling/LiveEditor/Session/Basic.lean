import LiveEditor.Bridge.Diagnostics
import LiveEditor.Highlight.Overlay
import LiveEditor.Highlight.Passes
import LiveEditor.Highlight.Token
import LiveEditor.Session.Monitor
import LiveEditor.Session.Workbench
import LiveEditor.Text.Statistics

/-! # Sessions

A session is a value, and all that happens to it is an event.  It has two
sides, the workbench and the monitor, and each event belongs to one of them.
The error lines are what the two share: the current compilation adds to them,
the start of a compilation empties them, and if the session is set up so, a
change of the text empties them too.
-/

namespace LiveEditor

structure Session where
  workbench : Workbench
  monitor : Monitor
  errors : ErrorLines
  clearErrorsOnEdit : Bool
  deriving DecidableEq

inductive SessionEvent where
  | workbench (event : WorkbenchEvent)
  | bridge (event : BridgeEvent)

namespace Session

def initial (defaultExtension : Text) (clearErrorsOnEdit : Bool) : Session where
  workbench := .initial defaultExtension
  monitor := {}
  errors := .empty
  clearErrorsOnEdit

def errorsAfter (session : Session) : BridgeEvent → ErrorLines
  | .compileStarted _ => .empty
  | .compileLine generation line =>
      match line.diagnostic? with
      | none => session.errors
      | some diagnostic =>
          if session.monitor.isCurrent generation then
            session.errors.record diagnostic
          else
            session.errors
  | _ => session.errors

def apply (session : Session) : SessionEvent → Session
  | .workbench event =>
      let workbench := session.workbench.apply event
      { session with
        workbench
        errors :=
          if session.clearErrorsOnEdit ∧ workbench.text ≠ session.workbench.text
          then .empty else session.errors }
  | .bridge event =>
      { session with
        monitor := session.monitor.apply event
        errors := session.errorsAfter event }

def applyAll (session : Session) (events : List SessionEvent) : Session :=
  events.foldl apply session

def render (session : Session) : StyledText :=
  let bench := session.workbench
  let base :=
    match bench.language with
    | .builtIn => StyledText.ofTokens .kotlin bench.text
    | .configured _ _ _ => StyledText.ofGrammar bench.grammar bench.text
  base.compose bench.query session.errors

def statistics (session : Session) : Statistics :=
  session.workbench.text.statistics

end Session

end LiveEditor
