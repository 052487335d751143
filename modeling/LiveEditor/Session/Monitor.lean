import LiveEditor.Bridge.Connection
import LiveEditor.Bridge.StreamLine

/-! # The monitor

The monitor is the side of a session that shows the bridge: an indicator, the
output of the latest compilation and whether the bridge was found alive.  Each
compilation has a number of its own, its generation.  What a compilation
reports counts only while the indicator shows that very compilation.
-/

namespace LiveEditor

inductive Indicator where
  | idle
  | connecting
  | connected
  | notConnected
  | compiling
  | success
  | failed
  deriving DecidableEq, Repr, Inhabited

namespace Indicator

def label : Indicator → String
  | .idle => ""
  | .connecting => "Connecting…"
  | .connected => "Connected"
  | .notConnected => "Not connected"
  | .compiling => "Compiling…"
  | .success => "Success"
  | .failed => "Failed"

def isPending : Indicator → Bool
  | .connecting | .compiling => true
  | _ => false

end Indicator

structure Monitor where
  indicator : Indicator := .idle
  detail : Option Text := none
  output : Text := []
  connected : Bool := false
  connection : Connection := .disconnected
  generation : Nat := 0
  deriving DecidableEq, Repr, Inhabited

inductive BridgeEvent where
  | connectStarted
  | connectFinished (result : Except Text Unit)
  | compileStarted (generation : Nat)
  | compileLine (generation : Nat) (line : StreamLine)
  | compileFinished (generation : Nat) (result : Except Text Bool)
  | compileCancelled (generation : Nat)

namespace Monitor

def isCurrent (monitor : Monitor) (generation : Nat) : Bool :=
  generation == monitor.generation && monitor.indicator == .compiling

/-- The monitor after a probe has ended.  A compilation that was started in the
meantime keeps the indicator. -/
def finishProbe (monitor : Monitor) (result : Except Text Unit) : Monitor :=
  let probed :=
    { monitor with
      connection := monitor.connection.probeFinished
      connected := result.isOk }
  if monitor.indicator = .connecting then
    match result with
    | .ok () => { probed with indicator := .connected, detail := none }
    | .error reason =>
        { probed with indicator := .notConnected, detail := some reason }
  else
    probed

def finishCompile (monitor : Monitor) (result : Except Text Bool) : Monitor :=
  let ended := { monitor with connection := monitor.connection.streamFinished }
  match result with
  | .ok true => { ended with indicator := .success }
  | .ok false => { ended with indicator := .failed }
  | .error reason =>
      { ended with indicator := .failed, detail := some reason }

def apply (monitor : Monitor) : BridgeEvent → Monitor
  | .connectStarted =>
      { monitor with
        indicator := .connecting
        detail := none
        connection := monitor.connection.probeStarted }
  | .connectFinished result => monitor.finishProbe result
  | .compileStarted generation =>
      { monitor with
        generation
        output := []
        indicator := .compiling
        detail := none
        connection := monitor.connection.streamStarted }
  | .compileLine generation line =>
      if monitor.isCurrent generation then
        { monitor with output := monitor.output ++ line.text ++ ['\n'] }
      else
        monitor
  | .compileFinished generation result =>
      if monitor.isCurrent generation then monitor.finishCompile result
      else monitor
  | .compileCancelled generation =>
      if monitor.isCurrent generation then
        { monitor with
          connection := monitor.connection.streamFinished
          indicator := .idle }
      else
        monitor

end Monitor

end LiveEditor
