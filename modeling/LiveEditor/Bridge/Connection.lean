/-! # The connection to the bridge

What the editor is doing with the bridge at a moment: nothing, probing whether
it is alive, or streaming the output of a compilation.  A probe during a stream
does not show.
-/

namespace LiveEditor

inductive Connection where
  | disconnected
  | probing
  | streaming
  deriving DecidableEq, Repr, Inhabited

namespace Connection

def probeStarted : Connection → Connection
  | .streaming => .streaming
  | _ => .probing

def probeFinished : Connection → Connection
  | .probing => .disconnected
  | other => other

def streamStarted (_ : Connection) : Connection :=
  .streaming

def streamFinished (_ : Connection) : Connection :=
  .disconnected

def isStreaming (connection : Connection) : Bool :=
  connection == .streaming

def name : Connection → String
  | .disconnected => "Disconnected"
  | .probing => "Probing"
  | .streaming => "Streaming"

end Connection

end LiveEditor
