import LiveEditor.Bridge.LineSplitter
import LiveEditor.Bridge.StatusCode
import LiveEditor.Bridge.StreamLine
import LiveEditor.Json.Value

/-! # Exchanges with the bridge

The bridge is asked two things: whether it is alive, and to compile a file.
What comes back depends on what is found at its address: nothing, or a service
that gives a response.  A compilation streams its output, and the lines that
arrived before a stream broke off count.
-/

namespace LiveEditor

structure Endpoint where
  host : Text
  port : Nat
  probeTimeout : Nat
  connectTimeout : Nat
  deriving DecidableEq, Repr

namespace Endpoint

def standard : Endpoint where
  host := "127.0.0.1".toList
  port := 8177
  probeTimeout := 2000
  connectTimeout := 2000

def url (endpoint : Endpoint) (path : String) : Text :=
  "http://".toList ++ endpoint.host ++ s!":{endpoint.port}/{path}".toList

end Endpoint

/-! ## Responses -/

inductive BodyEnd where
  | complete
  | cutOff
  | held
  deriving DecidableEq, Repr

structure Response where
  status : StatusCode
  chunks : List (List UInt8)
  bodyEnd : BodyEnd
  /-- The milliseconds before the response begins. -/
  delay : Nat
  deriving DecidableEq, Repr

def Response.body (response : Response) : List (List UInt8) :=
  if response.status.hasNoBody then [] else response.chunks

def Response.ending (response : Response) : BodyEnd :=
  if response.status.hasNoBody then .complete else response.bodyEnd

inductive Service where
  | unreachable (cause : String)
  | responding (response : Response)
  deriving DecidableEq, Repr

/-! ## Requests -/

structure Request where
  method : String
  path : String
  body : Json
  deriving Repr

def Request.health : Request :=
  ⟨"GET", "/health", .null⟩

def Request.compile (fileName code : Text) : Request :=
  ⟨"POST", "/compile",
    .object [("filename".toList, .string fileName), ("code".toList, .string code)]⟩

def Service.received (service : Service) (request : Request) : List Request :=
  match service with
  | .unreachable _ => []
  | .responding _ => [request]

/-! ## Failures -/

inductive BridgeError where
  | transport (cause : String)
  | timeout
  | status (code : StatusCode) (message : Text)
  | stream (cause : String)
  deriving DecidableEq, Repr

def BridgeError.message : BridgeError → Text
  | .transport cause => s!"Transport error: {cause}".toList
  | .timeout => "Timed out waiting for the compile bridge".toList
  | .status _ message => message
  | .stream cause => s!"Stream interrupted: {cause}".toList

/-! ## Probing -/

def Service.probe (service : Service) (timeout : Nat) : Except BridgeError Unit :=
  match service with
  | .unreachable cause => .error (.transport cause)
  | .responding response =>
      if timeout ≤ response.delay then
        .error .timeout
      else if response.status.code = 200 then
        .ok ()
      else
        .error (.status response.status (response.status.reason []))

/-! ## Compiling -/

structure CompileOutcome where
  ok : Bool := false
  statusSeen : Bool := false
  lineCount : Nat := 0
  deriving DecidableEq, Repr

namespace CompileOutcome

def deliver (outcome : CompileOutcome) (line : StreamLine) : CompileOutcome :=
  let heard :=
    match line with
    | .status _ ok => { outcome with ok, statusSeen := true }
    | .diagnostic _ => outcome
  { heard with lineCount := heard.lineCount + 1 }

def ofLines (lines : List StreamLine) : CompileOutcome :=
  lines.foldl deliver {}

end CompileOutcome

/-- A compilation as it is seen from the editor: the lines that were delivered,
and how it ended.  There is no result while the stream is held open. -/
structure CompileRun where
  lines : List StreamLine
  result : Option (Except BridgeError CompileOutcome)

def streamCutOff : String := "the connection was closed before the body ended"

def Response.stream (response : Response) : CompileRun :=
  let (terminated, splitter) := LineSplitter.start.pushAll response.body
  let lines := terminated.map StreamLine.classify
  match response.ending with
  | .complete =>
      let all := lines ++ splitter.finish.1.toList.map StreamLine.classify
      ⟨all, some (.ok (.ofLines all))⟩
  | .cutOff => ⟨lines, some (.error (.stream streamCutOff))⟩
  | .held => ⟨lines, none⟩

/-- Read the body of a refusal; one that breaks off counts as empty.  A byte
order mark does not belong to its text. -/
def Response.refusal (response : Response) : CompileRun :=
  match response.ending with
  | .complete =>
      let body := Utf8.decodeLossy (Utf8.withoutMark response.body.flatten)
      ⟨[], some (.error (.status response.status (response.status.reason body)))⟩
  | .cutOff =>
      ⟨[], some (.error (.status response.status (response.status.reason [])))⟩
  | .held => ⟨[], none⟩

def Service.compile (service : Service) : CompileRun :=
  match service with
  | .unreachable cause => ⟨[], some (.error (.transport cause))⟩
  | .responding response =>
      if response.status.isSuccess then response.stream else response.refusal

end LiveEditor
