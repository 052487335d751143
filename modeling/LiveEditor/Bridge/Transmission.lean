import LiveEditor.Bridge.Exchange
import LiveEditor.Json.Writer

/-! # Requests and responses on a connection

A message on a connection is a head of lines, an empty line, and a body.  Each
connection carries one request and one response, so the response is read from
the bytes that had arrived when the connection was closed.  The head says how
the body is framed: by its length, in chunks of its own, or by the end of the
connection.
-/

namespace LiveEditor

/-! ## Requests -/

def headLine (line : String) : List UInt8 :=
  Utf8.encode line.toList ++ [13, 10]

def Request.bodyBytes (request : Request) : List UInt8 :=
  match request.body with
  | .null => []
  | value => Utf8.encode value.pretty

def Request.bytes (request : Request) (endpoint : Endpoint) : List UInt8 :=
  let body := request.bodyBytes
  let host := String.ofList endpoint.host
  headLine s!"{request.method} {request.path} HTTP/1.1" ++
    headLine s!"Host: {host}:{endpoint.port}" ++
    headLine "Connection: close" ++
    headLine "Content-Type: application/json" ++
    headLine s!"Content-Length: {body.length}" ++
    headLine "" ++ body

/-! ## Heads of responses -/

def splitHead? : List UInt8 → Option (List UInt8 × List UInt8)
  | [] => none
  | 13 :: 10 :: 13 :: 10 :: rest => some ([], rest)
  | byte :: rest =>
      (splitHead? rest).map fun parts => (byte :: parts.1, parts.2)

inductive Framing where
  | length (count : Nat)
  | chunked
  | untilClosed
  deriving DecidableEq, Repr

structure Head where
  status : StatusCode
  framing : Framing
  deriving DecidableEq, Repr

namespace Head

def field (line : Text) : Text × Text :=
  let name := line.takeWhile (· != ':')
  (name.map Char.toLower, Unicode.trim (line.drop (name.length + 1)))

def framingOf (fields : List (Text × Text)) : Framing :=
  match fields.lookup "transfer-encoding".toList,
      fields.lookup "content-length".toList with
  | some _, _ => .chunked
  | none, some count =>
      match (String.ofList count).toNat? with
      | none => .untilClosed
      | some count => .length count
  | none, none => .untilClosed

def statusOf? (line : Text) : Option StatusCode :=
  match line.splitOn ' ' with
  | _ :: code :: _ => (String.ofList code).toNat?.bind StatusCode.ofNat?
  | _ => none

def ofBytes? (bytes : List UInt8) : Option Head :=
  match LineSplitter.linesOf (Utf8.decodeLossy bytes) with
  | [] => none
  | first :: rest =>
      (statusOf? first).map fun status => ⟨status, framingOf (rest.map field)⟩

end Head

/-! ## Bodies of responses -/

def chunkSize? (line : List UInt8) : Option Nat :=
  let characters := line.map fun byte => Char.ofNat byte.toNat
  Number.ofText? 16 (characters.takeWhile fun character =>
    (Number.hexDigit? character).isSome)

/-- Read a body that comes in chunks.  The first argument bounds their number. -/
def readChunked : Nat → List UInt8 → List (List UInt8) × BodyEnd
  | 0, _ => ([], .cutOff)
  | bound + 1, bytes =>
      let line := bytes.takeWhile (· != 10)
      let rest := bytes.drop (line.length + 1)
      match chunkSize? line with
      | none => ([], .cutOff)
      | some 0 => ([], .complete)
      | some size =>
          if rest.length < size then
            ([rest], .cutOff)
          else
            let (chunks, ending) := readChunked bound (rest.drop (size + 2))
            (rest.take size :: chunks, ending)

def Framing.read (framing : Framing) (bytes : List UInt8) :
    List (List UInt8) × BodyEnd :=
  match framing with
  | .untilClosed => ([bytes], .complete)
  | .length count =>
      ([bytes.take count], if bytes.length < count then .cutOff else .complete)
  | .chunked => readChunked bytes.length bytes

def Response.ofBytes? (bytes : List UInt8) : Option Response :=
  match splitHead? bytes with
  | none => none
  | some (lines, rest) =>
      (Head.ofBytes? lines).map fun head =>
        let (chunks, bodyEnd) := head.framing.read rest
        { status := head.status, chunks, bodyEnd, delay := 0 }

example : splitHead? [65, 13, 10, 13, 10, 66] = some ([65], [66]) := by decide
example : readChunked 9 [50, 13, 10, 97, 98, 13, 10, 48, 13, 10, 13, 10] =
    ([[97, 98]], .complete) := by decide
example : readChunked 9 [50, 13, 10, 97] = ([[97]], .cutOff) := by decide

end LiveEditor
