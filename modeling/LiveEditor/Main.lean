import LiveEditor.Bridge.Transmission
import LiveEditor.CommandLine.Run
import Std.Async.DNS
import Std.Async.TCP
import Std.Async.Timer

/-! # The program

The program brings the files that a command names into a tree, lets the bridge
answer the request of the command if it has one, and then runs the command on
what it has found.
-/

namespace LiveEditor.CommandLine

open Std.Async

/-! ## Files -/

/-- Bring a file or a directory of the disk into a tree.  What cannot be read
is not there. -/
def bring (tree : FileTree) (path : Path) : IO FileTree := do
  let name := String.ofList path.toText
  try
    let bytes ← IO.FS.readBinFile name
    let prepared := (tree.makeParents path).2
    return (prepared.write path bytes.toList).toOption.getD prepared
  catch _ =>
    try
      let isDirectory ← (← IO.FS.realPath name).isDir
      return if isDirectory then (tree.makeDirectories path).2 else tree
    catch _ => return tree

def bringAlong (tree : FileTree) (path : Path) : IO FileTree :=
  (List.range path.steps.length).foldlM
    (fun tree count => bring tree (path.leading (count + 1))) tree

def directoryOf (variableName : String) (usual : Path) : IO Path := do
  match ← IO.getEnv variableName with
  | some name => return Path.ofText name.toList
  | none => return usual

def namedFiles (invocation : Invocation) : List Text :=
  invocation.config.toList ++
    match invocation.command with
    | .highlight request => request.file :: request.grammarFile.toList
    | .compile file => [file]
    | .check => []

def resources : List Text :=
  Language.presets.filterMap Language.resource?

def surroundingsOf (invocation : Invocation) : IO Surroundings := do
  let home ← directoryOf "HOME" (Path.ofText "/".toList)
  let settingsDirectory ←
    directoryOf "XDG_CONFIG_HOME" (home.join (Path.ofText ".config".toList))
  let temporary ← directoryOf "TMPDIR" (Path.ofText "/tmp".toList)
  let bare : Surroundings :=
    { tree := .empty
      workingDirectory := Path.ofText (← IO.currentDir).toString.toList
      settingsDirectory
      scratchDirectory := temporary.join (Path.ofText "scribe-cli".toList)
      bridgeAt := .absentAt }
  let paths :=
    bare.usualSettingsPath :: (namedFiles invocation).map bare.pathOf
  let named := { bare with tree := ← paths.foldlM bringAlong bare.tree }
  match named.settings invocation with
  | .error _ => return named
  | .ok settings =>
      match named.grammarDirectory settings with
      | none => return named
      | some directory =>
          let grammars :=
            resources.map fun name => directory.join (Path.ofText name)
          return { named with tree := ← grammars.foldlM bringAlong named.tree }

/-! ## The bridge -/

def machineAt (address : Address) : Async Std.Net.SocketAddress := do
  let port := address.port.getD Address.usualPort
  let host := String.ofList address.host.plainText
  let found ← DNS.getAddrInfo host (toString port) none
  match found[0]? with
  | none => throw (IO.userError "the host has no address")
  | some machine =>
      return match machine with
        | .v4 machine => .v4 ⟨machine, port.toUInt16⟩
        | .v6 machine => .v6 ⟨machine, port.toUInt16⟩

/-- Gather what arrives until the connection is closed, or until `enough`. -/
partial def gather (client : TCP.Socket.Client) (enough : List UInt8 → Bool)
    (arrived : ByteArray) : Async ByteArray := do
  if enough arrived.toList then
    return arrived
  match ← client.recv? 65536 with
  | none => return arrived
  | some bytes => gather client enough (arrived ++ bytes)

def exchange (endpoint : Endpoint) (request : Request)
    (enough : List UInt8 → Bool) : Async Service := do
  let path := (request.path.drop 1).toString
  let absent : Service := .unreachable (endpoint.sendFailure path)
  try
    let some address := endpoint.address? path | return absent
    let client ← TCP.Socket.Client.mk
    client.connect (← machineAt address)
    client.send (ByteArray.mk (request.bytes endpoint).toArray)
    let arrived ← gather client enough ByteArray.empty
    match Response.ofBytes? arrived.toList with
    | none => return absent
    | some response => return .responding response
  catch _ => return absent

def late (limit : Nat) : Response :=
  { status := ⟨200⟩, chunks := [], bodyEnd := .complete, delay := limit }

def findHealth (endpoint : Endpoint) : IO Service :=
  let waiting : Async Service := do
    sleep (.ofNat endpoint.probeTimeout)
    return .responding (late endpoint.probeTimeout)
  let answered := exchange endpoint .health fun bytes => (splitHead? bytes).isSome
  have : Inhabited Service := ⟨.unreachable ""⟩
  (Async.race answered waiting).block

def findCompile (endpoint : Endpoint) (request : Request) : IO Service :=
  (exchange endpoint request fun _ => false).block

/-- The requests of a command, as a bridge with nothing to say receives them. -/
def requestsOf (surroundings : Surroundings) (invocation : Invocation) :
    List Request :=
  let silent : Service := .responding (late 0)
  let listening := { surroundings with bridgeAt := fun _ => ⟨silent, silent⟩ }
  (listening.run invocation).requests

def services (surroundings : Surroundings) (invocation : Invocation) :
    IO BridgeServices := do
  match surroundings.settings invocation, requestsOf surroundings invocation with
  | .ok settings, request :: _ =>
      let nothing := BridgeServices.absentAt settings.bridge
      if invocation.command = .check then
        return { nothing with health := ← findHealth settings.bridge }
      else
        return { nothing with compile := ← findCompile settings.bridge request }
  | _, _ => return .absentAt .standard

/-! ## Running -/

def find (arguments : List Text) : IO Surroundings := do
  match parse arguments with
  | .error _ => surroundingsOf ⟨none, none, .check⟩
  | .ok invocation =>
      let surroundings ← surroundingsOf invocation
      let found ← services surroundings invocation
      return { surroundings with bridgeAt := fun _ => found }

end LiveEditor.CommandLine

def main (arguments : List String) : IO UInt32 := do
  let words := arguments.map String.toList
  let outcome :=
    LiveEditor.CommandLine.runArguments (← LiveEditor.CommandLine.find words) words
  IO.print (String.ofList outcome.output)
  IO.eprint (String.ofList outcome.errors)
  return outcome.exitCode.toUInt32
