import LiveEditor.Bridge.Address
import LiveEditor.CommandLine.Arguments
import LiveEditor.CommandLine.Report
import LiveEditor.Editor.Background
import LiveEditor.Files.GrammarLibrary
import LiveEditor.Settings.Reader

/-! # Running commands

A command reads files and talks to the bridge, prints, and ends with an exit
code: zero when all went well, one when it did not, and two when the arguments
make no command.
-/

namespace LiveEditor.CommandLine

structure BridgeServices where
  health : Service
  compile : Service

def BridgeServices.absentAt (endpoint : Endpoint) : BridgeServices where
  health := .unreachable (endpoint.sendFailure "health")
  compile := .unreachable (endpoint.sendFailure "compile")

structure Surroundings where
  tree : FileTree
  workingDirectory : Path
  settingsDirectory : Path
  scratchDirectory : Path
  bridgeAt : Endpoint → BridgeServices

structure Outcome where
  exitCode : Nat
  output : Text
  errors : Text
  requests : List Request

namespace Outcome

def printed (exitCode : Nat) (line : Text) : Outcome :=
  ⟨exitCode, line ++ ['\n'], [], []⟩

def failed (message : Text) : Outcome :=
  ⟨1, [], "Error: ".toList ++ message ++ ['\n'], []⟩

end Outcome

def exitCodeOf (ok : Bool) : Nat :=
  if ok then 0 else 1

namespace Surroundings

def pathOf (surroundings : Surroundings) (file : Text) : Path :=
  surroundings.workingDirectory.join (Path.ofText file)

/-! ## Settings -/

def usualSettingsPath (surroundings : Surroundings) : Path :=
  surroundings.settingsDirectory.join (Path.ofText "scribe/config.toml".toList)

/-- The settings for a command.  A named file must hold settings; the usual one
counts only if it does. -/
def settings (surroundings : Surroundings) (invocation : Invocation) :
    Except Text Settings :=
  let loaded : Except Text Settings :=
    match invocation.config with
    | none =>
        match Settings.load surroundings.tree surroundings.usualSettingsPath with
        | .error _ => .ok .standard
        | .ok settings => .ok settings
    | some file =>
        match Settings.load surroundings.tree (surroundings.pathOf file) with
        | .error _ => .error ("failed to load config from ".toList ++ file)
        | .ok settings => .ok settings
  loaded.map fun settings =>
    match invocation.port with
    | none => settings
    | some port => { settings with bridge := { settings.bridge with port } }

def grammarDirectory (surroundings : Surroundings) (settings : Settings) :
    Option Path :=
  settings.grammarDirectory.map surroundings.pathOf

/-! ## Highlighting -/

def highlightBase (surroundings : Surroundings) (settings : Settings)
    (request : HighlightRequest) (text : Text) : Except Text (Text × StyledText) :=
  match request.grammarFile with
  | some file =>
      match Grammar.ofFile? surroundings.tree (surroundings.pathOf file) with
      | none => .error ("failed to load syntax from ".toList ++ file)
      | some grammar =>
          .ok (Path.displayName file, .ofGrammar (some grammar) text)
  | none =>
      match Language.ofName? request.language with
      | none =>
          .error ("unknown language '".toList ++ request.language ++ "'".toList)
      | some language =>
          let styled :=
            match language.resource? with
            | none => StyledText.ofTokens .kotlin text
            | some name =>
                .ofGrammar
                  (Grammar.find? surroundings.tree
                    (surroundings.grammarDirectory settings) name)
                  text
          .ok (language.label, styled)

def report (surroundings : Surroundings) (settings : Settings)
    (request : HighlightRequest) : Except Text Report := do
  let text ←
    match surroundings.tree.readText (surroundings.pathOf request.file) with
    | .error _ => throw ("failed to read ".toList ++ request.file)
    | .ok text => pure text
  let (language, base) ←
    surroundings.highlightBase settings request text
  let query : Query :=
    { text := request.find
      caseSensitive := request.caseSensitive
      wholeWord := request.wholeWord }
  let styled := base.compose query (.ofList request.errors)
  return {
    file := Path.displayName request.file
    language
    statistics := text.statistics
    runs := styled.runs }

def highlight (surroundings : Surroundings) (settings : Settings)
    (request : HighlightRequest) : Outcome :=
  match surroundings.report settings request with
  | .error message => .failed message
  | .ok report => .printed 0 report.write

/-! ## Probing and compiling -/

def editor (surroundings : Surroundings) (settings : Settings) :
    Editor FileStore :=
  .initial settings.editor
    { tree := surroundings.tree, root := surroundings.scratchDirectory }
    fun store name =>
      Grammar.find? store.tree (surroundings.grammarDirectory settings) name

def describe (monitor : Monitor) : Text :=
  monitor.indicator.label.toList ++
    (match monitor.detail with
      | none => []
      | some reason => ": ".toList ++ reason)

def check (surroundings : Surroundings) (settings : Settings) : Outcome :=
  let service := (surroundings.bridgeAt settings.bridge).health
  let started :=
    ((surroundings.editor settings).connect
      (service.probe settings.bridge.probeTimeout)).sendRequests service.received
  let monitor := started.settle.2.session.monitor
  { Outcome.printed (exitCodeOf monitor.connected) (describe monitor) with
    requests := started.requests }

def printLines (notifications : List Notification) : Text :=
  notifications.flatMap fun notification =>
    match notification with
    | .compileLine line => line ++ ['\n']
    | _ => []

/-- Let a compilation run to its end and print each line as it comes, for at
most a number of events.  The notifications of one event are read before the
next one is waited for, so none of them is lost. -/
def follow (subscriber : Nat) :
    Nat → Editor FileStore → Text × Editor FileStore
  | 0, editor => ([], editor)
  | bound + 1, editor =>
      if editor.session.monitor.indicator.isPending then
        match editor.awaitNext with
        | (false, waited) => ([], waited)
        | (true, waited) =>
            let (notifications, bus) := waited.bus.drain subscriber
            let (more, last) := follow subscriber bound { waited with bus }
            (printLines notifications ++ more, last)
      else
        ([], editor)

def errorLinesMessage (errors : ErrorLines) : Text :=
  if errors.isEmpty then []
  else
    "error lines: ".toList ++
      [',', ' '].intercalate (errors.lines.map (Nat.toDigits 10)) ++ ['\n']

def closingMessage (session : Session) : Text :=
  errorLinesMessage session.errors ++ describe session.monitor ++ ['\n']

def compile (surroundings : Surroundings) (settings : Settings) (file : Text) :
    Outcome :=
  let service := (surroundings.bridgeAt settings.bridge).compile
  let fresh := surroundings.editor settings
  let (subscriber, bus) := fresh.bus.subscribe
  match { fresh with bus }.openDocument (surroundings.pathOf file).direct.toText with
  | (.error error, _) => .failed error.message
  | (.ok (), opened) =>
      let started := (opened.compile service.compile).sendRequests service.received
      let (output, ended) := follow subscriber started.outstanding started
      { exitCode := exitCodeOf (ended.session.monitor.indicator == .success)
        output
        errors := closingMessage ended.session
        requests := started.requests }

/-! ## Commands -/

def run (surroundings : Surroundings) (invocation : Invocation) : Outcome :=
  match surroundings.settings invocation with
  | .error message => .failed message
  | .ok settings =>
      match invocation.command with
      | .highlight request => surroundings.highlight settings request
      | .check => surroundings.check settings
      | .compile file => surroundings.compile settings file

end Surroundings

def versionText : Text := "scribe 0.1.0".toList

def usageText : Text :=
  ("Usage: scribe [--config FILE] [--port PORT] [-v] COMMAND\n" ++
    "Commands: highlight FILE, check, compile FILE").toList

def runArguments (surroundings : Surroundings) (arguments : List Text) : Outcome :=
  match parse arguments with
  | .error .usage => ⟨2, [], usageText ++ ['\n'], []⟩
  | .error .help => .printed 0 usageText
  | .error .version => .printed 0 versionText
  | .ok invocation => surroundings.run invocation

end LiveEditor.CommandLine
