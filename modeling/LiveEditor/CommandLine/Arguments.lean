import LiveEditor.Number.Digits
import LiveEditor.Text.Basic

/-! # Command-line arguments

Options come before or after the name of the command.  A long option takes its
value from the next argument or from behind an equals sign; short options can
share one argument.  Behind a double dash nothing is an option.  An option that
takes one value, or none, is given at most once on each side of the command;
behind the command it counts more.
-/

namespace LiveEditor.CommandLine

inductive Refusal where
  | usage
  | help
  | version
  deriving DecidableEq, Repr

inductive OptionName where
  | config
  | port
  | verbose
  | language
  | grammarFile
  | find
  | caseSensitive
  | wholeWord
  | errors
  | help
  | version
  deriving DecidableEq, Repr

structure OptionForm where
  name : OptionName
  long : String
  short : Option Char
  takesValue : Bool

def globalForms : List OptionForm :=
  [ ⟨.config, "config", none, true⟩,
    ⟨.port, "port", none, true⟩,
    ⟨.verbose, "verbose", some 'v', false⟩,
    ⟨.help, "help", some 'h', false⟩ ]

def programForms : List OptionForm :=
  globalForms ++ [⟨.version, "version", some 'V', false⟩]

structure CommandForm where
  options : List OptionForm
  takesFile : Bool

def highlightForm : CommandForm :=
  { options :=
      globalForms ++
        [ ⟨.language, "language", some 'l', true⟩,
          ⟨.grammarFile, "syntax", none, true⟩,
          ⟨.find, "find", none, true⟩,
          ⟨.caseSensitive, "case-sensitive", some 'c', false⟩,
          ⟨.wholeWord, "whole-word", some 'w', false⟩,
          ⟨.errors, "errors", none, true⟩ ]
    takesFile := true }

def checkForm : CommandForm :=
  ⟨globalForms, false⟩

def compileForm : CommandForm :=
  ⟨globalForms, true⟩

/-! ## Values -/

def digits? (text : Text) : Option Nat :=
  if text.isEmpty || !text.all Char.isDigit then none
  else some (Number.ofDigits 10 (text.map fun digit => digit.toNat - 48))

def port? (text : Text) : Option Nat :=
  let number :=
    match text with
    | '+' :: rest => digits? rest
    | '-' :: rest => (digits? rest).filter (· == 0)
    | _ => digits? text
  number.filter (· < Number.bound16)

def lineNumber? (text : Text) : Option Nat :=
  let number :=
    match text with
    | '+' :: rest => digits? rest
    | _ => digits? text
  number.filter (· < Number.bound64)

def lineNumbers? (text : Text) : Option (List Nat) :=
  (text.splitOn ',').mapM lineNumber?

/-! ## What is given -/

structure Given where
  config : Option Text := none
  port : Option Nat := none
  language : Option Text := none
  grammarFile : Option Text := none
  find : Option Text := none
  caseSensitive : Bool := false
  wholeWord : Bool := false
  errors : List Nat := []
  file : Option Text := none
  deriving DecidableEq, Repr

namespace Given

def once {α : Type} (before : Option α) (value : Option α) :
    Except Refusal (Option α) :=
  match before, value with
  | none, some value => .ok (some value)
  | _, _ => .error .usage

def path? (text : Text) : Option Text :=
  if text.isEmpty then none else some text

def take (given : Given) (name : OptionName) (value : Text) :
    Except Refusal Given :=
  match name with
  | .config => do
      let config ← once given.config (path? value)
      return { given with config }
  | .port => do
      let port ← once given.port (port? value)
      return { given with port }
  | .verbose => .ok given
  | .language => do
      let language ← once given.language (some value)
      return { given with language }
  | .grammarFile => do
      let grammarFile ← once given.grammarFile (path? value)
      return { given with grammarFile }
  | .find => do
      let find ← once given.find (some value)
      return { given with find }
  | .caseSensitive =>
      if given.caseSensitive then .error .usage
      else .ok { given with caseSensitive := true }
  | .wholeWord =>
      if given.wholeWord then .error .usage
      else .ok { given with wholeWord := true }
  | .errors =>
      match lineNumbers? value with
      | none => .error .usage
      | some lines => .ok { given with errors := given.errors ++ lines }
  | .help => .error .help
  | .version => .error .version

def takeFile (form : CommandForm) (given : Given) (value : Text) :
    Except Refusal Given := do
  let file ← once given.file (if form.takesFile then path? value else none)
  return { given with file }

end Given

/-! ## Scanning -/

inductive Shape where
  | escape
  | long (name : Text) (value : Option Text)
  | short (letters : Text)
  | plain
  deriving DecidableEq, Repr

def shapeOf : Text → Shape
  | '-' :: '-' :: rest =>
      if rest.isEmpty then .escape
      else
        let name := rest.takeWhile (· != '=')
        match rest.drop name.length with
        | [] => .long name none
        | _ :: value => .long name (some value)
  | '-' :: letter :: rest => .short (letter :: rest)
  | _ => .plain

def takeShort (forms : List OptionForm) (given : Given) :
    Text → Except Refusal (Given × Option OptionName)
  | [] => .ok (given, none)
  | letter :: rest =>
      match forms.find? fun form => form.short == some letter with
      | none => .error .usage
      | some form =>
          if form.takesValue then
            match rest with
            | [] => .ok (given, some form.name)
            | '=' :: value =>
                (given.take form.name value).map fun taken => (taken, none)
            | value => (given.take form.name value).map fun taken => (taken, none)
          else
            match given.take form.name [] with
            | .error refusal => .error refusal
            | .ok taken => takeShort forms taken rest

def takeLong (forms : List OptionForm) (given : Given) (name : Text)
    (value : Option Text) : Except Refusal (Given × Option OptionName) :=
  match forms.find? fun form => form.long.toList == name with
  | none => .error .usage
  | some form =>
      match form.takesValue, value with
      | true, none => .ok (given, some form.name)
      | true, some value =>
          (given.take form.name value).map fun taken => (taken, none)
      | false, none => (given.take form.name []).map fun taken => (taken, none)
      | false, some _ => .error .usage

/-- Take options until an argument that is none, and answer what is left from
there on.  `waiting` is an option whose value comes next. -/
def takeOptions (forms : List OptionForm) (given : Given) :
    (waiting : Option OptionName) → List Text →
      Except Refusal (Given × List Text)
  | none, [] => .ok (given, [])
  | some _, [] => .error .usage
  | waiting, argument :: rest =>
      match shapeOf argument, waiting with
      | .plain, some name =>
          match given.take name argument with
          | .error refusal => .error refusal
          | .ok taken => takeOptions forms taken none rest
      | .plain, none => .ok (given, argument :: rest)
      | _, some _ => .error .usage
      | .escape, none => .ok (given, argument :: rest)
      | .long name value, none =>
          match takeLong forms given name value with
          | .error refusal => .error refusal
          | .ok (taken, next) => takeOptions forms taken next rest
      | .short letters, none =>
          match takeShort forms given letters with
          | .error refusal => .error refusal
          | .ok (taken, next) => takeOptions forms taken next rest

def takeFiles (form : CommandForm) (given : Given) (arguments : List Text) :
    Except Refusal Given :=
  arguments.foldlM (Given.takeFile form) given

def takeAll (form : CommandForm) :
    Nat → Given → List Text → Except Refusal Given
  | 0, _, _ => .error .usage
  | bound + 1, given, arguments =>
      match takeOptions form.options given none arguments with
      | .error refusal => .error refusal
      | .ok (taken, []) => .ok taken
      | .ok (taken, argument :: rest) =>
          if shapeOf argument = .escape then takeFiles form taken rest
          else
            match taken.takeFile form argument with
            | .error refusal => .error refusal
            | .ok next => takeAll form bound next rest

/-! ## Commands -/

structure HighlightRequest where
  file : Text
  language : Text
  grammarFile : Option Text
  find : Text
  caseSensitive : Bool
  wholeWord : Bool
  errors : List Nat
  deriving DecidableEq, Repr

inductive Command where
  | highlight (request : HighlightRequest)
  | check
  | compile (file : Text)
  deriving DecidableEq, Repr

structure Invocation where
  config : Option Text
  port : Option Nat
  command : Command
  deriving DecidableEq, Repr

def requireFile (given : Given) : Except Refusal Text :=
  match given.file with
  | none => .error .usage
  | some file => .ok file

def readCommand (name : Text) (arguments : List Text) :
    Except Refusal (Given × Command) := do
  let bound := arguments.length + 1
  if name = "highlight".toList then
    let given ← takeAll highlightForm bound {} arguments
    let file ← requireFile given
    return (given, .highlight
      { file
        language := given.language.getD "kotlin".toList
        grammarFile := given.grammarFile
        find := given.find.getD []
        caseSensitive := given.caseSensitive
        wholeWord := given.wholeWord
        errors := given.errors })
  else if name = "check".toList then
    let given ← takeAll checkForm bound {} arguments
    return (given, .check)
  else if name = "compile".toList then
    let given ← takeAll compileForm bound {} arguments
    let file ← requireFile given
    return (given, .compile file)
  else
    throw .usage

def commandNames : List Text :=
  ["highlight", "check", "compile", "help"].map String.toList

def readHelp : List Text → Refusal
  | [] => .help
  | [name] => if commandNames.contains name then .help else .usage
  | _ => .usage

def parse (arguments : List Text) : Except Refusal Invocation := do
  let (before, rest) ← takeOptions programForms {} none arguments
  match rest with
  | [] => throw .usage
  | name :: more =>
      if name = "help".toList then throw (readHelp more)
      let (behind, command) ← readCommand name more
      return {
        config := behind.config.or before.config
        port := behind.port.or before.port
        command }

example : (parse ["check".toList, "--port".toList, "9".toList]).toOption =
    some ⟨none, some 9, .check⟩ := by decide +kernel

end LiveEditor.CommandLine
