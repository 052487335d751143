import LiveEditor.Json.Reader
import LiveEditor.Unicode.Blank

/-! # Lines of compiler output

A line that is framed by braces, blanks aside, reports the status of the
compilation; every other line is a diagnostic.  A status line says "ok" only
when it is a JSON object with the boolean `true` under that name.
-/

namespace LiveEditor

inductive StreamLine where
  | diagnostic (text : Text)
  | status (text : Text) (ok : Bool)
  deriving DecidableEq, Repr

namespace StreamLine

def isBraced (text : Text) : Bool :=
  text.head? == some '\x7b' && text.getLast? == some '\x7d'

def reportsOk (document : Text) : Bool :=
  match (Json.parse? document).bind Json.fields? with
  | none => false
  | some fields =>
      ((Json.field? fields ['o', 'k']).bind Json.boolean?).getD false

def classify (line : Text) : StreamLine :=
  let trimmed := Unicode.trim line
  if isBraced trimmed then .status line (reportsOk trimmed) else .diagnostic line

def text : StreamLine → Text
  | .diagnostic text => text
  | .status text _ => text

def diagnostic? : StreamLine → Option Text
  | .diagnostic text => some text
  | .status _ _ => none

def ok? : StreamLine → Option Bool
  | .diagnostic _ => none
  | .status _ ok => some ok

end StreamLine

end LiveEditor
