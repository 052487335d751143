import LiveEditor.Text.Basic

/-! # Paths

A path is written with slashes, and what stands between them are its segments.
Empty segments and single dots lead nowhere; the others are the steps of the
path.  All segments are kept nevertheless: how a written path ends, with a step,
with a slash or with a single dot, can demand a directory, and how long it is
can be too much for a file system.
-/

namespace LiveEditor

inductive PathStep where
  | up
  | down (name : Text)
  deriving DecidableEq, Repr

inductive PathEnding where
  | plain
  | slash
  | dot
  deriving DecidableEq, Repr

structure Path where
  absolute : Bool
  segments : List Text
  deriving DecidableEq, Repr

namespace Path

/-! ## Written forms -/

def ofText (text : Text) : Path :=
  if text.head? = some '/' then ⟨true, text.tail.splitOn '/'⟩
  else ⟨false, text.splitOn '/'⟩

def toText (path : Path) : Text :=
  (if path.absolute then ['/'] else []) ++ ['/'].intercalate path.segments

def byteLength (path : Path) : Nat :=
  path.toText.byteLength

def holdsNul (path : Path) : Bool :=
  path.segments.any fun segment => segment.contains '\x00'

/-! ## Steps -/

def step? (segment : Text) : Option PathStep :=
  if segment = [] ∨ segment = ['.'] then none
  else if segment = ['.', '.'] then some .up
  else some (.down segment)

def writtenStep : PathStep → Text
  | .up => "..".toList
  | .down name => name

def steps (path : Path) : List PathStep :=
  path.segments.filterMap step?

def endsWithSlash (path : Path) : Bool :=
  path.segments.getLast? == some []

/-- How a path ends.  The empty path, followed from a directory, demands that
directory. -/
def ending (path : Path) : PathEnding :=
  match (path.segments.reverse.dropWhile List.isEmpty).head? with
  | some ['.'] => .dot
  | _ => if path.endsWithSlash then .slash else .plain

def fileName? (path : Path) : Option Text :=
  match path.steps.getLast? with
  | some (.down name) => some name
  | _ => none

/-! ## Parts of paths -/

def takeSteps : Nat → List Text → List Text
  | 0, _ => []
  | _ + 1, [] => []
  | count + 1, segment :: rest =>
      segment ::
        takeSteps (if (step? segment).isSome then count else count + 1) rest

def leading (path : Path) (count : Nat) : Path :=
  { path with segments := takeSteps count path.segments }

def parent? (path : Path) : Option Path :=
  if path.steps.isEmpty then none
  else some (path.leading (path.steps.length - 1))

/-! ## New paths -/

def join (base path : Path) : Path :=
  if path.absolute then path
  else
    { base with
      segments :=
        (if base.endsWithSlash then base.segments.dropLast else base.segments) ++
          path.segments }

def withFileName (path : Path) (name : Text) : Path :=
  let directory :=
    if path.fileName?.isSome then path.parent?.getD path else path
  directory.join ⟨false, [name]⟩

/-- The same way without the segments that lead nowhere.  A slash at the end
stays, because it can demand a directory. -/
def direct (path : Path) : Path :=
  { path with
    segments :=
      path.steps.map writtenStep ++ if path.endsWithSlash then [[]] else [] }

def displayName (handle : Text) : Text :=
  (ofText handle).fileName?.getD handle

example : (ofText "/a//b/.".toList).toText = "/a//b/.".toList := by decide +kernel
example : (ofText "/a//b/.".toList).direct.toText = "/a/b".toList := by decide +kernel
example : (ofText "a/./".toList).ending = .dot := by decide +kernel
example : ((ofText "/a".toList).join (ofText "b/c".toList)).parent? =
    some (ofText "/a/b".toList) := by decide +kernel
example : displayName "src/Main.kt".toList = "Main.kt".toList := by decide +kernel
example : displayName "src/..".toList = "src/..".toList := by decide +kernel
example : displayName "a/b/.".toList = "b".toList := by decide +kernel

end Path

end LiveEditor
