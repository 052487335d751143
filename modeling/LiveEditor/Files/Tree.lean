import LiveEditor.Files.Entry
import LiveEditor.Files.Path
import LiveEditor.Text.Utf8

/-! # A tree of files

Paths are followed from the root down as the file system of an operating system
does it: every step but the last goes through a directory, a path that ends with
a slash demands one, and neither names nor paths can be of any length.  The root
is always there and always a directory.
-/

namespace LiveEditor

inductive FileError where
  | notFound
  | notADirectory
  | isADirectory
  | alreadyExists
  | busy
  | nameTooLong
  | nulInName
  | notUtf8
  deriving DecidableEq, Repr

def FileError.message : FileError → String
  | .notFound => "No such file or directory (os error 2)"
  | .notADirectory => "Not a directory (os error 20)"
  | .isADirectory => "Is a directory (os error 21)"
  | .alreadyExists => "File exists (os error 17)"
  | .busy => "Device or resource busy (os error 16)"
  | .nameTooLong => "File name too long (os error 36)"
  | .nulInName => "file name contained an unexpected NUL byte"
  | .notUtf8 => "stream did not contain valid UTF-8"

structure FileTree where
  children : List (Text × Entry)
  deriving Repr

namespace FileTree

def empty : FileTree := ⟨[]⟩

/-! ## Entries -/

def root (tree : FileTree) : Entry :=
  .directory tree.children

def entryAt? (tree : FileTree) (location : Location) : Option Entry :=
  tree.root.at? location

def isDirectoryAt (tree : FileTree) (location : Location) : Bool :=
  (tree.entryAt? location).any Entry.isDirectory

def changeAt (tree : FileTree) (change : Entry → Entry) (location : Location) :
    FileTree :=
  match tree.root.changeAt change location with
  | .directory children => ⟨children⟩
  | .file _ => tree

def put (tree : FileTree) (directory : Location) (name : Text) (entry : Entry) :
    FileTree :=
  tree.changeAt (fun holder => holder.put name entry) directory

def erase (tree : FileTree) (location : Location) : FileTree :=
  match location.getLast? with
  | none => tree
  | some name => tree.changeAt (fun holder => holder.erase name) location.dropLast

/-! ## Following paths -/

def longestName : Nat := 255

def longestPath : Nat := 4095

def isTooLong (name : Text) : Bool :=
  longestName < name.byteLength

/-- The way to a place: each name that leads there with the entry that it
names, the place first and the root left out. -/
abbrev Trail := List (Text × Entry)

def Trail.location (trail : Trail) : Location :=
  (trail.map Prod.fst).reverse

def entryOn (tree : FileTree) : Trail → Entry
  | [] => tree.root
  | (_, entry) :: _ => entry

def walk (tree : FileTree) (trail : Trail) : List PathStep → Except FileError Trail
  | [] => .ok trail
  | step :: rest =>
      let entry := tree.entryOn trail
      if entry.isDirectory then
        match step with
        | .up => walk tree trail.tail rest
        | .down name =>
            if isTooLong name then .error .nameTooLong
            else
              match entry.child? name with
              | none => .error .notFound
              | some child => walk tree ((name, child) :: trail) rest
      else
        .error .notADirectory

def refusal? (path : Path) : Option FileError :=
  if path.holdsNul then some .nulInName
  else if longestPath < path.byteLength then some .nameTooLong
  else none

def follow (tree : FileTree) (path : Path) (steps : List PathStep) :
    Except FileError Trail :=
  match refusal? path with
  | some error => .error error
  | none => tree.walk [] steps

def locate (tree : FileTree) (path : Path) : Except FileError Location :=
  match tree.follow path path.steps with
  | .error error => .error error
  | .ok trail =>
      if path.ending = .plain ∨ (tree.entryOn trail).isDirectory then
        .ok (Trail.location trail)
      else
        .error .notADirectory

def locateParent (tree : FileTree) (path : Path) : Except FileError Location :=
  match tree.follow path path.steps.dropLast with
  | .error error => .error error
  | .ok trail =>
      if (tree.entryOn trail).isDirectory then .ok (Trail.location trail)
      else .error .notADirectory

def isFile (tree : FileTree) (path : Path) : Bool :=
  match tree.locate path with
  | .error _ => false
  | .ok location => (tree.entryAt? location).any fun entry => !entry.isDirectory

def isDirectory (tree : FileTree) (path : Path) : Bool :=
  match tree.locate path with
  | .error _ => false
  | .ok location => tree.isDirectoryAt location

/-! ## Reading and writing -/

def readBytes (tree : FileTree) (path : Path) : Except FileError (List UInt8) :=
  match tree.locate path with
  | .error error => .error error
  | .ok location =>
      match tree.entryAt? location with
      | none => .error .notFound
      | some (.directory _) => .error .isADirectory
      | some (.file bytes) => .ok bytes

def readText (tree : FileTree) (path : Path) : Except FileError Text :=
  match tree.readBytes path with
  | .error error => .error error
  | .ok bytes =>
      match Utf8.decode? bytes with
      | none => .error .notUtf8
      | some text => .ok text

def write (tree : FileTree) (path : Path) (bytes : List UInt8) :
    Except FileError FileTree :=
  match tree.locateParent path with
  | .error error => .error error
  | .ok directory =>
      match path.fileName? with
      | none => .error .isADirectory
      | some name =>
          if isTooLong name then .error .nameTooLong
          else if tree.isDirectoryAt (directory ++ [name]) then
            .error .isADirectory
          else
            .ok (tree.put directory name (.file bytes))

/-! ## Making directories -/

def makeDirectory (tree : FileTree) (path : Path) : Except FileError FileTree :=
  match tree.locateParent path with
  | .error error => .error error
  | .ok directory =>
      match path.fileName? with
      | none => .error .alreadyExists
      | some name =>
          if isTooLong name then .error .nameTooLong
          else if (tree.entryAt? (directory ++ [name])).isSome then
            .error .alreadyExists
          else
            .ok (tree.put directory name (.directory []))

/-- Make the directory along the first `count` steps of a path, and before it
those on the way that are missing.  The tree also shows what was made when an
error stops it. -/
def makeDirectoriesAlong (path : Path) :
    Nat → FileTree → Except FileError Unit × FileTree
  | 0, tree => (.ok (), tree)
  | count + 1, tree =>
      let target := path.leading (count + 1)
      let settle (error : FileError) (reached : FileTree) :
          Except FileError Unit × FileTree :=
        (if reached.isDirectory target then .ok () else .error error, reached)
      match tree.makeDirectory target with
      | .ok made => (.ok (), made)
      | .error .notFound =>
          match makeDirectoriesAlong path count tree with
          | (.error error, reached) => (.error error, reached)
          | (.ok (), reached) =>
              match reached.makeDirectory target with
              | .ok made => (.ok (), made)
              | .error error => settle error reached
      | .error error => settle error tree

def makeDirectories (tree : FileTree) (path : Path) :
    Except FileError Unit × FileTree :=
  makeDirectoriesAlong path path.steps.length tree

def makeParents (tree : FileTree) (path : Path) : Except FileError Unit × FileTree :=
  match path.parent? with
  | none => (.ok (), tree)
  | some parent => tree.makeDirectories parent

/-! ## Renaming -/

def renameFile (tree : FileTree) (source : Location) (bytes : List UInt8)
    (target : Path) : Except FileError FileTree :=
  match tree.locateParent target with
  | .error error => .error error
  | .ok directory =>
      match target.fileName? with
      | none => .error .busy
      | some name =>
          if isTooLong name then .error .nameTooLong
          else
            match target.ending, tree.entryAt? (directory ++ [name]) with
            | .slash, _ => .error .notADirectory
            | .plain, some (.directory _) => .error .isADirectory
            | .plain, _ => .ok ((tree.erase source).put directory name (.file bytes))
            | .dot, none => .error .notFound
            | .dot, some (.directory _) => .error .busy
            | .dot, some (.file _) => .error .notADirectory

def filesBelow (tree : FileTree) (location : Location) :
    List (Location × List UInt8) :=
  match tree.entryAt? location with
  | none => []
  | some entry => entry.files

end FileTree

end LiveEditor
