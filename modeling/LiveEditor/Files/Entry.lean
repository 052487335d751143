import LiveEditor.Text.Basic

/-! # Entries of a file system

An entry is a file or a directory, and a directory holds further entries, each
by its name.  A place below an entry is given by the names that lead down to it.
-/

namespace LiveEditor

inductive Entry where
  | file (bytes : List UInt8)
  | directory (children : List (Text × Entry))
  deriving Repr

abbrev Location := List Text

namespace Entry

def isDirectory : Entry → Bool
  | .file _ => false
  | .directory _ => true

/-! ## One level -/

def child? : Entry → Text → Option Entry
  | .file _, _ => none
  | .directory children, name => children.lookup name

def put : Entry → Text → Entry → Entry
  | .file bytes, _, _ => .file bytes
  | .directory children, name, child =>
      .directory
        ((name, child) :: children.filter fun existing => existing.1 != name)

def erase : Entry → Text → Entry
  | .file bytes, _ => .file bytes
  | .directory children, name =>
      .directory (children.filter fun existing => existing.1 != name)

/-! ## Many levels -/

def at? : Entry → Location → Option Entry
  | entry, [] => some entry
  | entry, name :: rest =>
      match entry.child? name with
      | none => none
      | some child => child.at? rest

def changeAt (change : Entry → Entry) : Location → Entry → Entry
  | [], entry => change entry
  | name :: rest, entry =>
      match entry.child? name with
      | none => entry
      | some child => entry.put name (changeAt change rest child)

/-! ## All files -/

mutual

def files : Entry → List (Location × List UInt8)
  | .file bytes => [([], bytes)]
  | .directory children => filesOf children

def filesOf : List (Text × Entry) → List (Location × List UInt8)
  | [] => []
  | (name, entry) :: rest =>
      (files entry).map (fun file => (name :: file.1, file.2)) ++ filesOf rest

end

/-! ## What the operations do -/

theorem lookup_filter_of_ne {name other : Text} (different : other ≠ name)
    (children : List (Text × Entry)) :
    (children.filter fun existing => existing.1 != name).lookup other =
      children.lookup other := by
  induction children with
  | nil => rfl
  | cons existing rest hypothesis =>
      obtain ⟨key, entry⟩ := existing
      by_cases same : key = name
      · have apart : (other == key) = false := by simp [same, different]
        simp [List.lookup_cons, same ▸ apart, same, hypothesis]
      · simp [List.lookup_cons, same, hypothesis]

theorem child?_put_same (name : Text) (child : Entry)
    (children : List (Text × Entry)) :
    ((directory children).put name child).child? name = some child := by
  simp [put, child?]

theorem child?_put_other {name other : Text} (different : other ≠ name)
    (child entry : Entry) :
    (entry.put name child).child? other = entry.child? other := by
  cases entry with
  | file bytes => rfl
  | directory children =>
      have apart : (other == name) = false := by simp [different]
      simp [put, child?, List.lookup_cons, apart,
        lookup_filter_of_ne different children]

theorem child?_erase_other {name other : Text} (different : other ≠ name)
    (entry : Entry) :
    (entry.erase name).child? other = entry.child? other := by
  cases entry with
  | file bytes => rfl
  | directory children =>
      simp [erase, child?, lookup_filter_of_ne different children]

example :
    (((directory []).put ['a'] (.file [1])).put ['a'] (.file [2])).files =
      [([['a']], [2])] := by decide

end Entry

end LiveEditor
