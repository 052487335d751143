import LiveEditor.Proofs.Files.Writing

/-! # What stands where

Seen from outside, a tree says of each place whether a file with certain bytes, a
directory, or nothing stands there.  Writing a file, taking one away and making a
directory each change what is seen at one place, and all other places stay as they
are.
-/

namespace LiveEditor

inductive EntryKind where
  | file (bytes : List UInt8)
  | directory

namespace Entry

def kind : Entry → EntryKind
  | .file bytes => .file bytes
  | .directory _ => .directory

def kindAt? (entry : Entry) (place : Location) : Option EntryKind :=
  (entry.at? place).map kind

theorem kindAt?_cons (entry : Entry) (name : Text) (rest : Location) :
    entry.kindAt? (name :: rest) = (entry.child? name).bind fun child => child.kindAt? rest := by
  rw [kindAt?, at?]
  cases entry.child? name with
  | none => rfl
  | some child => rfl

theorem kind_eq_directory_iff {entry : Entry} :
    entry.kind = .directory ↔ entry.isDirectory = true := by
  cases entry <;> simp [kind, isDirectory]

theorem kind_eq_file_iff {entry : Entry} {bytes : List UInt8} :
    entry.kind = .file bytes ↔ entry = .file bytes := by
  cases entry <;> simp [kind]

theorem kind_of_isDirectory_eq {entry other : Entry} (holds : entry.isDirectory = true)
    (same : other.isDirectory = entry.isDirectory) : other.kind = entry.kind := by
  rw [kind_eq_directory_iff.2 holds, kind_eq_directory_iff.2 (same.trans holds)]

/-! ## Changes at one place -/

def IsLeaf (entry : Entry) : Prop :=
  ∀ name, entry.child? name = none

theorem IsLeaf.kindAt?_cons {entry : Entry} (leaf : entry.IsLeaf) (name : Text)
    (rest : Location) : entry.kindAt? (name :: rest) = none := by
  rw [Entry.kindAt?_cons, leaf name]
  rfl

theorem isLeaf_file (bytes : List UInt8) : (file bytes).IsLeaf := fun _ => rfl

theorem isLeaf_emptyDirectory : (directory []).IsLeaf := fun _ => rfl

theorem isLeaf_of_isDirectory_eq_false {entry : Entry} (file : entry.isDirectory = false) :
    entry.IsLeaf := by
  cases entry with
  | file bytes => exact isLeaf_file bytes
  | directory children => cases file

def ChangedAt (before after : Entry) (place : Location) (kind : Option EntryKind) : Prop :=
  ∀ other, after.kindAt? other = if other = place then kind else before.kindAt? other

/-- What stood below a name of a directory does not show, if it was no directory. -/
theorem kindAt?_below_leaf {entry : Entry} {name : Text} {rest : Location}
    (free : ∀ old, entry.child? name = some old → old.isDirectory = false)
    (below : rest ≠ []) : entry.kindAt? (name :: rest) = none := by
  rw [kindAt?_cons]
  cases named : entry.child? name with
  | none => rfl
  | some old =>
      cases rest with
      | nil => exact absurd rfl below
      | cons next rest =>
          exact (isLeaf_of_isDirectory_eq_false (free old named)).kindAt?_cons next rest

theorem changedAt_put {entry child : Entry} {name : Text} (holds : entry.isDirectory = true)
    (leaf : child.IsLeaf)
    (free : ∀ old, entry.child? name = some old → old.isDirectory = false) :
    entry.ChangedAt (entry.put name child) [name] (some child.kind) := by
  intro other
  cases other with
  | nil =>
      rw [if_neg (List.cons_ne_nil _ _).symm]
      exact congrArg some (kind_of_isDirectory_eq holds (isDirectory_put entry name child))
  | cons first rest =>
      by_cases same : first = name
      · subst same
        rw [kindAt?_cons, child?_put_of_isDirectory holds, Option.bind_some]
        cases rest with
        | nil =>
            rw [if_pos rfl]
            rfl
        | cons next rest =>
            rw [if_neg (by simp), leaf.kindAt?_cons, kindAt?_below_leaf free (by simp)]
      · rw [if_neg (by simp [same]), kindAt?_cons, child?_put_other same, ← kindAt?_cons]

theorem isDirectory_erase (entry : Entry) (name : Text) :
    (entry.erase name).isDirectory = entry.isDirectory := by
  cases entry with
  | file bytes => rfl
  | directory children => rfl

theorem child?_erase_same (entry : Entry) (name : Text) :
    (entry.erase name).child? name = none := by
  cases entry with
  | file bytes => rfl
  | directory children =>
      rw [erase, child?, List.lookup_eq_none_iff]
      intro existing member
      have other : existing.1 ≠ name := by simpa using (List.mem_filter.1 member).2
      simpa using other.symm

theorem changedAt_erase {entry : Entry} {name : Text} (holds : entry.isDirectory = true)
    (free : ∀ old, entry.child? name = some old → old.isDirectory = false) :
    entry.ChangedAt (entry.erase name) [name] none := by
  intro other
  cases other with
  | nil =>
      rw [if_neg (List.cons_ne_nil _ _).symm]
      exact congrArg some (kind_of_isDirectory_eq holds (isDirectory_erase entry name))
  | cons first rest =>
      by_cases same : first = name
      · subst same
        rw [kindAt?_cons, child?_erase_same, Option.bind_none]
        cases rest with
        | nil => rw [if_pos rfl]
        | cons next rest => rw [if_neg (by simp), kindAt?_below_leaf free (by simp)]
      · rw [if_neg (by simp [same]), kindAt?_cons, child?_erase_other same, ← kindAt?_cons]

/-- A change in the directory at a place changes the same below the place. -/
theorem ChangedAt.changeAt {change : Entry → Entry} {place rest : Location}
    {entry holder : Entry} {kind : Option EntryKind} (stands : entry.at? place = some holder)
    (changed : holder.ChangedAt (change holder) rest kind) :
    entry.ChangedAt (entry.changeAt change place) (place ++ rest) kind := by
  induction place generalizing entry with
  | nil =>
      rw [Entry.at?, Option.some_inj] at stands
      subst stands
      exact changed
  | cons name place induction =>
      rw [Entry.at?] at stands
      split at stands
      · cases stands
      · next child named =>
          have holds := isDirectory_of_child? named
          have below := induction stands
          rw [Entry.changeAt, named]
          dsimp only
          intro other
          cases other with
          | nil =>
              rw [if_neg (by simp)]
              exact congrArg some (kind_of_isDirectory_eq holds (isDirectory_put entry name _))
          | cons first others =>
              rw [kindAt?_cons, kindAt?_cons]
              by_cases same : first = name
              · subst same
                rw [child?_put_of_isDirectory holds, named, Option.bind_some, Option.bind_some,
                  below others]
                simp
              · rw [child?_put_other same, if_neg (by simp [same])]

end Entry

namespace FileTree

def kindAt? (tree : FileTree) (place : Location) : Option EntryKind :=
  tree.root.kindAt? place

variable {tree after : FileTree} {directory place : Location} {name : Text}

/-! ## What a tree shows -/

theorem isDirectoryAt_iff_kindAt? :
    tree.isDirectoryAt place = true ↔ tree.kindAt? place = some .directory := by
  rw [isDirectoryAt_iff, kindAt?, Entry.kindAt?, Option.map_eq_some_iff]
  simp only [entryAt?, Entry.kind_eq_directory_iff]

theorem entryAt?_eq_file_iff {bytes : List UInt8} :
    tree.entryAt? place = some (.file bytes) ↔ tree.kindAt? place = some (.file bytes) := by
  rw [kindAt?, Entry.kindAt?, Option.map_eq_some_iff]
  simp only [Entry.kind_eq_file_iff, exists_eq_right]
  rfl

theorem entryAt?_eq_none_iff : tree.entryAt? place = none ↔ tree.kindAt? place = none := by
  rw [kindAt?, Entry.kindAt?, Option.map_eq_none_iff]
  rfl

/-- Above an entry stands a directory. -/
theorem isDirectoryAt_of_kindAt?_append {rest : Location} {kind : EntryKind}
    (seen : tree.kindAt? (place ++ name :: rest) = some kind) :
    tree.isDirectoryAt place = true := by
  rcases Option.map_eq_some_iff.1 seen with ⟨entry, stands, _⟩
  rw [Entry.at?_append, Option.bind_eq_some_iff] at stands
  rcases stands with ⟨holder, found, below⟩
  rw [Entry.at?] at below
  split at below
  · cases below
  · next child named =>
      exact isDirectoryAt_iff.2 ⟨holder, found, Entry.isDirectory_of_child? named⟩

theorem isSome_entryAt?_of_kindAt? {kind : EntryKind} (seen : tree.kindAt? place = some kind) :
    (tree.entryAt? place).isSome = true := by
  rcases Option.map_eq_some_iff.1 seen with ⟨entry, stands, _⟩
  exact Option.isSome_of_eq_some stands

theorem isSome_entryAt?_of_kindAt?_append {rest : Location} {kind : EntryKind}
    (seen : tree.kindAt? (place ++ rest) = some kind) :
    (tree.entryAt? place).isSome = true := by
  rcases Option.map_eq_some_iff.1 seen with ⟨entry, stands, _⟩
  rw [Entry.at?_append, Option.bind_eq_some_iff] at stands
  rcases stands with ⟨holder, found, _⟩
  exact Option.isSome_of_eq_some found

theorem isDirectoryAt_dropLast (stands : tree.isDirectoryAt place = true) :
    tree.isDirectoryAt place.dropLast = true := by
  rcases List.eq_nil_or_concat place with rfl | ⟨front, last, rfl⟩
  · exact stands
  · rw [List.concat_eq_append] at stands ⊢
    rw [List.dropLast_concat]
    exact isDirectoryAt_of_kindAt?_append (isDirectoryAt_iff_kindAt?.1 stands)

/-- A change at one place where no directory was and none comes to leaves all
directories. -/
theorem isDirectoryAt_congr {changed : Location} {kind : Option EntryKind}
    (free : tree.isDirectoryAt changed = false) (noDirectory : kind ≠ some .directory)
    (shows : ∀ place, after.kindAt? place = if place = changed then kind else tree.kindAt? place)
    (place : Location) : after.isDirectoryAt place = tree.isDirectoryAt place := by
  rw [Bool.eq_iff_iff, isDirectoryAt_iff_kindAt?, isDirectoryAt_iff_kindAt?, shows]
  split
  · next same =>
      rw [← isDirectoryAt_iff_kindAt?, same, free]
      simp [noDirectory]
  · exact Iff.rfl

/-! ## What the operations change -/

theorem not_isDirectory_child? {holder old : Entry} (found : tree.entryAt? directory = some holder)
    (free : tree.isDirectoryAt (directory ++ [name]) = false)
    (named : holder.child? name = some old) : old.isDirectory = false := by
  rw [entryAt?] at found
  rw [isDirectoryAt, entryAt?, Entry.at?_concat, found, Option.bind_some, named] at free
  exact free

theorem kindAt?_put {child : Entry} (holds : tree.isDirectoryAt directory = true)
    (leaf : child.IsLeaf) (free : tree.isDirectoryAt (directory ++ [name]) = false)
    (place : Location) :
    (tree.put directory name child).kindAt? place =
      if place = directory ++ [name] then some child.kind else tree.kindAt? place := by
  rcases isDirectoryAt_iff.1 holds with ⟨holder, found, isDirectory⟩
  have changed : holder.ChangedAt (holder.put name child) [name] (some child.kind) :=
    Entry.changedAt_put isDirectory leaf fun old => not_isDirectory_child? found free
  rw [kindAt?, root_put]
  exact Entry.ChangedAt.changeAt found changed place

theorem kindAt?_erase (holds : tree.isDirectoryAt directory = true)
    (free : tree.isDirectoryAt (directory ++ [name]) = false) (place : Location) :
    (tree.erase (directory ++ [name])).kindAt? place =
      if place = directory ++ [name] then none else tree.kindAt? place := by
  rcases isDirectoryAt_iff.1 holds with ⟨holder, found, isDirectory⟩
  have changed : holder.ChangedAt (holder.erase name) [name] none :=
    Entry.changedAt_erase isDirectory fun old => not_isDirectory_child? found free
  rw [erase, List.getLast?_concat, List.dropLast_concat]
  dsimp only
  rw [kindAt?, root_changeAt fun entry => entry.isDirectory_erase name]
  exact Entry.ChangedAt.changeAt found changed place

/-! ## Making directories -/

/-- Directories have come to a tree where nothing stood, and all else is as it was. -/
def GainsDirectories (before after : FileTree) : Prop :=
  ∀ place, after.kindAt? place = before.kindAt? place ∨
    before.kindAt? place = none ∧ after.kindAt? place = some .directory

namespace GainsDirectories

theorem refl (tree : FileTree) : tree.GainsDirectories tree :=
  fun _ => .inl rfl

theorem trans {before middle after : FileTree} (first : before.GainsDirectories middle)
    (second : middle.GainsDirectories after) : before.GainsDirectories after := by
  intro place
  rcases first place with same | ⟨free, made⟩
  · rw [← same]
    exact second place
  · rcases second place with same | ⟨stillFree, _⟩
    · exact .inr ⟨free, same.trans made⟩
    · rw [made] at stillFree
      cases stillFree

theorem isDirectoryAt {before after : FileTree} (gains : before.GainsDirectories after)
    {place : Location} (stands : before.isDirectoryAt place = true) :
    after.isDirectoryAt place = true := by
  rw [isDirectoryAt_iff_kindAt?] at stands ⊢
  rcases gains place with same | ⟨free, _⟩
  · exact same.trans stands
  · rw [stands] at free
    cases free

theorem kindAt?_eq_file_iff {before after : FileTree} (gains : before.GainsDirectories after)
    {place : Location} {bytes : List UInt8} :
    after.kindAt? place = some (.file bytes) ↔ before.kindAt? place = some (.file bytes) := by
  rcases gains place with same | ⟨free, made⟩
  · rw [same]
  · rw [free, made]
    simp

end GainsDirectories

theorem gainsDirectories_makeDirectory {path : Path}
    (made : tree.makeDirectory path = .ok after) : tree.GainsDirectories after := by
  rw [makeDirectory] at made
  split at made
  · cases made
  · next directory located =>
      split at made
      · cases made
      · next name named =>
          split at made
          · cases made
          · split at made
            · cases made
            · next free =>
                cases made
                rw [Bool.not_eq_true, Option.isSome_eq_false_iff, Option.isNone_iff_eq_none,
                  entryAt?_eq_none_iff] at free
                have holds := (leads_of_locateParent located).2.2
                have noDirectory : tree.isDirectoryAt (directory ++ [name]) = false := by
                  rw [← Bool.not_eq_true, isDirectoryAt_iff_kindAt?, free]
                  exact Option.some_ne_none _ ∘ Eq.symm
                intro place
                rw [kindAt?_put holds Entry.isLeaf_emptyDirectory noDirectory]
                by_cases same : place = directory ++ [name]
                · exact .inr ⟨same ▸ free, if_pos same⟩
                · exact .inl (if_neg same)

/-- Whatever was made before an error, it was directories. -/
theorem gainsDirectories_makeDirectoriesAlong (path : Path) (count : Nat) (tree : FileTree) :
    tree.GainsDirectories (makeDirectoriesAlong path count tree).2 := by
  induction count with
  | zero => exact .refl tree
  | succ count induction =>
      rw [makeDirectoriesAlong]
      dsimp only
      split
      · next made => exact gainsDirectories_makeDirectory made
      · split
        · next reached same =>
            rw [same] at induction
            exact induction
        · next reached same =>
            rw [same] at induction
            split
            · next made => exact induction.trans (gainsDirectories_makeDirectory made)
            · exact induction
      · exact .refl tree

theorem gainsDirectories_makeParents (tree : FileTree) (path : Path) :
    tree.GainsDirectories (tree.makeParents path).2 := by
  rw [makeParents]
  split
  · exact .refl tree
  · exact gainsDirectories_makeDirectoriesAlong _ _ tree

end FileTree

end LiveEditor
