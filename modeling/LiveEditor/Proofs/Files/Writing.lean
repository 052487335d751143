import LiveEditor.Files.Tree

/-! # Files that were written

Writing a file changes nothing that paths go through: what stood at a place before is
still there, and directories are still directories.  So the path that was written to
leads to the new file.
-/

namespace LiveEditor

namespace Entry

/-! ## Places after a change -/

theorem at?_append (entry : Entry) (place rest : Location) :
    entry.at? (place ++ rest) = (entry.at? place).bind fun found => found.at? rest := by
  induction place generalizing entry with
  | nil => rfl
  | cons name place induction =>
      rw [List.cons_append, at?, at?]
      cases entry.child? name with
      | none => rfl
      | some child => exact induction child

theorem at?_concat (entry : Entry) (place : Location) (name : Text) :
    entry.at? (place ++ [name]) = (entry.at? place).bind fun found => found.child? name := by
  rw [at?_append]
  congr 1
  funext found
  rw [at?]
  cases found.child? name with
  | none => rfl
  | some child => rfl

theorem child?_put_of_isDirectory {entry : Entry} (directory : entry.isDirectory = true)
    (name : Text) (child : Entry) : (entry.put name child).child? name = some child := by
  cases entry with
  | file bytes => cases directory
  | directory children => exact child?_put_same name child children

theorem isDirectory_put (entry : Entry) (name : Text) (child : Entry) :
    (entry.put name child).isDirectory = entry.isDirectory := by
  cases entry with
  | file bytes => rfl
  | directory children => rfl

theorem isDirectory_of_child? {entry child : Entry} {name : Text}
    (found : entry.child? name = some child) : entry.isDirectory = true := by
  cases entry with
  | file bytes => cases found
  | directory children => rfl

theorem at?_changeAt {change : Entry → Entry} {place : Location} {entry found : Entry}
    (stands : entry.at? place = some found) :
    (entry.changeAt change place).at? place = some (change found) := by
  induction place generalizing entry with
  | nil => exact congrArg (fun entry => some (change entry)) (Option.some.inj stands)
  | cons name rest induction =>
      rw [at?] at stands
      split at stands
      · cases stands
      · next child named =>
          rw [changeAt, named]
          dsimp only
          rw [at?, child?_put_of_isDirectory (isDirectory_of_child? named)]
          exact induction stands

/-! ## Entries that stay -/

/-- What stands somewhere below one entry stands there below another as well, and a
directory as a directory. -/
def Keeps (before after : Entry) : Prop :=
  ∀ place entry, before.at? place = some entry →
    ∃ kept, after.at? place = some kept ∧ (entry.isDirectory = true → kept.isDirectory = true)

theorem keeps_file {entry : Entry} (file : entry.isDirectory = false) (bytes : List UInt8) :
    entry.Keeps (.file bytes) := by
  cases entry with
  | directory children => cases file
  | file old =>
      intro place entry stands
      cases place with
      | nil =>
          cases stands
          exact ⟨_, rfl, id⟩
      | cons name rest => cases stands

theorem keeps_put {entry child : Entry} {name : Text}
    (kept : ∀ old, entry.child? name = some old → old.Keeps child) :
    entry.Keeps (entry.put name child) := by
  intro place found stands
  cases place with
  | nil =>
      cases stands
      exact ⟨_, rfl, fun directory => (isDirectory_put _ name child).trans directory⟩
  | cons other rest =>
      -- Below the name stands what the old entry held, which the new one must hold too.
      by_cases same : other = name
      · subst same
        rw [at?] at stands ⊢
        split at stands
        · cases stands
        · next old named =>
            rw [child?_put_of_isDirectory (isDirectory_of_child? named)]
            exact kept old named rest found stands
      · refine ⟨found, ?_, id⟩
        rw [at?, child?_put_other same]
        exact stands

theorem keeps_changeAt {change : Entry → Entry} {place : Location} {entry : Entry}
    (kept : ∀ found, entry.at? place = some found → found.Keeps (change found)) :
    entry.Keeps (entry.changeAt change place) := by
  induction place generalizing entry with
  | nil => exact kept entry rfl
  | cons name rest induction =>
      rw [changeAt]
      split
      · exact fun place found stands => ⟨found, stands, id⟩
      · next child named =>
          refine keeps_put fun old same => ?_
          rw [named] at same
          cases same
          refine induction fun found stands => kept found ?_
          rw [at?, named]
          exact stands

end Entry

namespace FileTree

variable {tree : FileTree} {trail : Trail}

/-! ## Putting a file into a directory -/

/-- A change that leaves a directory a directory changes nothing else about a tree. -/
theorem root_changeAt {change : Entry → Entry}
    (holds : ∀ entry, (change entry).isDirectory = entry.isDirectory) (tree : FileTree)
    (directory : Location) :
    (tree.changeAt change directory).root = tree.root.changeAt change directory := by
  -- A root that became a file would leave the tree as it was.
  have stays : (tree.root.changeAt change directory).isDirectory = true := by
    cases directory with
    | nil => exact holds tree.root
    | cons step rest =>
        rw [Entry.changeAt]
        split
        · rfl
        · exact Entry.isDirectory_put _ step _
  rw [changeAt]
  split
  · next children same => exact same.symm
  · next bytes same =>
      rw [same] at stays
      cases stays

theorem root_put (tree : FileTree) (directory : Location) (name : Text) (entry : Entry) :
    (tree.put directory name entry).root =
      tree.root.changeAt (fun holder => holder.put name entry) directory :=
  root_changeAt (fun holder => holder.isDirectory_put name entry) tree directory

theorem isDirectoryAt_iff {place : Location} :
    tree.isDirectoryAt place = true ↔
      ∃ entry, tree.entryAt? place = some entry ∧ entry.isDirectory = true :=
  Option.any_eq_true _ _

theorem entryAt?_put {directory : Location} {name : Text} {entry : Entry}
    (stands : tree.isDirectoryAt directory = true) :
    (tree.put directory name entry).entryAt? (directory ++ [name]) = some entry := by
  rcases isDirectoryAt_iff.1 stands with ⟨holder, found, holds⟩
  rw [entryAt?, root_put, Entry.at?_concat, Entry.at?_changeAt found, Option.bind_some,
    Entry.child?_put_of_isDirectory holds]

theorem keeps_put_file {directory : Location} {name : Text}
    (free : tree.isDirectoryAt (directory ++ [name]) = false) (bytes : List UInt8) :
    tree.root.Keeps (tree.put directory name (.file bytes)).root := by
  rw [root_put]
  refine Entry.keeps_changeAt fun holder found =>
    Entry.keeps_put fun old named => Entry.keeps_file ?_ bytes
  rw [isDirectoryAt, entryAt?, Entry.at?_concat, found, Option.bind_some, named] at free
  exact free

/-! ## Trails -/

/-- A trail leads from the root down to an entry of a tree. -/
inductive IsTrail (tree : FileTree) : Trail → Prop
  | root : IsTrail tree []
  | down {trail : Trail} {name : Text} {entry : Entry} (before : IsTrail tree trail)
      (named : (tree.entryOn trail).child? name = some entry) :
      IsTrail tree ((name, entry) :: trail)

theorem Trail.location_cons (name : Text) (entry : Entry) (trail : Trail) :
    Trail.location ((name, entry) :: trail) = Trail.location trail ++ [name] :=
  List.reverse_cons

theorem Trail.location_tail (trail : Trail) :
    Trail.location trail.tail = (Trail.location trail).dropLast := by
  rw [Trail.location, Trail.location, List.dropLast_reverse, List.map_tail]

theorem IsTrail.tail (leads : tree.IsTrail trail) : tree.IsTrail trail.tail := by
  cases leads with
  | root => exact .root
  | down before _ => exact before

theorem IsTrail.entryAt?_location (leads : tree.IsTrail trail) :
    tree.entryAt? (Trail.location trail) = some (tree.entryOn trail) := by
  induction leads with
  | root => rfl
  | down before named induction =>
      rw [Trail.location_cons, entryAt?, Entry.at?_concat]
      rw [entryAt?] at induction
      rw [induction]
      exact named

theorem IsTrail.isDirectoryAt_location (leads : tree.IsTrail trail) :
    tree.isDirectoryAt (Trail.location trail) = (tree.entryOn trail).isDirectory := by
  rw [isDirectoryAt, leads.entryAt?_location]
  rfl

theorem IsTrail.entryAt?_down (leads : tree.IsTrail trail) (name : Text) :
    tree.entryAt? (Trail.location trail ++ [name]) = (tree.entryOn trail).child? name := by
  have stands := leads.entryAt?_location
  rw [entryAt?] at stands ⊢
  rw [Entry.at?_concat, stands, Option.bind_some]

/-! ## Steps between places -/

/-- Steps lead from one place to another, through directories only. -/
inductive Leads (tree : FileTree) : Location → List PathStep → Location → Prop
  | here (place : Location) : Leads tree place [] place
  | up {place target : Location} {rest : List PathStep}
      (through : tree.isDirectoryAt place = true) (later : Leads tree place.dropLast rest target) :
      Leads tree place (.up :: rest) target
  | down {place target : Location} {name : Text} {rest : List PathStep}
      (through : tree.isDirectoryAt place = true) (short : isTooLong name = false)
      (stands : (tree.entryAt? (place ++ [name])).isSome = true)
      (later : Leads tree (place ++ [name]) rest target) :
      Leads tree place (.down name :: rest) target

theorem Leads.append {place middle target : Location} {steps rest : List PathStep}
    (first : tree.Leads place steps middle) (second : tree.Leads middle rest target) :
    tree.Leads place (steps ++ rest) target := by
  induction first with
  | here => exact second
  | up through _ induction => exact .up through (induction second)
  | down through short stands _ induction => exact .down through short stands (induction second)

/-- Steps lead where they led before as long as nothing on the way is lost. -/
theorem Leads.mono {after : FileTree} (keeps : tree.root.Keeps after.root)
    {place target : Location} {steps : List PathStep} (leads : tree.Leads place steps target) :
    after.Leads place steps target := by
  have directory : ∀ {place : Location}, tree.isDirectoryAt place = true →
      after.isDirectoryAt place = true := by
    intro place stands
    rcases isDirectoryAt_iff.1 stands with ⟨entry, found, holds⟩
    rcases keeps place entry found with ⟨kept, stands, still⟩
    exact isDirectoryAt_iff.2 ⟨kept, stands, still holds⟩
  induction leads with
  | here place => exact .here place
  | up through _ induction => exact .up (directory through) induction
  | down through short stands _ induction =>
      rcases Option.isSome_iff_exists.1 stands with ⟨entry, found⟩
      rcases keeps _ entry found with ⟨kept, stands, _⟩
      exact .down (directory through) short (Option.isSome_of_eq_some stands) induction

theorem leads_of_walk {steps : List PathStep} {final : Trail} (leads : tree.IsTrail trail)
    (walked : tree.walk trail steps = .ok final) :
    tree.IsTrail final ∧ tree.Leads (Trail.location trail) steps (Trail.location final) := by
  induction steps generalizing trail with
  | nil =>
      cases walked
      exact ⟨leads, .here _⟩
  | cons step rest induction =>
      cases step with
      | up =>
          rw [walk] at walked
          split at walked
          · next holds =>
              rcases induction leads.tail walked with ⟨valid, later⟩
              rw [Trail.location_tail] at later
              exact ⟨valid, .up (leads.isDirectoryAt_location.trans holds) later⟩
          · cases walked
      | down name =>
          rw [walk] at walked
          split at walked
          · next holds =>
              split at walked
              · cases walked
              · next short =>
                  split at walked
                  · cases walked
                  · next child named =>
                      rcases induction (.down leads named) walked with ⟨valid, later⟩
                      rw [Trail.location_cons] at later
                      refine ⟨valid, .down (leads.isDirectoryAt_location.trans holds)
                        (Bool.not_eq_true _ ▸ short) ?_ later⟩
                      rw [leads.entryAt?_down, named]
                      rfl
          · cases walked

theorem walk_of_leads {steps : List PathStep} {place target : Location}
    (leads : tree.Leads place steps target) (valid : tree.IsTrail trail)
    (begins : Trail.location trail = place) :
    ∃ final, tree.walk trail steps = .ok final ∧ Trail.location final = target := by
  induction leads generalizing trail with
  | here => exact ⟨trail, rfl, begins⟩
  | up through _ induction =>
      rw [← begins, valid.isDirectoryAt_location] at through
      rw [walk, if_pos through]
      exact induction valid.tail (by rw [Trail.location_tail, begins])
  | @down _ _ name _ through short stands _ induction =>
      subst begins
      rw [valid.isDirectoryAt_location] at through
      rw [valid.entryAt?_down] at stands
      rcases Option.isSome_iff_exists.1 stands with ⟨child, named⟩
      rw [walk, if_pos through, short, named]
      exact induction (.down valid named) (Trail.location_cons name child trail)

/-! ## Paths -/

theorem locate_of_leads {path : Path} {target : Location} (allowed : refusal? path = none)
    (plain : path.ending = .plain) (leads : tree.Leads [] path.steps target) :
    tree.locate path = .ok target := by
  rcases walk_of_leads leads .root rfl with ⟨final, walked, ends⟩
  rw [locate, follow, allowed]
  dsimp only
  rw [walked]
  dsimp only
  rw [if_pos (.inl plain), ends]

theorem leads_of_locate {path : Path} {target : Location}
    (located : tree.locate path = .ok target) :
    refusal? path = none ∧ tree.Leads [] path.steps target ∧
      (path.ending = .plain ∨ tree.isDirectoryAt target = true) := by
  rw [locate] at located
  split at located
  · cases located
  · next trail followed =>
      split at located
      · next ends =>
          cases located
          rw [follow] at followed
          split at followed
          · cases followed
          · next allowed =>
              rcases leads_of_walk .root followed with ⟨valid, leads⟩
              refine ⟨allowed, leads, ?_⟩
              rwa [valid.isDirectoryAt_location]
      · cases located

theorem leads_of_locateParent {path : Path} {directory : Location}
    (located : tree.locateParent path = .ok directory) :
    refusal? path = none ∧ tree.Leads [] path.steps.dropLast directory ∧
      tree.isDirectoryAt directory = true := by
  rw [locateParent] at located
  split at located
  · cases located
  · next trail followed =>
      split at located
      · next holds =>
          cases located
          rw [follow] at followed
          split at followed
          · cases followed
          · next allowed =>
              rcases leads_of_walk .root followed with ⟨valid, leads⟩
              exact ⟨allowed, leads, valid.isDirectoryAt_location.trans holds⟩
      · cases located

theorem steps_of_fileName? {path : Path} {name : Text} (named : path.fileName? = some name) :
    path.steps = path.steps.dropLast ++ [.down name] := by
  rw [Path.fileName?] at named
  split at named
  · next last =>
      cases named
      rcases List.getLast?_eq_some_iff.1 last with ⟨front, whole⟩
      rw [whole, List.dropLast_concat]
  · cases named

/-- A write puts a file into the directory that the last step starts from. -/
theorem eq_put_of_write {path : Path} {bytes : List UInt8} {written : FileTree}
    (wrote : tree.write path bytes = .ok written) :
    ∃ directory name, tree.locateParent path = .ok directory ∧ path.fileName? = some name ∧
      isTooLong name = false ∧ tree.isDirectoryAt (directory ++ [name]) = false ∧
      written = tree.put directory name (.file bytes) := by
  rw [write] at wrote
  split at wrote
  · cases wrote
  · next directory located =>
      split at wrote
      · cases wrote
      · next name named =>
          split at wrote
          · cases wrote
          · next short =>
              split at wrote
              · cases wrote
              · next free =>
                  cases wrote
                  exact ⟨directory, name, located, named, Bool.not_eq_true _ ▸ short,
                    Bool.not_eq_true _ ▸ free, rfl⟩

/-- Whether a path can be written to does not depend on the bytes. -/
theorem isOk_write (tree : FileTree) (path : Path) (bytes other : List UInt8) :
    (tree.write path bytes).isOk = (tree.write path other).isOk := by
  unfold write
  split
  · rfl
  · split
    · rfl
    · split
      · rfl
      · split
        · rfl
        · rfl

/-- What was written to a path is read from it. -/
theorem readBytes_write {path : Path} {bytes : List UInt8} {written : FileTree}
    (plain : path.ending = .plain) (wrote : tree.write path bytes = .ok written) :
    written.readBytes path = .ok bytes := by
  rcases eq_put_of_write wrote with ⟨directory, name, located, named, short, free, same⟩
  rcases leads_of_locateParent located with ⟨allowed, leads, through⟩
  have stands : written.entryAt? (directory ++ [name]) = some (.file bytes) :=
    same ▸ entryAt?_put through
  have keeps : tree.root.Keeps written.root := same ▸ keeps_put_file free bytes
  -- The steps up to the directory lead there still, and the last one goes into the file.
  have steps : written.Leads [] path.steps (directory ++ [name]) := by
    rw [steps_of_fileName? named]
    refine (leads.mono keeps).append (.down ?_ short (Option.isSome_of_eq_some stands) (.here _))
    rcases isDirectoryAt_iff.1 through with ⟨holder, found, holds⟩
    rcases keeps directory holder found with ⟨kept, found, still⟩
    exact isDirectoryAt_iff.2 ⟨kept, found, still holds⟩
  rw [readBytes, locate_of_leads allowed plain steps]
  dsimp only
  rw [stands]

end FileTree

end LiveEditor
