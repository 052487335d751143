import LiveEditor.Proofs.Files.Kinds

/-! # Where paths lead

All steps of a path but the last go through directories, and the last one goes from a
directory into an entry.  So a path is read if it leads to a file, and it leads to the
same place in every tree that has the directories on the way.  Directories that are
made can open a way that climbs out of them; no other way is new.
-/

namespace LiveEditor.FileTree

variable {tree after : FileTree} {place target : Location} {steps : List PathStep}

/-! ## Steps through directories -/

theorem Leads.exists_of_append {front rest : List PathStep}
    (leads : tree.Leads place (front ++ rest) target) :
    ∃ middle, tree.Leads place front middle ∧ tree.Leads middle rest target := by
  induction front generalizing place with
  | nil => exact ⟨place, .here place, leads⟩
  | cons step front induction =>
      cases leads with
      | up through later =>
          rcases induction later with ⟨middle, first, second⟩
          exact ⟨middle, .up through first, second⟩
      | down through short stands later =>
          rcases induction later with ⟨middle, first, second⟩
          exact ⟨middle, .down through short stands first, second⟩

theorem Leads.unique {other : Location} (one : tree.Leads place steps target)
    (two : tree.Leads place steps other) : target = other := by
  induction one with
  | here place =>
      cases two with
      | here => rfl
  | up _ _ induction =>
      cases two with
      | up _ later => exact induction later
  | down _ _ _ _ induction =>
      cases two with
      | down _ _ _ later => exact induction later

theorem Leads.isDirectoryAt_start (leads : tree.Leads place steps target)
    (ends : tree.isDirectoryAt target = true) : tree.isDirectoryAt place = true := by
  cases leads with
  | here => exact ends
  | up through => exact through
  | down through => exact through

/-- A way that ends in a directory goes through directories only, so it is there in
every tree that has them. -/
theorem Leads.transfer
    (keeps : ∀ place, tree.isDirectoryAt place = true → after.isDirectoryAt place = true)
    (leads : tree.Leads place steps target) (ends : tree.isDirectoryAt target = true) :
    after.Leads place steps target := by
  induction leads with
  | here place => exact .here place
  | up through _ induction => exact .up (keeps _ through) (induction ends)
  | down through short _ later induction =>
      have next := isDirectoryAt_iff_kindAt?.1 (keeps _ (later.isDirectoryAt_start ends))
      exact .down (keeps _ through) short (isSome_entryAt?_of_kindAt? next) (induction ends)

/-! ## The last step -/

/-- The last step of a path goes from a directory to a name, whether or not anything
stands there. -/
structure Reaches (tree : FileTree) (path : Path) (directory : Location) (name : Text) :
    Prop where
  allowed : refusal? path = none
  named : path.fileName? = some name
  leads : tree.Leads [] path.steps.dropLast directory
  holds : tree.isDirectoryAt directory = true
  short : isTooLong name = false

variable {path : Path} {directory : Location} {name : Text}

theorem reaches_of_locateParent (located : tree.locateParent path = .ok directory)
    (named : path.fileName? = some name) (short : isTooLong name = false) :
    tree.Reaches path directory name := by
  rcases leads_of_locateParent located with ⟨allowed, leads, holds⟩
  exact ⟨allowed, named, leads, holds, short⟩

namespace Reaches

theorem transfer (reaches : tree.Reaches path directory name)
    (keeps : ∀ place, tree.isDirectoryAt place = true → after.isDirectoryAt place = true) :
    after.Reaches path directory name where
  allowed := reaches.allowed
  named := reaches.named
  leads := reaches.leads.transfer keeps reaches.holds
  holds := keeps directory reaches.holds
  short := reaches.short

theorem congr (same : ∀ place, after.isDirectoryAt place = tree.isDirectoryAt place) :
    after.Reaches path directory name ↔ tree.Reaches path directory name :=
  ⟨fun reaches => reaches.transfer fun place => (same place ▸ ·),
    fun reaches => reaches.transfer fun place => ((same place).symm ▸ ·)⟩

theorem leads_of_kindAt? {kind : EntryKind} (reaches : tree.Reaches path directory name)
    (seen : tree.kindAt? (directory ++ [name]) = some kind) :
    tree.Leads [] path.steps (directory ++ [name]) := by
  rw [steps_of_fileName? reaches.named]
  exact reaches.leads.append
    (.down reaches.holds reaches.short (isSome_entryAt?_of_kindAt? seen) (.here _))

theorem locate {kind : EntryKind} (reaches : tree.Reaches path directory name)
    (plain : path.ending = .plain) (seen : tree.kindAt? (directory ++ [name]) = some kind) :
    tree.locate path = .ok (directory ++ [name]) :=
  locate_of_leads reaches.allowed plain (reaches.leads_of_kindAt? seen)

end Reaches

theorem walk_append {trail final : Trail} {front : List PathStep}
    (walked : tree.walk trail front = .ok final) (rest : List PathStep) :
    tree.walk trail (front ++ rest) = tree.walk final rest := by
  induction front generalizing trail with
  | nil =>
      rw [walk, Except.ok.injEq] at walked
      rw [walked, List.nil_append]
  | cons step front induction =>
      rw [List.cons_append]
      cases step with
      | up =>
          rw [walk] at walked ⊢
          split at walked
          · next holds =>
              rw [if_pos holds]
              exact induction walked
          · cases walked
      | down name =>
          rw [walk] at walked ⊢
          split at walked
          · next holds =>
              split at walked
              · cases walked
              · next short =>
                  split at walked
                  · cases walked
                  · next child named =>
                      rw [if_pos holds, if_neg short]
                      exact induction walked
          · cases walked

theorem Reaches.locate_eq_notFound (reaches : tree.Reaches path directory name)
    (free : tree.kindAt? (directory ++ [name]) = none) :
    tree.locate path = .error .notFound := by
  rcases walk_of_leads reaches.leads .root rfl with ⟨final, walked, ends⟩
  have valid := (leads_of_walk .root walked).1
  have holds : (tree.entryOn final).isDirectory = true := by
    rw [← valid.isDirectoryAt_location, ends]
    exact reaches.holds
  have absent : (tree.entryOn final).child? name = none := by
    rw [← valid.entryAt?_down, ends]
    exact entryAt?_eq_none_iff.2 free
  have stops : tree.walk final [.down name] = .error .notFound := by
    rw [walk, if_pos holds, reaches.short, absent]
    rfl
  rw [FileTree.locate, follow, reaches.allowed, steps_of_fileName? reaches.named]
  dsimp only
  rw [walk_append walked, stops]

/-! ## Reading -/

/-- Steps that lead to a file end with a step to its name. -/
theorem exists_reaches {bytes : List UInt8} (allowed : refusal? path = none)
    (leads : tree.Leads [] path.steps target)
    (seen : tree.kindAt? target = some (.file bytes)) :
    ∃ directory name, tree.Reaches path directory name ∧ target = directory ++ [name] := by
  have notDirectory : ¬ tree.isDirectoryAt target = true := by
    rw [isDirectoryAt_iff_kindAt?, seen]
    exact fun same => by cases same
  rcases List.eq_nil_or_concat path.steps with none | ⟨front, last, whole⟩
  · rw [none] at leads
    cases leads
    exact absurd rfl notDirectory
  · rw [List.concat_eq_append] at whole
    rw [whole] at leads
    rcases leads.exists_of_append with ⟨directory, first, second⟩
    cases second with
    | up through later =>
        cases later
        exact absurd (isDirectoryAt_dropLast through) notDirectory
    | @down _ _ name _ through short stands later =>
        cases later
        refine ⟨directory, name, ⟨allowed, ?_, ?_, through, short⟩, rfl⟩
        · rw [Path.fileName?, whole, List.getLast?_concat]
        · rwa [whole, List.dropLast_concat]

/-- What a path reads is the file that its last step goes into. -/
theorem readBytes_eq_ok_iff {bytes : List UInt8} :
    tree.readBytes path = .ok bytes ↔ path.ending = .plain ∧
      ∃ directory name, tree.Reaches path directory name ∧
        tree.kindAt? (directory ++ [name]) = some (.file bytes) := by
  constructor
  · intro read
    rw [readBytes] at read
    split at read
    · cases read
    · next location located =>
        split at read
        · cases read
        · cases read
        · next content stands =>
            cases read
            have seen := entryAt?_eq_file_iff.1 stands
            rcases leads_of_locate located with ⟨allowed, leads, ends⟩
            rcases exists_reaches allowed leads seen with ⟨directory, name, reaches, rfl⟩
            refine ⟨ends.resolve_right ?_, directory, name, reaches, seen⟩
            rw [isDirectoryAt_iff_kindAt?, seen]
            exact fun same => by cases same
  · rintro ⟨plain, directory, name, reaches, seen⟩
    rw [readBytes, reaches.locate plain seen]
    dsimp only
    rw [entryAt?_eq_file_iff.2 seen]

theorem readText_eq_ok_iff {text : Text} :
    tree.readText path = .ok text ↔
      ∃ bytes, tree.readBytes path = .ok bytes ∧ Utf8.decode? bytes = some text := by
  rw [readText]
  cases tree.readBytes path with
  | error error => simp
  | ok bytes => cases decoded : Utf8.decode? bytes <;> simp [decoded]

theorem readText_of_locate_error {error : FileError} (located : tree.locate path = .error error) :
    tree.readText path = .error error := by
  rw [readText, readBytes, located]

/-- After a write the new file is seen in its place, and nothing else has changed. -/
theorem kindAt?_write {bytes : List UInt8} {written : FileTree}
    (wrote : tree.write path bytes = .ok written) :
    ∃ directory name, tree.Reaches path directory name ∧
      tree.isDirectoryAt (directory ++ [name]) = false ∧
      ∀ place, written.kindAt? place =
        if place = directory ++ [name] then some (.file bytes) else tree.kindAt? place := by
  rcases eq_put_of_write wrote with ⟨directory, name, located, named, short, free, rfl⟩
  have reaches := reaches_of_locateParent located named short
  exact ⟨directory, name, reaches, free, kindAt?_put reaches.holds (Entry.isLeaf_file bytes) free⟩

/-- A rename puts the file in the place that the path reaches, if no directory is there. -/
theorem eq_put_of_renameFile {source : Location} {bytes : List UInt8} {renamed : FileTree}
    (moved : tree.renameFile source bytes path = .ok renamed) :
    ∃ directory name, path.ending = .plain ∧ tree.Reaches path directory name ∧
      tree.isDirectoryAt (directory ++ [name]) = false ∧
      renamed = (tree.erase source).put directory name (.file bytes) := by
  rw [renameFile] at moved
  split at moved
  · cases moved
  · next directory located =>
      split at moved
      · cases moved
      · next name named =>
          split at moved
          · cases moved
          · next short =>
              have reaches := reaches_of_locateParent located named (Bool.not_eq_true _ ▸ short)
              split at moved
              · cases moved
              · cases moved
              · next plain free =>
                  cases moved
                  refine ⟨directory, name, plain, reaches, ?_, rfl⟩
                  rw [← Bool.not_eq_true, isDirectoryAt_iff]
                  rintro ⟨entry, stands, holds⟩
                  cases entry with
                  | file bytes => cases holds
                  | directory children => exact free children stands
              · cases moved
              · cases moved
              · cases moved

/-- After a rename a file is seen in the place that the path reaches, nothing where it
was before, and all else is as it was. -/
theorem kindAt?_renameFile {old : Text} {bytes : List UInt8} {renamed : FileTree}
    (holds : tree.isDirectoryAt directory = true)
    (free : tree.isDirectoryAt (directory ++ [old]) = false)
    (moved : tree.renameFile (directory ++ [old]) bytes path = .ok renamed) :
    ∃ target name, path.ending = .plain ∧ tree.Reaches path target name ∧
      tree.isDirectoryAt (target ++ [name]) = false ∧
      ∀ place, renamed.kindAt? place =
        if place = target ++ [name] then some (.file bytes)
        else if place = directory ++ [old] then none
        else tree.kindAt? place := by
  rcases eq_put_of_renameFile moved with ⟨target, name, plain, reaches, targetFree, rfl⟩
  have erased := kindAt?_erase holds free
  have directories := isDirectoryAt_congr free (fun same => by cases same) erased
  refine ⟨target, name, plain, reaches, targetFree, fun place => ?_⟩
  rw [kindAt?_put ((directories target).trans reaches.holds) (Entry.isLeaf_file bytes)
    ((directories _).trans targetFree), erased]
  rfl

/-! ## Ways that directories open -/

/-- Steps that never climb end below where they begin. -/
theorem Leads.isPrefix (leads : tree.Leads place steps target) (falls : .up ∉ steps) :
    place <+: target := by
  induction leads with
  | here place => exact List.prefix_rfl
  | up => exact absurd List.mem_cons_self falls
  | down _ _ _ _ induction =>
      exact (List.prefix_append _ _).trans (induction fun climbs =>
        falls (List.mem_cons_of_mem _ climbs))

/-- Steps that never climb lead to an entry wherever it stands. -/
theorem Leads.transfer_of_falls {kind : EntryKind} (leads : after.Leads place steps target)
    (falls : .up ∉ steps) (seen : tree.kindAt? target = some kind) :
    tree.Leads place steps target := by
  induction leads with
  | here place => exact .here place
  | up => exact absurd List.mem_cons_self falls
  | @down place target name rest _ short _ later induction =>
      have restFalls : .up ∉ rest := fun climbs => falls (List.mem_cons_of_mem _ climbs)
      rcases later.isPrefix restFalls with ⟨more, rfl⟩
      refine .down ?_ short (isSome_entryAt?_of_kindAt?_append seen) (induction restFalls seen)
      rw [List.append_assoc] at seen
      exact isDirectoryAt_of_kindAt?_append seen

/-- Where steps lead after directories were made, they led before, or they met a name
that was missing. -/
theorem GainsDirectories.walk_or_notFound (gains : tree.GainsDirectories after) {trail : Trail}
    (leads : after.Leads place steps target) (valid : tree.IsTrail trail)
    (begins : Trail.location trail = place) :
    (∃ final, tree.walk trail steps = .ok final ∧ Trail.location final = target) ∨
      tree.walk trail steps = .error .notFound := by
  have through : ∀ {trail : Trail}, tree.IsTrail trail →
      after.isDirectoryAt (Trail.location trail) = true →
        (tree.entryOn trail).isDirectory = true := by
    intro trail valid holds
    rw [isDirectoryAt_iff_kindAt?] at holds
    rw [← valid.isDirectoryAt_location, isDirectoryAt_iff_kindAt?]
    rcases gains (Trail.location trail) with same | ⟨free, _⟩
    · exact same.symm.trans holds
    · rw [← entryAt?_eq_none_iff, valid.entryAt?_location] at free
      cases free
  induction leads generalizing trail with
  | here => exact .inl ⟨trail, rfl, begins⟩
  | up holds _ induction =>
      rw [walk, if_pos (through valid (begins ▸ holds))]
      exact induction valid.tail (by rw [Trail.location_tail, begins])
  | @down _ _ name _ holds short _ _ induction =>
      subst begins
      rw [walk, if_pos (through valid holds), short]
      cases named : (tree.entryOn trail).child? name with
      | none => exact .inr rfl
      | some child => exact induction (.down valid named) (Trail.location_cons name child trail)

theorem GainsDirectories.reads (gains : tree.GainsDirectories after) {bytes : List UInt8}
    (read : tree.readBytes path = .ok bytes) : after.readBytes path = .ok bytes := by
  rcases readBytes_eq_ok_iff.1 read with ⟨plain, directory, name, reaches, seen⟩
  exact readBytes_eq_ok_iff.2 ⟨plain, directory, name,
    reaches.transfer fun _ => gains.isDirectoryAt, gains.kindAt?_eq_file_iff.2 seen⟩

/-- What is read after directories were made was read before, or it was there and a name
was missing on a way that climbs. -/
theorem GainsDirectories.reads_or_climbs (gains : tree.GainsDirectories after)
    {bytes : List UInt8} (read : after.readBytes path = .ok bytes) :
    tree.readBytes path = .ok bytes ∨
      tree.locate path = .error .notFound ∧ .up ∈ path.steps ∧
        ∃ directory name, after.Reaches path directory name ∧
          tree.kindAt? (directory ++ [name]) = some (.file bytes) := by
  rcases readBytes_eq_ok_iff.1 read with ⟨plain, directory, name, reaches, seen⟩
  have stood := gains.kindAt?_eq_file_iff.1 seen
  have leads := reaches.leads_of_kindAt? seen
  rcases gains.walk_or_notFound leads .root rfl with ⟨final, walked, ends⟩ | missing
  · have located : tree.locate path = .ok (directory ++ [name]) :=
      locate_of_leads reaches.allowed plain (ends ▸ (leads_of_walk .root walked).2)
    left
    rw [readBytes, located]
    dsimp only
    rw [entryAt?_eq_file_iff.2 stood]
  · refine .inr ⟨?_, ?_, directory, name, reaches, stood⟩
    · rw [locate, follow, reaches.allowed]
      dsimp only
      rw [missing]
    · refine Decidable.byContradiction fun falls => ?_
      rcases walk_of_leads (leads.transfer_of_falls falls stood) .root rfl with
        ⟨final, walked, _⟩
      rw [missing] at walked
      cases walked

end LiveEditor.FileTree
