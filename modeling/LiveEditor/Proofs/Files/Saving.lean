import LiveEditor.Files.Store
import LiveEditor.Proofs.Files.Reaching
import LiveEditor.Proofs.Text.Encoding

/-! # Saving a document

A save makes the directories on the way to a document, writes a file beside it and
renames that file.  So the document has the old text or the new one, whatever fails.
The file beside it has a name of its own, the document's with an ending added: a file
that has this name already is lost, and no other one is touched.
-/

namespace LiveEditor

namespace Path

/-! ## Steps of parts of paths -/

theorem filterMap_takeSteps (count : Nat) (segments : List Text) :
    (takeSteps count segments).filterMap step? = (segments.filterMap step?).take count := by
  induction segments generalizing count with
  | nil => cases count <;> rfl
  | cons segment rest induction =>
      cases count with
      | zero => rfl
      | succ count =>
          rw [takeSteps]
          cases found : step? segment with
          | none => simp [found, induction]
          | some step => simp [found, induction]

theorem steps_leading (path : Path) (count : Nat) :
    (path.leading count).steps = path.steps.take count :=
  filterMap_takeSteps count path.segments

theorem steps_parent (path : Path) : (path.parent?.getD path).steps = path.steps.dropLast := by
  rw [parent?]
  split
  · next empty =>
      have none : path.steps = [] := List.isEmpty_iff.1 empty
      rw [Option.getD_none, none]
      rfl
  · rw [Option.getD_some, steps_leading, List.dropLast_eq_take]

/-- An empty segment at the end is no step. -/
theorem steps_join_name (base : Path) {name : Text} {step : PathStep}
    (isStep : step? name = some step) :
    (base.join ⟨false, [name]⟩).steps = base.steps ++ [step] := by
  rw [join, if_neg Bool.false_ne_true, steps, steps]
  dsimp only
  rw [List.filterMap_append, List.filterMap_cons_some isStep, List.filterMap_nil]
  congr 1
  split
  · next slash =>
      have last : base.segments.getLast? = some [] := by simpa [endsWithSlash] using slash
      rcases List.getLast?_eq_some_iff.1 last with ⟨front, whole⟩
      rw [whole, List.dropLast_concat, List.filterMap_append]
      simp [step?]
  · rfl

theorem steps_withFileName {path : Path} {old name : Text} {step : PathStep}
    (named : path.fileName? = some old) (isStep : step? name = some step) :
    (path.withFileName name).steps = path.steps.dropLast ++ [step] := by
  rw [withFileName, named]
  exact (steps_join_name _ isStep).trans (congrArg (· ++ [step]) (steps_parent path))

theorem exists_segments_withFileName (path : Path) (name : Text) :
    ∃ front, (path.withFileName name).segments = front ++ [name] := by
  rw [withFileName, join, if_neg Bool.false_ne_true]
  exact ⟨_, rfl⟩

end Path

namespace FileStore

/-! ## The file beside a document -/

def temporaryName (name : Text) : Text :=
  name ++ ".tmp".toList

theorem temporaryName_ne (name : Text) : temporaryName name ≠ name := by
  intro same
  have length := congrArg List.length same
  simp [temporaryName] at length

/-- The ending alone makes it longer than the names that are no step down. -/
theorem temporaryName_ne_of_short (name : Text) {short : Text} (bound : short.length < 4) :
    temporaryName name ≠ short := by
  rintro rfl
  exact absurd bound (by simp [temporaryName])

theorem step?_temporaryName (name : Text) :
    Path.step? (temporaryName name) = some (.down (temporaryName name)) := by
  rw [Path.step?, if_neg, if_neg (temporaryName_ne_of_short name (by decide))]
  rintro (same | same)
  · exact temporaryName_ne_of_short name (by decide) same
  · exact temporaryName_ne_of_short name (by decide) same

variable {path : Path} {name : Text}

theorem temporary_eq (path : Path) :
    temporary path = path.withFileName (temporaryName (path.fileName?.getD [])) := rfl

theorem steps_temporary (named : path.fileName? = some name) :
    (temporary path).steps = path.steps.dropLast ++ [.down (temporaryName name)] := by
  rw [temporary_eq, named]
  exact Path.steps_withFileName named (step?_temporaryName name)

theorem fileName?_temporary (named : path.fileName? = some name) :
    (temporary path).fileName? = some (temporaryName name) := by
  rw [Path.fileName?, steps_temporary named, List.getLast?_concat]

theorem ending_temporary (path : Path) : (temporary path).ending = .plain := by
  rw [temporary_eq]
  generalize path.fileName?.getD [] = name
  rcases Path.exists_segments_withFileName path (temporaryName name) with ⟨front, segments⟩
  have filled : temporaryName name ≠ [] := temporaryName_ne_of_short name (by decide)
  have noDot : temporaryName name ≠ ['.'] := temporaryName_ne_of_short name (by decide)
  simp [Path.ending, Path.endsWithSlash, segments, filled, noDot]

/-! ## What a save does -/

/-- A document was written in place of what stood there, and the file beside it is
gone. -/
structure Replaced (before after : FileTree) (path : Path) (directory : Location)
    (name : Text) (bytes : List UInt8) : Prop where
  plain : path.ending = .plain
  reaches : before.Reaches path directory name
  beside : before.Reaches (temporary path) directory (temporaryName name)
  free : before.isDirectoryAt (directory ++ [name]) = false
  besideFree : before.isDirectoryAt (directory ++ [temporaryName name]) = false
  shows : ∀ place, after.kindAt? place =
    if place = directory ++ [name] then some (.file bytes)
    else if place = directory ++ [temporaryName name] then none
    else before.kindAt? place

variable {tree after : FileTree} {bytes : List UInt8}

def WrittenBeside (before after : FileTree) (path : Path) : Prop :=
  ∃ directory besideName bytes, (temporary path).fileName? = some besideName ∧
    before.isDirectoryAt (directory ++ [besideName]) = false ∧
    ∀ place, after.kindAt? place =
      if place = directory ++ [besideName] then some (.file bytes) else before.kindAt? place

/-- A replacement that stops has at most written the file beside the document. -/
theorem replaceFile_error {error : FileError}
    (stopped : replaceFile tree path bytes = (.error error, after)) :
    after = tree ∨ WrittenBeside tree after path := by
  rw [replaceFile] at stopped
  split at stopped
  · cases stopped
    exact .inl rfl
  · next written wrote =>
      rcases FileTree.kindAt?_write wrote with ⟨directory, besideName, reaches, free, shows⟩
      have beside : WrittenBeside tree written path :=
        ⟨directory, besideName, bytes, reaches.named, free, shows⟩
      split at stopped
      · cases stopped
        exact .inr beside
      · split at stopped
        · cases stopped
          exact .inr beside
        · cases stopped

theorem replaced_of_renameFile {written : FileTree} {source : Location}
    (wrote : tree.write (temporary path) bytes = .ok written)
    (located : written.locate (temporary path) = .ok source)
    (moved : written.renameFile source bytes path = .ok after) :
    ∃ directory name, Replaced tree after path directory name bytes := by
  rcases FileTree.kindAt?_write wrote with ⟨directory, besideName, beside, besideFree, shows⟩
  have directories := FileTree.isDirectoryAt_congr besideFree (fun same => by cases same) shows
  have besideWritten := (FileTree.Reaches.congr directories).2 beside
  have stands : written.kindAt? (directory ++ [besideName]) = some (.file bytes) :=
    (shows _).trans (if_pos rfl)
  have sourceIs := besideWritten.locate (ending_temporary path) stands
  rw [located, Except.ok.injEq] at sourceIs
  subst sourceIs
  rcases FileTree.kindAt?_renameFile besideWritten.holds ((directories _).trans besideFree) moved
    with ⟨target, name, plain, reachesWritten, free, movedShows⟩
  have reaches := (FileTree.Reaches.congr directories).1 reachesWritten
  -- The two paths have the same steps but the last one, so they reach the same directory.
  have named : besideName = temporaryName name :=
    Option.some.inj (beside.named.symm.trans (fileName?_temporary reaches.named))
  have same : target = directory := by
    have leads := beside.leads
    rw [steps_temporary reaches.named, List.dropLast_concat] at leads
    exact reaches.leads.unique leads
  subst named same
  refine ⟨target, name, plain, reaches, beside, (directories _).symm.trans free, besideFree, ?_⟩
  intro place
  rw [movedShows, shows]
  split
  · rfl
  · split <;> rfl

theorem replaceFile_ok (finished : replaceFile tree path bytes = (.ok (), after)) :
    ∃ directory name, Replaced tree after path directory name bytes := by
  rw [replaceFile] at finished
  split at finished
  · cases finished
  · next written wrote =>
      split at finished
      · cases finished
      · next source located =>
          split at finished
          · cases finished
          · next renamed moved =>
              cases finished
              exact replaced_of_renameFile wrote located moved

namespace Replaced

variable {directory : Location}

theorem isDirectoryAt_eq (replaced : Replaced tree after path directory name bytes)
    (place : Location) : after.isDirectoryAt place = tree.isDirectoryAt place := by
  rw [Bool.eq_iff_iff, FileTree.isDirectoryAt_iff_kindAt?, replaced.shows]
  split
  · next same => simp [same, replaced.free]
  · split
    · next same => simp [same, replaced.besideFree]
    · exact FileTree.isDirectoryAt_iff_kindAt?.symm

theorem reaches_after (replaced : Replaced tree after path directory name bytes) :
    after.Reaches path directory name :=
  (FileTree.Reaches.congr replaced.isDirectoryAt_eq).2 replaced.reaches

theorem shows_document (replaced : Replaced tree after path directory name bytes) :
    after.kindAt? (directory ++ [name]) = some (.file bytes) :=
  (replaced.shows _).trans (if_pos rfl)

theorem readBytes (replaced : Replaced tree after path directory name bytes) :
    after.readBytes path = .ok bytes :=
  FileTree.readBytes_eq_ok_iff.2
    ⟨replaced.plain, directory, name, replaced.reaches_after, replaced.shows_document⟩

theorem shows_beside (replaced : Replaced tree after path directory name bytes) :
    after.kindAt? (directory ++ [temporaryName name]) = none := by
  have other : directory ++ [temporaryName name] ≠ directory ++ [name] := by
    simp [temporaryName_ne]
  rw [replaced.shows, if_neg other, if_pos rfl]

theorem locate_temporary (replaced : Replaced tree after path directory name bytes) :
    after.locate (temporary path) = .error .notFound :=
  ((FileTree.Reaches.congr replaced.isDirectoryAt_eq).2 replaced.beside).locate_eq_notFound
    replaced.shows_beside

end Replaced

/-- A path reaches the same place in two trees, and the same is seen there. -/
structure ReachesAlike (before after : FileTree) (path : Path) : Prop where
  reaches_iff : ∀ directory name,
    after.Reaches path directory name ↔ before.Reaches path directory name
  shows : ∀ directory name, path.fileName? = some name →
    after.kindAt? (directory ++ [name]) = before.kindAt? (directory ++ [name])

theorem ReachesAlike.refl (tree : FileTree) (path : Path) : ReachesAlike tree tree path :=
  ⟨fun _ _ => Iff.rfl, fun _ _ _ => rfl⟩

theorem ReachesAlike.readBytes_iff (alike : ReachesAlike tree after path)
    (content : List UInt8) :
    after.readBytes path = .ok content ↔ tree.readBytes path = .ok content := by
  rw [FileTree.readBytes_eq_ok_iff, FileTree.readBytes_eq_ok_iff]
  refine and_congr_right fun _ => exists₂_congr fun directory name => ?_
  rw [alike.reaches_iff]
  exact and_congr_right fun reaches => by rw [alike.shows directory name reaches.named]

/-- The file beside a document has another name than the document. -/
theorem WrittenBeside.reachesAlike (beside : WrittenBeside tree after path) :
    ReachesAlike tree after path := by
  rcases beside with ⟨directory, besideName, bytes, named, free, shows⟩
  have directories := FileTree.isDirectoryAt_congr free (fun same => by cases same) shows
  refine ⟨fun _ _ => FileTree.Reaches.congr directories, fun target name other => ?_⟩
  rw [shows, if_neg]
  intro same
  have last : name = besideName := List.head_eq_of_cons_eq (List.append_inj_right' same rfl)
  rw [fileName?_temporary other, Option.some_inj, last] at named
  exact temporaryName_ne besideName named

/-! ## Saving -/

variable {store saved : FileStore} {handle text : Text}

/-- A save makes directories at first.  Then it has failed, or it replaces the document. -/
theorem save_cases {outcome : Except FileError Unit}
    (saves : store.save handle text = (outcome, saved)) :
    saved.root = store.root ∧ ∃ prepared, store.tree.GainsDirectories prepared ∧
      (outcome.isOk = false ∧ saved.tree = prepared ∨
        replaceFile prepared (store.resolve handle) (Utf8.encode text) =
          (outcome, saved.tree)) := by
  rw [save] at saves
  have gains := store.tree.gainsDirectories_makeParents (store.resolve handle)
  rcases made : store.tree.makeParents (store.resolve handle) with ⟨result, prepared⟩
  rw [made] at saves gains
  dsimp only at saves gains
  split at saves
  · cases saves
    exact ⟨rfl, prepared, gains, .inl ⟨rfl, rfl⟩⟩
  · cases saves
    exact ⟨rfl, prepared, gains, .inr rfl⟩

theorem save_ok (finished : store.save handle text = (.ok (), saved)) :
    saved.root = store.root ∧ ∃ prepared directory name,
      store.tree.GainsDirectories prepared ∧
        Replaced prepared saved.tree (store.resolve handle) directory name
          (Utf8.encode text) := by
  rcases save_cases finished with ⟨root, prepared, gains, ⟨failed, _⟩ | replacing⟩
  · cases failed
  · rcases replaceFile_ok replacing with ⟨directory, name, replaced⟩
    exact ⟨root, prepared, directory, name, gains, replaced⟩

theorem save_error {error : FileError} (stopped : store.save handle text = (.error error, saved)) :
    saved.root = store.root ∧ ∃ prepared, store.tree.GainsDirectories prepared ∧
      ReachesAlike prepared saved.tree (store.resolve handle) := by
  rcases save_cases stopped with ⟨root, prepared, gains, ⟨_, same⟩ | replacing⟩
  · exact ⟨root, prepared, gains, same ▸ .refl prepared _⟩
  · rcases replaceFile_error replacing with same | beside
    · exact ⟨root, prepared, gains, same ▸ .refl prepared _⟩
    · exact ⟨root, prepared, gains, beside.reachesAlike⟩

theorem load_of_root_eq {other : FileStore} (same : other.root = store.root) (handle : Text) :
    other.load handle = other.tree.readText (store.resolve handle) := by
  rw [load, resolve, same]
  rfl

theorem load_of_save_ok (finished : store.save handle text = (.ok (), saved)) :
    saved.load handle = .ok text := by
  rcases save_ok finished with ⟨root, prepared, directory, name, _, replaced⟩
  rw [load_of_root_eq root, FileTree.readText_eq_ok_iff]
  exact ⟨_, replaced.readBytes, Utf8.decode?_encode text⟩

/-- Of a failed save only directories are left that can be on the way to a document. -/
theorem load_of_save_error {error : FileError} {old : Text}
    (stopped : store.save handle text = (.error error, saved)) :
    (store.load handle = .ok old → saved.load handle = .ok old) ∧
    (saved.load handle = .ok old → store.load handle = .ok old ∨
      store.load handle = .error .notFound ∧ .up ∈ (store.resolve handle).steps ∧
        ∃ place bytes, saved.tree.locate (store.resolve handle) = .ok place ∧
          store.tree.entryAt? place = some (.file bytes) ∧
          Utf8.decode? bytes = some old) := by
  rcases save_error stopped with ⟨root, prepared, gains, alike⟩
  rw [load_of_root_eq root, load, FileTree.readText_eq_ok_iff, FileTree.readText_eq_ok_iff]
  constructor
  · rintro ⟨bytes, read, decoded⟩
    exact ⟨bytes, (alike.readBytes_iff bytes).2 (gains.reads read), decoded⟩
  · rintro ⟨bytes, read, decoded⟩
    rcases gains.reads_or_climbs ((alike.readBytes_iff bytes).1 read) with
      earlier | ⟨missing, climbs, directory, name, reaches, stood⟩
    · exact .inl ⟨bytes, earlier, decoded⟩
    · refine .inr ⟨FileTree.readText_of_locate_error missing, climbs, directory ++ [name], bytes,
        ?_, FileTree.entryAt?_eq_file_iff.2 stood, decoded⟩
      have plain := (FileTree.readBytes_eq_ok_iff.1 read).1
      have seen := gains.kindAt?_eq_file_iff.2 stood
      rw [← alike.shows directory name reaches.named] at seen
      exact ((alike.reaches_iff directory name).2 reaches).locate plain seen

/-- A document that was saved is loaded as it was, and the file beside it is gone.  A
document whose save failed is loaded as before.  If it could not be loaded, then it
still cannot, unless its path climbs: then a directory on the way may have been
missing, and the file that was there all the time is loaded. -/
theorem save_all_or_nothing (store : FileStore) (handle text : Text) :
    match store.save handle text with
    | (.ok (), saved) =>
        saved.load handle = .ok text ∧
          saved.tree.locate (temporary (store.resolve handle)) = .error .notFound
    | (.error _, saved) => ∀ old,
        (store.load handle = .ok old → saved.load handle = .ok old) ∧
        (saved.load handle = .ok old → store.load handle = .ok old ∨
          store.load handle = .error .notFound ∧ .up ∈ (store.resolve handle).steps ∧
            ∃ place bytes, saved.tree.locate (store.resolve handle) = .ok place ∧
              store.tree.entryAt? place = some (.file bytes) ∧
              Utf8.decode? bytes = some old) := by
  split
  · next saved finished =>
      rcases save_ok finished with ⟨_, prepared, directory, name, _, replaced⟩
      exact ⟨load_of_save_ok finished, replaced.locate_temporary⟩
  · next error saved stopped => exact fun old => load_of_save_error stopped

def blockedStore : FileStore where
  tree := ⟨[("b".toList, .file (Utf8.encode "old".toList)), ("b.tmp".toList, .directory [])]⟩
  root := Path.ofText "/".toList

/-- The path climbs out of a directory that is missing.  A save makes the directory and
fails then, and the document is found that was not found before. -/
theorem not_load_iff_of_missingDirectory :
    (blockedStore.save "a/../b".toList "new".toList).1 = .error .isADirectory ∧
      blockedStore.load "a/../b".toList = .error .notFound ∧
      ¬ ∀ text, (blockedStore.save "a/../b".toList "new".toList).2.load "a/../b".toList = .ok text ↔
        blockedStore.load "a/../b".toList = .ok text := by
  have missing : blockedStore.load "a/../b".toList = .error .notFound := rfl
  have found : (blockedStore.save "a/../b".toList "new".toList).2.load "a/../b".toList =
      .ok "old".toList := rfl
  refine ⟨rfl, missing, ?_⟩
  intro same
  have before := (same "old".toList).1 found
  rw [missing] at before
  cases before

/-- A save keeps every file but the one that it writes and the one that has the name of
the file beside it, which is gone.  So it keeps the others, and makes no other file,
exactly if there was no file of that name. -/
theorem save_keeps_files_iff (finished : store.save handle text = (.ok (), saved)) :
    ∃ directory name,
      saved.tree.locate (store.resolve handle) = .ok (directory ++ [name]) ∧
      (∀ place, place ≠ directory ++ [name] → place ≠ directory ++ [temporaryName name] →
        ∀ bytes, saved.tree.entryAt? place = some (.file bytes) ↔
          store.tree.entryAt? place = some (.file bytes)) ∧
      saved.tree.entryAt? (directory ++ [temporaryName name]) = none ∧
      ((∀ place, place ≠ directory ++ [name] →
          ∀ bytes, saved.tree.entryAt? place = some (.file bytes) ↔
            store.tree.entryAt? place = some (.file bytes)) ↔
        ∀ bytes, store.tree.entryAt? (directory ++ [temporaryName name]) ≠
          some (.file bytes)) := by
  rcases save_ok finished with ⟨_, prepared, directory, name, gains, replaced⟩
  have others : ∀ place, place ≠ directory ++ [name] →
      place ≠ directory ++ [temporaryName name] →
      ∀ bytes, saved.tree.entryAt? place = some (.file bytes) ↔
        store.tree.entryAt? place = some (.file bytes) := by
    intro place notDocument notBeside bytes
    rw [FileTree.entryAt?_eq_file_iff, FileTree.entryAt?_eq_file_iff, replaced.shows,
      if_neg notDocument, if_neg notBeside, gains.kindAt?_eq_file_iff]
  have gone : saved.tree.entryAt? (directory ++ [temporaryName name]) = none :=
    FileTree.entryAt?_eq_none_iff.2 replaced.shows_beside
  have different : directory ++ [temporaryName name] ≠ directory ++ [name] := by
    simp [temporaryName_ne]
  refine ⟨directory, name, replaced.reaches_after.locate replaced.plain replaced.shows_document,
    others, gone, ⟨?_, ?_⟩⟩
  · intro kept bytes stood
    have still := (kept _ different bytes).2 stood
    rw [gone] at still
    cases still
  · intro free place notDocument bytes
    by_cases beside : place = directory ++ [temporaryName name]
    · subst beside
      rw [gone]
      exact iff_of_false (fun same => by cases same) (free bytes)
    · exact others place notDocument beside bytes

def neighbourStore : FileStore where
  tree := ⟨[("é.tmp".toList, .file [1]), ("src".toList, .directory [("tmp".toList, .file [2])]),
    ("é.tmp.tmp".toList, .file [3])]⟩
  root := Path.ofText "/src".toList

theorem save_keeps_files_neighbours :
    (neighbourStore.save "new/é".toList "x".toList).1 = .ok () ∧
      ∀ place, place ≠ ["src".toList, "new".toList, "é".toList] → ∀ bytes,
        (neighbourStore.save "new/é".toList "x".toList).2.tree.entryAt? place =
            some (.file bytes) ↔
          neighbourStore.tree.entryAt? place = some (.file bytes) := by
  have finished : neighbourStore.save "new/é".toList "x".toList =
      (.ok (), (neighbourStore.save "new/é".toList "x".toList).2) := rfl
  rcases save_keeps_files_iff finished with ⟨directory, name, located, _, _, kept⟩
  have target : (neighbourStore.save "new/é".toList "x".toList).2.tree.locate
      (neighbourStore.resolve "new/é".toList) =
        .ok (["src".toList, "new".toList] ++ ["é".toList]) := rfl
  rw [target, Except.ok.injEq] at located
  rcases List.append_inj' located rfl with ⟨rfl, same⟩
  cases same
  refine ⟨congrArg Prod.fst finished, kept.2 ?_⟩
  intro bytes stood
  have free : neighbourStore.tree.entryAt?
      (["src".toList, "new".toList] ++ [temporaryName "é".toList]) = none := rfl
  rw [free] at stood
  cases stood

def besideStore : FileStore where
  tree := ⟨[("a.tmp".toList, .file (Utf8.encode "kept".toList))]⟩
  root := Path.ofText "/".toList

/-- The document is saved, and the other file is lost. -/
theorem not_files_kept_of_temporaryName :
    (besideStore.save "a".toList "new".toList).1 = .ok () ∧
      (besideStore.save "a".toList "new".toList).2.tree.locate (besideStore.resolve "a".toList) =
        .ok ["a".toList] ∧
      (besideStore.save "a".toList "new".toList).2.tree.entryAt? ["a.tmp".toList] = none ∧
      ¬ ∀ place, place ≠ ["a".toList] → ∀ bytes,
        besideStore.tree.entryAt? place = some (.file bytes) →
          (besideStore.save "a".toList "new".toList).2.tree.entryAt? place =
            some (.file bytes) := by
  have gone : (besideStore.save "a".toList "new".toList).2.tree.entryAt? ["a.tmp".toList] =
      none := rfl
  refine ⟨rfl, rfl, gone, ?_⟩
  intro kept
  have still := kept ["a.tmp".toList] (by decide) (Utf8.encode "kept".toList) rfl
  rw [gone] at still
  cases still

end FileStore

end LiveEditor
