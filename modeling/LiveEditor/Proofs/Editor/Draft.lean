import LiveEditor.Proofs.Editor.Operations
import LiveEditor.Proofs.Text.Selection

/-! # The draft

Every change of the text is saved as the draft.  Once the text has changed, the
store therefore holds the text of the editor as the draft, whatever is done with
the editor: also if documents are saved under the name of the draft, and if the
draft itself is restored.  An editor that is begun anew gets the text back.
-/

namespace LiveEditor

/-- What is saved can be loaded.  Under any other handle there is what was there
before; a handle that names the same document in other words may show the saved
text. -/
class FaithfulStore (σ : Type) [DocumentStore σ] : Prop where
  load_save : ∀ (store : σ) (handle text : Text),
    DocumentStore.load (DocumentStore.save store handle text).2 handle = .ok text
  load_save_other : ∀ (store : σ) (handle text other : Text),
    DocumentStore.load (DocumentStore.save store handle text).2 other =
        DocumentStore.load store other ∨
      DocumentStore.load (DocumentStore.save store handle text).2 other = .ok text

structure MemoryStore where
  versions : List (Text × Text)

instance : DocumentStore MemoryStore where
  load store handle := (store.versions.lookup handle).elim (.error .notFound) .ok
  save store handle text := (.ok (), ⟨(handle, text) :: store.versions⟩)

instance : FaithfulStore MemoryStore where
  load_save store handle text := by
    simp [DocumentStore.load, DocumentStore.save]
  load_save_other store handle text other := by
    by_cases same : other = handle
    · simp [DocumentStore.load, DocumentStore.save, same]
    · have different : (other == handle) = false := beq_false_of_ne same
      simp [DocumentStore.load, DocumentStore.save, List.lookup_cons, different]

inductive EditorOperation where
  | user (action : UserAction)
  | dispatch (event : SessionEvent)
  | connect (result : Except BridgeError Unit)
  | compile (run : CompileRun)
  | cancelCompile
  | pump
  | surroundings (clipboard : Option Text) (bus : Bus) (queue : List BridgeEvent)
      (tasks : List BackgroundTask) (requests : List Request)

namespace Editor

variable {σ : Type} [DocumentStore σ]

def IsDrafted (editor : Editor σ) : Prop :=
  DocumentStore.load editor.store editor.settings.draftName =
    .ok editor.session.workbench.text

/-- A step from one editor to another keeps the draft, and makes one if it
changes the text. -/
structure KeepsDraft (before after : Editor σ) : Prop where
  settings : after.settings = before.settings
  isDrafted : before.IsDrafted ∨
    after.session.workbench.text ≠ before.session.workbench.text → after.IsDrafted

namespace KeepsDraft

theorem refl (editor : Editor σ) : KeepsDraft editor editor :=
  ⟨rfl, fun kept => kept.resolve_right fun changed => changed rfl⟩

theorem trans {first second third : Editor σ} (front : KeepsDraft first second)
    (back : KeepsDraft second third) : KeepsDraft first third where
  settings := back.settings.trans front.settings
  isDrafted := by
    intro drafted
    apply back.isDrafted
    by_cases same : second.session.workbench.text = first.session.workbench.text
    · rw [same]
      exact drafted.imp_left fun kept => front.isDrafted (.inl kept)
    · exact .inl (front.isDrafted (.inr same))

/-- What goes on in the background and elsewhere does not touch the draft. -/
theorem surroundings (editor : Editor σ) (clipboard : Option Text) (bus : Bus)
    (queue : List BridgeEvent) (tasks : List BackgroundTask) (compileTask : Option Nat)
    (nextTask nextGeneration : Nat) (requests : List Request) :
    KeepsDraft editor
      { editor with
        clipboard, bus, queue, tasks, compileTask, nextTask, nextGeneration, requests } :=
  ⟨rfl, (refl editor).isDrafted⟩

end KeepsDraft

/-! ## What keeps the draft -/

section

variable (editor : Editor σ)

@[simp] theorem settings_dispatch (event : SessionEvent) :
    (editor.dispatch event).settings = editor.settings := by
  rcases editor.exists_dispatch_eq event with ⟨store, equal⟩
  rw [equal]

theorem store_dispatch_of_same {event : SessionEvent}
    (same : (editor.session.apply event).workbench.text = editor.session.workbench.text) :
    (editor.dispatch event).store = editor.store := by
  simp [dispatch, same]

theorem store_dispatch_of_changed {event : SessionEvent}
    (changed : (editor.session.apply event).workbench.text ≠
      editor.session.workbench.text) :
    (editor.dispatch event).store =
      (DocumentStore.save editor.store editor.settings.draftName
        (editor.session.apply event).workbench.text).2 := by
  simp [dispatch, changed, autosave]

variable [FaithfulStore σ]

theorem keepsDraft_dispatch (event : SessionEvent) :
    KeepsDraft editor (editor.dispatch event) where
  settings := editor.settings_dispatch event
  isDrafted := by
    intro drafted
    rw [IsDrafted, settings_dispatch, session_dispatch]
    rw [session_dispatch] at drafted
    by_cases same :
        (editor.session.apply event).workbench.text = editor.session.workbench.text
    · rw [editor.store_dispatch_of_same same, same]
      exact drafted.resolve_right fun changed => changed same
    · rw [editor.store_dispatch_of_changed same]
      exact FaithfulStore.load_save _ _ _

theorem keepsDraft_dispatchAll (events : List SessionEvent) :
    KeepsDraft editor (editor.dispatchAll events) := by
  induction events generalizing editor with
  | nil => exact .refl editor
  | cons event rest induction =>
      exact (editor.keepsDraft_dispatch event).trans (induction _)

theorem keepsDraft_act (event : WorkbenchEvent) : KeepsDraft editor (editor.act event) :=
  editor.keepsDraft_dispatch _

/-- A document that is saved holds the text of the editor, so the draft keeps it
even if it is the one that is saved. -/
theorem Prepares.keepsDraft {editor prepared : Editor σ} (prepares : editor.Prepares prepared) :
    KeepsDraft editor prepared := by
  cases prepares with
  | nothing => exact .refl editor
  | copied => exact .surroundings ..
  | saved handle =>
      refine ⟨rfl, fun drafted => ?_⟩
      have kept := drafted.resolve_right fun changed => changed rfl
      rcases FaithfulStore.load_save_other editor.store handle editor.session.workbench.text
        editor.settings.draftName with before | saved
      · exact before.trans kept
      · exact saved

theorem keepsDraft_perform (action : UserAction) :
    KeepsDraft editor (editor.perform action) := by
  rcases editor.perform_cases action with ⟨prepared, prepares, equal | ⟨event, equal⟩⟩
  · rw [equal]
    exact prepares.keepsDraft
  · rw [equal]
    exact prepares.keepsDraft.trans (prepared.keepsDraft_act event)

theorem keepsDraft_connect (result : Except BridgeError Unit) :
    KeepsDraft editor (editor.connect result) := by
  rw [connect_eq]
  exact (editor.keepsDraft_dispatch _).trans (.surroundings ..)

theorem keepsDraft_cancelCompile : KeepsDraft editor editor.cancelCompile := by
  rw [cancelCompile]
  split
  · exact (KeepsDraft.surroundings ..).trans (keepsDraft_dispatch _ _)
  · exact .surroundings ..

theorem keepsDraft_compile (run : CompileRun) : KeepsDraft editor (editor.compile run) := by
  let cancelled := editor.cancelCompile
  let numbered : Editor σ := { cancelled with nextGeneration := cancelled.nextGeneration + 1 }
  have cancels : KeepsDraft editor cancelled := editor.keepsDraft_cancelCompile
  have numbers : KeepsDraft cancelled numbered := .surroundings ..
  have starts := numbered.keepsDraft_dispatch
    (.bridge (.compileStarted cancelled.nextGeneration))
  rw [compile_eq]
  exact cancels.trans (numbers.trans (starts.trans (.surroundings ..)))

theorem keepsDraft_pump : KeepsDraft editor editor.pump.2 := by
  rw [pump_eq]
  exact (KeepsDraft.surroundings ..).trans (keepsDraft_dispatchAll _ _)

end

/-! ## Runs of operations -/

def operate (editor : Editor σ) : EditorOperation → Editor σ
  | .user action => editor.perform action
  | .dispatch event => editor.dispatch event
  | .connect result => editor.connect result
  | .compile run => editor.compile run
  | .cancelCompile => editor.cancelCompile
  | .pump => editor.pump.2
  | .surroundings clipboard bus queue tasks requests =>
      { editor with clipboard, bus, queue, tasks, requests }

def operateAll (editor : Editor σ) (operations : List EditorOperation) : Editor σ :=
  operations.foldl operate editor

theorem operateAll_append (editor : Editor σ) (front back : List EditorOperation) :
    editor.operateAll (front ++ back) = (editor.operateAll front).operateAll back :=
  List.foldl_append

def ChangesText (editor : Editor σ) (operations : List EditorOperation) : Prop :=
  ∃ before operation after, operations = before ++ operation :: after ∧
    (editor.operateAll (before ++ [operation])).session.workbench.text ≠
      (editor.operateAll before).session.workbench.text

section

variable [FaithfulStore σ]

theorem keepsDraft_operate (editor : Editor σ) (operation : EditorOperation) :
    KeepsDraft editor (editor.operate operation) := by
  cases operation with
  | user action => exact editor.keepsDraft_perform action
  | dispatch event => exact editor.keepsDraft_dispatch event
  | connect result => exact editor.keepsDraft_connect result
  | compile run => exact editor.keepsDraft_compile run
  | cancelCompile => exact editor.keepsDraft_cancelCompile
  | pump => exact editor.keepsDraft_pump
  | surroundings => exact .surroundings ..

theorem keepsDraft_operateAll (editor : Editor σ) (operations : List EditorOperation) :
    KeepsDraft editor (editor.operateAll operations) := by
  induction operations generalizing editor with
  | nil => exact .refl editor
  | cons operation rest induction =>
      exact (editor.keepsDraft_operate operation).trans (induction _)

theorem isDrafted_operateAll (editor : Editor σ) {operations : List EditorOperation}
    (changes : editor.ChangesText operations) : (editor.operateAll operations).IsDrafted := by
  rcases changes with ⟨before, operation, after, rfl, changed⟩
  rw [operateAll_append] at changed
  have drafted := ((editor.operateAll before).keepsDraft_operate operation).isDrafted
    (.inr changed)
  rw [operateAll_append]
  exact (keepsDraft_operateAll _ after).isDrafted (.inl drafted)

end

/-! ## Restoring -/

theorem workbench_setDocument (bench : Workbench) (text : Text) :
    (bench.setDocument text).text = text ∧
      (bench.setDocument text).selection = .cursor text.byteLength := by
  refine ⟨rfl, Selection.clampTo_of_fits ?_⟩
  exact Selection.fits_cursor text.isBoundary_byteLength

variable [FaithfulStore σ]

theorem isDrafted_restoreDraft {editor : Editor σ} {text : Text}
    (loads : DocumentStore.load editor.store editor.settings.draftName = .ok text) :
    editor.restoreDraft.2.IsDrafted := by
  apply (editor.keepsDraft_perform .restoreDraft).isDrafted
  rw [perform, restoreDraft_of_load loads, act, session_dispatch]
  by_cases same : text = editor.session.workbench.text
  · refine .inl ?_
    rw [IsDrafted, ← same]
    exact loads
  · exact .inr same

/-- Once an operation has changed the text of an editor, its store holds the
text as the draft, whatever is done.  An editor that is begun with that store
restores this very text, with the cursor at its end, and it is its draft too. -/
theorem draft_survives_operations (settings : EditorSettings) (store : σ)
    (grammars : σ → Text → Option Grammar) (operations : List EditorOperation)
    (changes : (initial settings store grammars).ChangesText operations) :
    let editor := (initial settings store grammars).operateAll operations
    let text := editor.session.workbench.text
    DocumentStore.load editor.store settings.draftName = .ok text ∧
      let restored := (initial settings editor.store grammars).restoreDraft
      restored.1 = true ∧
        restored.2.session.workbench.text = text ∧
        restored.2.session.workbench.selection = .cursor text.byteLength ∧
        restored.2.IsDrafted := by
  intro editor text
  have drafted : editor.IsDrafted := isDrafted_operateAll _ changes
  have kept : editor.settings = settings := (keepsDraft_operateAll _ operations).settings
  rw [IsDrafted, kept] at drafted
  refine ⟨drafted, ?_⟩
  intro restored
  have fresh : restored = (true, _) := restoreDraft_of_load drafted
  have document := workbench_setDocument
    (initial settings editor.store grammars).session.workbench text
  refine ⟨by rw [fresh], ?_, ?_, isDrafted_restoreDraft drafted⟩
  · rw [fresh, act, session_dispatch]
    exact document.1
  · rw [fresh, act, session_dispatch]
    exact document.2

def savedAsDraft : List EditorOperation :=
  [ .user (.edit "éb".toList (.cursor 0)),
    .user (.saveAs EditorSettings.standard.draftName),
    .compile ⟨[.diagnostic "w: unused".toList], none⟩,
    .user (.edit "éba".toList ⟨2, 4⟩),
    .user .cut,
    .pump ]

theorem draft_survives_savedAsDraft :
    let start := initial .standard (MemoryStore.mk []) fun _ _ => none
    let editor := start.operateAll savedAsDraft
    let restored := (initial .standard editor.store fun _ _ => none).restoreDraft
    start.ChangesText savedAsDraft ∧ restored.1 = true ∧
      restored.2.session.workbench.text = ['é'] ∧
      restored.2.session.workbench.selection = .cursor (Text.byteLength ['é']) := by
  have changes : (initial .standard (MemoryStore.mk []) fun _ _ => none).ChangesText
      savedAsDraft := ⟨[], _, savedAsDraft.tail, rfl, by decide⟩
  have text : ((initial .standard (MemoryStore.mk []) fun _ _ => none).operateAll
      savedAsDraft).session.workbench.text = ['é'] := by decide
  rcases draft_survives_operations .standard (MemoryStore.mk []) (fun _ _ => none)
    savedAsDraft changes with ⟨-, found, same, cursor, -⟩
  rw [text] at same cursor
  exact ⟨changes, found, same, cursor⟩

end Editor

end LiveEditor
