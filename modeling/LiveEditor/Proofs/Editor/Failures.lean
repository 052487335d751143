import LiveEditor.Proofs.Editor.Clipboard
import LiveEditor.Proofs.Files.Saving

/-! # Stores that fail

A store may refuse any document at any time.  What is left of an operation that fails by
it is at most a change of the store.  The draft is saved behind the back of the user, and
whether that succeeds shows nowhere: an editor goes the same way over any two stores, as
long as they answer alike to what it asks them for.
-/

namespace LiveEditor

def DocumentStore.KeepsSaved {σ : Type} [DocumentStore σ] (store : σ) : Prop :=
  ∀ handle text saved,
    DocumentStore.save store handle text = (.ok (), saved) →
      DocumentStore.load saved handle = .ok text

theorem FileStore.keepsSaved (store : FileStore) : DocumentStore.KeepsSaved store :=
  fun _ _ _ finished => load_of_save_ok finished

/-- Opening what was saved moves the cursor to the end of the text, and nothing else. -/
theorem Session.apply_documentOpened_documentSaved (session : Session) (handle : Text) :
    let saved := session.apply (.workbench (.documentSaved handle))
    saved.apply (.workbench (.documentOpened handle saved.workbench.text)) =
      { saved with
        workbench := { saved.workbench with
          selection := .cursor saved.workbench.text.byteLength } } := by
  intro saved
  have cursor := (Editor.workbench_setDocument saved.workbench saved.workbench.text).2
  have same : saved.workbench.apply (.documentOpened handle saved.workbench.text) =
      { saved.workbench with selection := .cursor saved.workbench.text.byteLength } := by
    rw [← cursor]
    rfl
  rw [apply]
  dsimp only
  rw [same]
  simp

structure RefusingStore where

instance : DocumentStore RefusingStore where
  load _ _ := .error .notFound
  save store _ _ := (.error .notFound, store)

inductive StoreAnswer where
  | nothing
  | loaded (text : Option Text)
  | saved (done : Bool)
  | found (grammar : Option Grammar)

namespace Editor

variable {σ : Type}

/-! ## Editors apart from their stores -/

/-- All of an editor but its store and the grammars in it. -/
def withoutStore (editor : Editor σ) : Editor RefusingStore :=
  { editor with store := {}, grammars := fun _ _ => none }

theorem withoutStore_copy (editor : Editor σ) :
    editor.copy.withoutStore = editor.withoutStore.copy := by
  rw [copy_eq, copy_eq]
  rfl

variable [DocumentStore σ]

section

variable (editor : Editor σ)

/-- An editor whose every draft is refused goes the same way. -/
theorem withoutStore_dispatch (event : SessionEvent) :
    (editor.dispatch event).withoutStore = editor.withoutStore.dispatch event := by
  rcases editor.exists_dispatch_eq event with ⟨store, equal⟩
  rcases editor.withoutStore.exists_dispatch_eq event with ⟨refusing, same⟩
  rw [equal, same]
  rfl

theorem withoutStore_act (event : WorkbenchEvent) :
    (editor.act event).withoutStore = editor.withoutStore.act event :=
  editor.withoutStore_dispatch _

theorem withoutStore_dispatchAll (events : List SessionEvent) :
    (editor.dispatchAll events).withoutStore = editor.withoutStore.dispatchAll events := by
  induction events generalizing editor with
  | nil => rfl
  | cons event rest induction =>
      exact (induction _).trans
        (congrArg (dispatchAll · rest) (editor.withoutStore_dispatch event))

theorem withoutStore_cut : editor.cut.withoutStore = editor.withoutStore.cut := by
  have same : editor.withoutStore.session = editor.session := rfl
  rw [cut, cut, same]
  split
  · rfl
  · exact withoutStore_act _ .cut

theorem withoutStore_connect (result : Except BridgeError Unit) :
    (editor.connect result).withoutStore = editor.withoutStore.connect result := by
  rw [connect_eq, connect_eq, ← withoutStore_dispatch]
  rfl

theorem withoutStore_cancelCompile :
    editor.cancelCompile.withoutStore = editor.withoutStore.cancelCompile := by
  have same : editor.withoutStore.isCompileRunning = editor.isCompileRunning := rfl
  rw [cancelCompile, cancelCompile, same]
  split
  · exact withoutStore_dispatch _ _
  · rfl

theorem withoutStore_compile (run : CompileRun) :
    (editor.compile run).withoutStore = editor.withoutStore.compile run := by
  let cancelled := editor.cancelCompile
  let numbered : Editor σ := { cancelled with nextGeneration := cancelled.nextGeneration + 1 }
  have starts := numbered.withoutStore_dispatch
    (.bridge (.compileStarted cancelled.nextGeneration))
  rw [compile_eq, compile_eq, ← withoutStore_cancelCompile]
  exact congrArg (fun started => spawnCompile started run cancelled.nextGeneration) starts

theorem withoutStore_pump : editor.pump.2.withoutStore = editor.withoutStore.pump.2 := by
  rw [pump_eq, pump_eq, withoutStore_dispatchAll]
  rfl

/-! ## What the store is asked for -/

/-- What the store answers when it is asked in an operation.  The draft that is saved
with it is not asked for. -/
def storeAnswer : EditorOperation → StoreAnswer
  | .user (.openDocument handle) =>
      .loaded (DocumentStore.load editor.store handle).toOption
  | .user .restoreDraft =>
      .loaded (DocumentStore.load editor.store editor.settings.draftName).toOption
  | .user (.saveAs handle) => .saved (editor.saveAs handle).1.isOk
  | .user .save => .saved editor.save.1.isOk
  | .user (.selectLanguage language) =>
      .found (language.resource?.bind fun name => editor.grammars editor.store name)
  | _ => .nothing

def storeAnswers (editor : Editor σ) : List EditorOperation → List StoreAnswer
  | [] => []
  | operation :: rest =>
      editor.storeAnswer operation :: (editor.operate operation).storeAnswers rest

end

/-! ## Documents that are refused -/

section

variable {editor : Editor σ} {handle : Text} {error : DocumentError}

theorem openDocument_refused (refused : (editor.openDocument handle).1 = .error error) :
    (editor.openDocument handle).2 = editor := by
  cases answer : DocumentStore.load editor.store handle with
  | error => rw [openDocument_of_error answer]
  | ok text =>
      rw [openDocument_of_load answer] at refused
      cases refused

theorem restoreDraft_refused (refused : editor.restoreDraft.1 = false) :
    editor.restoreDraft.2 = editor := by
  cases answer : DocumentStore.load editor.store editor.settings.draftName with
  | error => rw [restoreDraft_of_error answer]
  | ok text =>
      rw [restoreDraft_of_load answer] at refused
      cases refused

theorem saveAs_refused (refused : (editor.saveAs handle).1 = .error error) :
    ∃ store, (editor.saveAs handle).2 = { editor with store } := by
  rcases answer : DocumentStore.save editor.store handle editor.session.workbench.text with
    ⟨_ | _, store⟩
  · exact ⟨store, by rw [saveAs_of_error answer]⟩
  · rw [saveAs_of_ok answer] at refused
    cases refused

theorem save_refused (refused : editor.save.1 = .error error) :
    ∃ store, editor.save.2 = { editor with store } := by
  cases placed : editor.session.workbench.handle with
  | none => exact ⟨editor.store, by rw [save_of_handle_none placed]⟩
  | some handle =>
      rw [save_of_handle_some placed] at refused ⊢
      exact saveAs_refused refused

end

/-! ## Runs over two stores -/

section

variable (editor : Editor σ)

theorem withoutStore_openDocument (handle : Text) :
    (editor.openDocument handle).2.withoutStore =
      match (DocumentStore.load editor.store handle).toOption with
      | none => editor.withoutStore
      | some text => editor.withoutStore.act (.documentOpened handle text) := by
  cases answer : DocumentStore.load editor.store handle with
  | error => rw [openDocument_of_error answer]; rfl
  | ok text =>
      rw [openDocument_of_load answer]
      exact editor.withoutStore_act _

theorem withoutStore_restoreDraft :
    editor.restoreDraft.2.withoutStore =
      match (DocumentStore.load editor.store editor.settings.draftName).toOption with
      | none => editor.withoutStore
      | some text => editor.withoutStore.act (.draftRestored text) := by
  cases answer : DocumentStore.load editor.store editor.settings.draftName with
  | error => rw [restoreDraft_of_error answer]; rfl
  | ok text =>
      rw [restoreDraft_of_load answer]
      exact editor.withoutStore_act _

theorem withoutStore_saveAs (handle : Text) :
    (editor.saveAs handle).2.withoutStore =
      if (editor.saveAs handle).1.isOk then editor.withoutStore.act (.documentSaved handle)
      else editor.withoutStore := by
  rcases answer : DocumentStore.save editor.store handle editor.session.workbench.text with
    ⟨_ | _, store⟩
  · rw [saveAs_of_error answer]
    rfl
  · rw [saveAs_of_ok answer]
    exact withoutStore_act _ _

end

section

variable {τ : Type} [DocumentStore τ] {one : Editor σ} {other : Editor τ}

theorem withoutStore_perform {action : UserAction}
    (alike : one.withoutStore = other.withoutStore)
    (answers : one.storeAnswer (.user action) = other.storeAnswer (.user action)) :
    (one.perform action).withoutStore = (other.perform action).withoutStore := by
  have session : one.session = other.session := congrArg Editor.session alike
  have clipboard : one.clipboard = other.clipboard := congrArg Editor.clipboard alike
  have settings : one.settings = other.settings := congrArg Editor.settings alike
  cases action with
  | act | edit | newDocument =>
      exact (withoutStore_act ..).trans (alike ▸ (withoutStore_act ..).symm)
  | copy => rw [perform, perform, withoutStore_copy, withoutStore_copy, alike]
  | cut => rw [perform, perform, withoutStore_cut, withoutStore_cut, alike]
  | paste =>
      rw [perform, perform, paste, paste, withoutStore_act, withoutStore_act, alike, clipboard]
  | selectLanguage language =>
      have found := StoreAnswer.found.inj answers
      rw [perform, perform, selectLanguage, selectLanguage, withoutStore_act, withoutStore_act,
        alike, found]
  | openDocument handle =>
      have loaded := StoreAnswer.loaded.inj answers
      rw [perform, perform, withoutStore_openDocument, withoutStore_openDocument, alike, loaded]
  | restoreDraft =>
      have loaded := StoreAnswer.loaded.inj answers
      rw [perform, perform, withoutStore_restoreDraft, withoutStore_restoreDraft, alike, loaded]
  | saveAs handle =>
      have saved := StoreAnswer.saved.inj answers
      rw [perform, perform, withoutStore_saveAs, withoutStore_saveAs, alike, saved]
  | save =>
      have saved := StoreAnswer.saved.inj answers
      rw [perform, perform]
      cases placed : other.session.workbench.handle with
      | none =>
          rw [save_of_handle_none placed, save_of_handle_none (session ▸ placed)]
          exact alike
      | some handle =>
          rw [save_of_handle_some placed, save_of_handle_some (session ▸ placed)] at saved ⊢
          rw [withoutStore_saveAs, withoutStore_saveAs, alike, saved]

theorem withoutStore_operate {operation : EditorOperation}
    (alike : one.withoutStore = other.withoutStore)
    (answers : one.storeAnswer operation = other.storeAnswer operation) :
    (one.operate operation).withoutStore = (other.operate operation).withoutStore := by
  cases operation with
  | user action => exact withoutStore_perform alike answers
  | dispatch event =>
      rw [operate, operate, withoutStore_dispatch, withoutStore_dispatch, alike]
  | connect result =>
      rw [operate, operate, withoutStore_connect, withoutStore_connect, alike]
  | compile run =>
      rw [operate, operate, withoutStore_compile, withoutStore_compile, alike]
  | cancelCompile =>
      rw [operate, operate, withoutStore_cancelCompile, withoutStore_cancelCompile, alike]
  | pump => rw [operate, operate, withoutStore_pump, withoutStore_pump, alike]
  | surroundings clipboard bus queue tasks requests =>
      exact congrArg (operate · (.surroundings clipboard bus queue tasks requests)) alike

theorem withoutStore_operateAll {operations : List EditorOperation}
    (alike : one.withoutStore = other.withoutStore)
    (answers : one.storeAnswers operations = other.storeAnswers operations) :
    (one.operateAll operations).withoutStore = (other.operateAll operations).withoutStore := by
  induction operations generalizing one other with
  | nil => exact alike
  | cons operation rest induction =>
      rcases List.cons.inj answers with ⟨first, others⟩
      exact induction (withoutStore_operate alike first) others

end

/-! ## Documents that were saved -/

section

variable {editor saved : Editor σ} {handle : Text}

theorem saveAs_finished (finished : editor.saveAs handle = (.ok (), saved)) :
    DocumentStore.save editor.store handle editor.session.workbench.text =
        (.ok (), saved.store) ∧
      saved.session = editor.session.apply (.workbench (.documentSaved handle)) := by
  rcases answer : DocumentStore.save editor.store handle editor.session.workbench.text with
    ⟨_ | _, store⟩
  · rw [saveAs_of_error answer] at finished
    cases finished
  · rw [saveAs_of_ok answer] at finished
    cases finished
    have untouched : ({ editor with store }.act (.documentSaved handle)).store = store :=
      store_dispatch_of_same _ rfl
    exact ⟨by rw [untouched], session_dispatch _ _⟩

theorem openDocument_of_saveAs (keeps : DocumentStore.KeepsSaved editor.store)
    (finished : editor.saveAs handle = (.ok (), saved)) :
    saved.session.workbench.text = editor.session.workbench.text ∧
      (saved.openDocument handle).1 = .ok () ∧
      (saved.openDocument handle).2.session =
        { saved.session with
          workbench := { saved.session.workbench with
            selection := .cursor saved.session.workbench.text.byteLength } } := by
  rcases saveAs_finished finished with ⟨written, session⟩
  have text : saved.session.workbench.text = editor.session.workbench.text := by
    rw [session]
    rfl
  have loads := keeps _ _ _ written
  rw [← text] at loads
  refine ⟨text, ?_, ?_⟩
  · rw [openDocument_of_load loads]
  · rw [openDocument_of_load loads, act, session_dispatch, session]
    exact editor.session.apply_documentOpened_documentSaved handle

end

/-- An operation on a document that fails leaves an editor as it was but for its store,
so nothing is told either.  Without a place to save to, the store is not even asked.
Whether drafts are saved shows nowhere: whatever is done with two editors that are the
same but for their stores, they stay so if their stores answer alike to what is asked of
them.  And if the store keeps what it saves, then a document that was saved can be opened,
and nothing changes but that the cursor is at its end. -/
theorem failures_leave_session (editor : Editor σ) :
    (∀ handle error, (editor.openDocument handle).1 = .error error →
      (editor.openDocument handle).2 = editor) ∧
    (∀ handle error, (editor.saveAs handle).1 = .error error →
      ∃ store, (editor.saveAs handle).2 = { editor with store }) ∧
    (∀ error, editor.save.1 = .error error → ∃ store, editor.save.2 = { editor with store }) ∧
    (editor.restoreDraft.1 = false → editor.restoreDraft.2 = editor) ∧
    (editor.session.workbench.handle = none →
      editor.save = (.error (.noSaveTarget editor.session.workbench.suggestedName), editor)) ∧
    (∀ (τ : Type) [DocumentStore τ] (other : Editor τ) (operations : List EditorOperation),
      other.withoutStore = editor.withoutStore →
      other.storeAnswers operations = editor.storeAnswers operations →
      (other.operateAll operations).withoutStore =
        (editor.operateAll operations).withoutStore) ∧
    ∀ handle saved, DocumentStore.KeepsSaved editor.store →
      editor.saveAs handle = (.ok (), saved) ∨
        editor.session.workbench.handle = some handle ∧ editor.save = (.ok (), saved) →
      saved.session.workbench.text = editor.session.workbench.text ∧
        (saved.openDocument handle).1 = .ok () ∧
        (saved.openDocument handle).2.session =
          { saved.session with
            workbench := { saved.session.workbench with
              selection := .cursor saved.session.workbench.text.byteLength } } := by
  refine ⟨fun _ _ => openDocument_refused, fun _ _ => saveAs_refused, fun _ => save_refused,
    restoreDraft_refused, save_of_handle_none, ?_, ?_⟩
  · intro τ _ other operations alike answers
    exact withoutStore_operateAll alike answers
  · rintro handle saved keeps (finished | ⟨placed, finished⟩)
    · exact openDocument_of_saveAs keeps finished
    · rw [save_of_handle_some placed] at finished
      exact openDocument_of_saveAs keeps finished

def blockedEditor : Editor FileStore :=
  initial { EditorSettings.standard with draftName := "b".toList } FileStore.blockedStore
    fun _ _ => none

def freeEditor : Editor MemoryStore :=
  initial blockedEditor.settings ⟨[]⟩ fun _ _ => none

def typed : List EditorOperation :=
  [.user (.edit "aé".toList ⟨3, 0⟩)]

theorem failures_leave_session_blocked :
    let editor := blockedEditor.operateAll typed
    let free := freeEditor.operateAll typed
    DocumentStore.load editor.store "b".toList = .ok "old".toList ∧
      DocumentStore.load free.store "b".toList = .ok "aé".toList ∧
      free.withoutStore = editor.withoutStore ∧
      (editor.saveAs "b".toList).1 = .error (.file .isADirectory) ∧
      (∃ store, (editor.saveAs "b".toList).2 = { editor with store }) ∧
      editor.save = (.error (.noSaveTarget "Untitled.kt".toList), editor) ∧
      ∃ saved, editor.saveAs "c".toList = (.ok (), saved) ∧
        (saved.openDocument "c".toList).1 = .ok () ∧
        (saved.openDocument "c".toList).2.session.workbench.text = "aé".toList := by
  have refused : ((blockedEditor.operateAll typed).saveAs "b".toList).1 =
      .error (.file .isADirectory) := rfl
  have finished : (blockedEditor.operateAll typed).saveAs "c".toList =
      (.ok (), ((blockedEditor.operateAll typed).saveAs "c".toList).2) := rfl
  rcases failures_leave_session blockedEditor with ⟨_, _, _, _, _, runs, _⟩
  rcases failures_leave_session (blockedEditor.operateAll typed) with
    ⟨_, stopped, _, _, placeless, _, reopens⟩
  rcases reopens _ _ (FileStore.keepsSaved _) (.inl finished) with ⟨text, opened, session⟩
  refine ⟨rfl, rfl, runs MemoryStore freeEditor typed rfl rfl, refused, stopped _ _ refused,
    placeless rfl, _, finished, opened, ?_⟩
  rw [session]
  exact text

end Editor

end LiveEditor
