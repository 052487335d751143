import LiveEditor.Editor.Background
import LiveEditor.Proofs.Session.Interleaving

/-! # Operations of an editor

What the operations of an editor do to its session, its queue and its tasks.
An event that is dispatched changes the session, the store and the bus.  What a
user does apart from compiling and probing leaves the monitor, the queue and
the tasks as they are.
-/

namespace LiveEditor

inductive UserAction where
  | act (event : WorkbenchEvent)
  | edit (text : Text) (selection : Selection)
  | copy
  | cut
  | paste
  | selectLanguage (language : Language)
  | newDocument
  | openDocument (handle : Text)
  | saveAs (handle : Text)
  | save
  | restoreDraft

namespace Editor

variable {σ : Type}

/-! ## What does not touch the background -/

/-- What an editor and a later one have in common when the bridge and its tasks
have not been touched. -/
structure SameBackground (before after : Editor σ) : Prop where
  monitor : after.session.monitor = before.session.monitor
  errors : after.session.errors.lines ⊆ before.session.errors.lines
  queue : after.queue = before.queue
  tasks : after.tasks = before.tasks
  compileTask : after.compileTask = before.compileTask
  nextTask : after.nextTask = before.nextTask
  nextGeneration : after.nextGeneration = before.nextGeneration

namespace SameBackground

theorem surroundings (editor : Editor σ) (store : σ) (clipboard : Option Text) (bus : Bus) :
    SameBackground editor { editor with store, clipboard, bus } :=
  ⟨rfl, List.Subset.refl _, rfl, rfl, rfl, rfl, rfl⟩

theorem refl (editor : Editor σ) : SameBackground editor editor :=
  surroundings editor editor.store editor.clipboard editor.bus

theorem trans {first second third : Editor σ} (before : SameBackground first second)
    (after : SameBackground second third) : SameBackground first third where
  monitor := after.monitor.trans before.monitor
  errors := List.Subset.trans after.errors before.errors
  queue := after.queue.trans before.queue
  tasks := after.tasks.trans before.tasks
  compileTask := after.compileTask.trans before.compileTask
  nextTask := after.nextTask.trans before.nextTask
  nextGeneration := after.nextGeneration.trans before.nextGeneration

end SameBackground

/-! ## Tasks -/

def hold (editor : Editor σ) (id : Nat) (held : Bool) : Editor σ :=
  { editor with
    tasks := editor.tasks.map fun task =>
      if task.id == id then { task with held } else task }

def abortable? (editor : Editor σ) : Option Nat :=
  if editor.isCompileRunning then editor.compileTask else none

def nextReport? (editor : Editor σ) (id : Nat) : Option BridgeEvent :=
  (editor.tasks.find? fun task => task.id == id).bind fun task => task.remaining.head?

theorem report_of_nextReport?_none {editor : Editor σ} {id : Nat}
    (silent : editor.nextReport? id = none) : editor.report id = editor := by
  rw [nextReport?] at silent
  rw [report]
  split
  · rfl
  · next task found =>
      rw [found, Option.bind_some, List.head?_eq_none_iff] at silent
      rw [silent]

theorem exists_report_eq {editor : Editor σ} {id : Nat} {event : BridgeEvent}
    (reports : editor.nextReport? id = some event) :
    ∃ task ∈ editor.tasks, task.id = id ∧ ∃ remaining,
      task.remaining = event :: remaining ∧
        editor.report id =
          { editor with
            tasks := editor.tasks.map fun other =>
              if other.id == id then { other with remaining } else other
            queue := editor.queue ++ [event] } := by
  rw [nextReport?] at reports
  cases found : editor.tasks.find? fun task => task.id == id with
  | none =>
      rw [found] at reports
      cases reports
  | some task =>
      rw [found, Option.bind_some] at reports
      rcases List.head?_eq_some_iff.1 reports with ⟨remaining, split⟩
      refine ⟨task, List.mem_of_find?_eq_some found, ?_, remaining, split, ?_⟩
      · simpa using List.find?_some found
      · simp only [report, found, split]

variable [DocumentStore σ]

def perform (editor : Editor σ) : UserAction → Editor σ
  | .act event => editor.act event
  | .edit text selection => editor.edit text selection
  | .copy => editor.copy
  | .cut => editor.cut
  | .paste => editor.paste
  | .selectLanguage language => editor.selectLanguage language
  | .newDocument => editor.newDocument
  | .openDocument handle => (editor.openDocument handle).2
  | .saveAs handle => (editor.saveAs handle).2
  | .save => editor.save.2
  | .restoreDraft => editor.restoreDraft.2

/-! ## Dispatching -/

/-- Only the store is open: it is for the store to say what it makes of the draft. -/
theorem exists_dispatch_eq (editor : Editor σ) (event : SessionEvent) :
    ∃ store, editor.dispatch event =
      { editor with
        session := editor.session.apply event
        store
        bus := ((notification? editor.session.monitor event).toList ++
          [Notification.stateChanged]).foldl Bus.emit editor.bus } := by
  rw [dispatch]
  dsimp only
  split
  · exact ⟨_, rfl⟩
  · exact ⟨_, rfl⟩

section

variable (editor : Editor σ) (event : SessionEvent)

@[simp] theorem session_dispatch :
    (editor.dispatch event).session = editor.session.apply event := by
  rcases editor.exists_dispatch_eq event with ⟨store, equal⟩
  rw [equal]

@[simp] theorem clipboard_dispatch : (editor.dispatch event).clipboard = editor.clipboard := by
  rcases editor.exists_dispatch_eq event with ⟨store, equal⟩
  rw [equal]

@[simp] theorem queue_dispatch : (editor.dispatch event).queue = editor.queue := by
  rcases editor.exists_dispatch_eq event with ⟨store, equal⟩
  rw [equal]

@[simp] theorem tasks_dispatch : (editor.dispatch event).tasks = editor.tasks := by
  rcases editor.exists_dispatch_eq event with ⟨store, equal⟩
  rw [equal]

@[simp] theorem compileTask_dispatch :
    (editor.dispatch event).compileTask = editor.compileTask := by
  rcases editor.exists_dispatch_eq event with ⟨store, equal⟩
  rw [equal]

@[simp] theorem nextTask_dispatch : (editor.dispatch event).nextTask = editor.nextTask := by
  rcases editor.exists_dispatch_eq event with ⟨store, equal⟩
  rw [equal]

@[simp] theorem nextGeneration_dispatch :
    (editor.dispatch event).nextGeneration = editor.nextGeneration := by
  rcases editor.exists_dispatch_eq event with ⟨store, equal⟩
  rw [equal]

theorem dispatch_withQueue (queue : List BridgeEvent) :
    ({ editor with queue }).dispatch event = { editor.dispatch event with queue } := by
  simp only [dispatch]
  split <;> rfl

end

def dispatchAll (editor : Editor σ) (events : List SessionEvent) : Editor σ :=
  events.foldl dispatch editor

theorem dispatchAll_append_singleton (editor : Editor σ) (events : List SessionEvent)
    (event : SessionEvent) :
    editor.dispatchAll (events ++ [event]) = (editor.dispatchAll events).dispatch event :=
  List.foldl_append

theorem pump_eq (editor : Editor σ) :
    editor.pump.2 = { editor with queue := [] }.dispatchAll (editor.queue.map .bridge) := by
  rw [dispatchAll, List.foldl_map]
  rfl

/-! ## Documents -/

section

variable {editor : Editor σ} {handle text : Text} {error : FileError} {store : σ}

theorem openDocument_of_load (found : DocumentStore.load editor.store handle = .ok text) :
    editor.openDocument handle = (.ok (), editor.act (.documentOpened handle text)) := by
  rw [openDocument, found]

theorem restoreDraft_of_load
    (found : DocumentStore.load editor.store editor.settings.draftName = .ok text) :
    editor.restoreDraft = (true, editor.act (.draftRestored text)) := by
  rw [restoreDraft, found]

theorem openDocument_of_error (refused : DocumentStore.load editor.store handle = .error error) :
    editor.openDocument handle = (.error (.file error), editor) := by
  rw [openDocument, refused]

theorem restoreDraft_of_error
    (refused : DocumentStore.load editor.store editor.settings.draftName = .error error) :
    editor.restoreDraft = (false, editor) := by
  rw [restoreDraft, refused]

theorem saveAs_of_error
    (refused : DocumentStore.save editor.store handle editor.session.workbench.text =
      (.error error, store)) :
    editor.saveAs handle = (.error (.file error), { editor with store }) := by
  rw [saveAs, refused]

theorem saveAs_of_ok
    (written : DocumentStore.save editor.store handle editor.session.workbench.text =
      (.ok (), store)) :
    editor.saveAs handle = (.ok (), { editor with store }.act (.documentSaved handle)) := by
  rw [saveAs, written]

theorem save_of_handle_none (placeless : editor.session.workbench.handle = none) :
    editor.save =
      (.error (.noSaveTarget editor.session.workbench.suggestedName), editor) := by
  rw [save, placeless]

theorem save_of_handle_some (placed : editor.session.workbench.handle = some handle) :
    editor.save = editor.saveAs handle := by
  rw [save, placed]

end

/-! ## Actions of the user -/

/-- What an action of the user may do before an event of the workbench happens. -/
inductive Prepares (editor : Editor σ) : Editor σ → Prop
  | nothing : Prepares editor editor
  | copied (selected : Text) : Prepares editor { editor with clipboard := some selected }
  | saved (handle : Text) : Prepares editor { editor with
      store := (DocumentStore.save editor.store handle editor.session.workbench.text).2 }

theorem saveAs_cases (editor : Editor σ) (handle : Text) :
    ∃ prepared, editor.Prepares prepared ∧ ((editor.saveAs handle).2 = prepared ∨
      ∃ event, (editor.saveAs handle).2 = prepared.act event) := by
  refine ⟨_, .saved handle, ?_⟩
  rcases answer : DocumentStore.save editor.store handle editor.session.workbench.text with
    ⟨_ | _, store⟩
  · exact .inl (by rw [saveAs_of_error answer])
  · exact .inr ⟨.documentSaved handle, by rw [saveAs_of_ok answer]⟩

/-- An action of the user is an event of the workbench, if one happens at all, behind at
most one change of the store or of the clipboard. -/
theorem perform_cases (editor : Editor σ) (action : UserAction) :
    ∃ prepared, editor.Prepares prepared ∧ (editor.perform action = prepared ∨
      ∃ event, editor.perform action = prepared.act event) := by
  cases action with
  | act | edit | paste | selectLanguage | newDocument =>
      exact ⟨editor, .nothing, .inr ⟨_, rfl⟩⟩
  | copy =>
      rw [perform, copy]
      split
      · exact ⟨editor, .nothing, .inl rfl⟩
      · next selected _ => exact ⟨_, .copied selected, .inl rfl⟩
  | cut =>
      rw [perform, cut]
      split
      · exact ⟨editor, .nothing, .inl rfl⟩
      · next selected _ => exact ⟨_, .copied selected, .inr ⟨.cut, rfl⟩⟩
  | openDocument handle =>
      rw [perform, openDocument]
      split
      · exact ⟨editor, .nothing, .inl rfl⟩
      · exact ⟨editor, .nothing, .inr ⟨_, rfl⟩⟩
  | saveAs handle => exact editor.saveAs_cases handle
  | save =>
      rw [perform, save]
      split
      · exact ⟨editor, .nothing, .inl rfl⟩
      · exact editor.saveAs_cases _
  | restoreDraft =>
      rw [perform, restoreDraft]
      split
      · exact ⟨editor, .nothing, .inl rfl⟩
      · exact ⟨editor, .nothing, .inr ⟨_, rfl⟩⟩

theorem Prepares.sameBackground {editor prepared : Editor σ}
    (prepares : editor.Prepares prepared) : SameBackground editor prepared := by
  cases prepares with
  | nothing => exact .refl editor
  | copied selected => exact .surroundings editor editor.store (some selected) editor.bus
  | saved => exact .surroundings editor _ editor.clipboard editor.bus

theorem sameBackground_act (editor : Editor σ) (event : WorkbenchEvent) :
    SameBackground editor (editor.act event) where
  monitor := by rw [act, session_dispatch]; rfl
  errors := by
    rw [act, session_dispatch]
    exact editor.session.errors_workbench_subset event
  queue := editor.queue_dispatch _
  tasks := editor.tasks_dispatch _
  compileTask := editor.compileTask_dispatch _
  nextTask := editor.nextTask_dispatch _
  nextGeneration := editor.nextGeneration_dispatch _

theorem sameBackground_perform (editor : Editor σ) (action : UserAction) :
    SameBackground editor (editor.perform action) := by
  rcases editor.perform_cases action with ⟨prepared, prepares, equal | ⟨event, equal⟩⟩
  · rw [equal]
    exact prepares.sameBackground
  · rw [equal]
    exact prepares.sameBackground.trans (prepared.sameBackground_act event)

/-! ## Compilations and probes -/

section

variable (editor : Editor σ)

theorem session_cancelCompile :
    editor.cancelCompile.session =
      if editor.isCompileRunning then
        editor.session.apply
          (.bridge (.compileCancelled editor.session.monitor.generation))
      else
        editor.session := by
  rw [cancelCompile]
  split
  · exact session_dispatch _ _
  · rfl

theorem tasks_cancelCompile_sublist :
    editor.cancelCompile.tasks.Sublist editor.tasks := by
  rw [cancelCompile]
  split
  · rw [tasks_dispatch]
    exact List.filter_sublist
  · exact List.Sublist.refl _

@[simp] theorem queue_cancelCompile : editor.cancelCompile.queue = editor.queue := by
  rw [cancelCompile]
  split
  · exact queue_dispatch _ _
  · rfl

@[simp] theorem compileTask_cancelCompile : editor.cancelCompile.compileTask = none := by
  rw [cancelCompile]
  split
  · exact compileTask_dispatch _ _
  · rfl

@[simp] theorem nextTask_cancelCompile :
    editor.cancelCompile.nextTask = editor.nextTask := by
  rw [cancelCompile]
  split
  · exact nextTask_dispatch _ _
  · rfl

@[simp] theorem nextGeneration_cancelCompile :
    editor.cancelCompile.nextGeneration = editor.nextGeneration := by
  rw [cancelCompile]
  split
  · exact nextGeneration_dispatch _ _
  · rfl

variable (run : CompileRun)

def spawnCompile (generation : Nat) : Editor σ :=
  let bench := editor.session.workbench
  { (editor.spawn (.compile bench.fileName bench.text) (compileEvents generation run)
      run.result.isNone).2 with
    compileTask := some editor.nextTask }

theorem compile_eq :
    editor.compile run =
      let cancelled := editor.cancelCompile
      let numbered := { cancelled with nextGeneration := cancelled.nextGeneration + 1 }
      (numbered.dispatch (.bridge (.compileStarted cancelled.nextGeneration))).spawnCompile run
        cancelled.nextGeneration := rfl

theorem session_compile :
    (editor.compile run).session = editor.cancelCompile.session.apply
      (.bridge (.compileStarted editor.nextGeneration)) := by
  simp [compile, spawn]

theorem tasks_compile :
    ∃ request, (editor.compile run).tasks = editor.cancelCompile.tasks ++
      [⟨editor.nextTask, some request, compileEvents editor.nextGeneration run,
        run.result.isNone⟩] := by
  simp [compile, spawn]

@[simp] theorem queue_compile : (editor.compile run).queue = editor.queue := by
  simp [compile, spawn]

@[simp] theorem compileTask_compile :
    (editor.compile run).compileTask = some editor.nextTask := by
  simp [compile, spawn]

@[simp] theorem nextTask_compile :
    (editor.compile run).nextTask = editor.nextTask + 1 := by
  simp [compile, spawn]

@[simp] theorem nextGeneration_compile :
    (editor.compile run).nextGeneration = editor.nextGeneration + 1 := by
  simp [compile, spawn]

theorem connect_eq (result : Except BridgeError Unit) :
    editor.connect result =
      let probing := editor.dispatch (.bridge .connectStarted)
      { probing with
        tasks := editor.tasks ++
          [⟨editor.nextTask, some .health, [probeEvent result], false⟩]
        nextTask := editor.nextTask + 1 } := by
  simp [connect, spawn]

/-! ## Taking events out of the queue -/

theorem takeNext_of_queue_nil (empty : editor.queue = []) :
    editor.takeNext = (false, editor) := by
  rw [takeNext, empty]

theorem takeNext_of_queue_cons {event : BridgeEvent} {rest : List BridgeEvent}
    (waiting : editor.queue = event :: rest) :
    editor.takeNext =
      (true, { editor.dispatch (.bridge event) with queue := rest }) := by
  rw [takeNext, waiting]
  exact congrArg (Prod.mk true) (dispatch_withQueue editor _ rest)

theorem pump_of_queue_nil (empty : editor.queue = []) : editor.pump.2 = editor := by
  rw [pump, empty]
  exact congrArg (fun queue => { editor with queue }) empty.symm

/-- To pump is to take one event out, and to pump again. -/
theorem pump_of_queue_cons {event : BridgeEvent} {rest : List BridgeEvent}
    (waiting : editor.queue = event :: rest) :
    editor.pump.2 = editor.takeNext.2.pump.2 := by
  rw [takeNext_of_queue_cons editor waiting, pump, pump, waiting, List.foldl_cons,
    dispatch_withQueue]

end

end Editor

end LiveEditor
