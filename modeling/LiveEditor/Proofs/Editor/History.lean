import LiveEditor.Proofs.Editor.Operations
import LiveEditor.Proofs.Session.Output

/-! # Histories of an editor

An editor and its tasks take steps in any order.  A history goes along with
them and notes which task has reported what, and which tasks were aborted.  The
books stay in order: every event in the queue was put there by its task, and
the task of a generation is the one that was started for it.
-/

namespace LiveEditor

inductive EditorStep (σ : Type) where
  | user (action : UserAction)
  | surroundings (store : σ) (clipboard : Option Text) (bus : Bus)
  | compile (run : CompileRun)
  | cancelCompile
  | connect (result : Except BridgeError Unit)
  | takeNext
  | pump
  | sendRequests (received : Request → List Request)
  | report (task : Nat)
  | hold (task : Nat) (held : Bool)

structure Report where
  task : Nat
  event : BridgeEvent

structure History (σ : Type) where
  editor : Editor σ
  compilations : List Nat := []
  aborted : List Nat := []
  taken : List Report := []
  waiting : List Report := []

namespace History

variable {σ : Type}

/-! ## Who reports what -/

def Owns (compilations : List Nat) (task : Nat) : BridgeEvent → Prop
  | .connectFinished _ => task ∉ compilations
  | .compileLine generation _ | .compileFinished generation _ =>
      0 < generation ∧ compilations[generation - 1]? = some task
  | .connectStarted | .compileStarted _ | .compileCancelled _ => False

theorem Owns.append {compilations : List Nat} {task : Nat} {event : BridgeEvent}
    (owns : Owns compilations task event) {new : Nat} (older : task < new) :
    Owns (compilations ++ [new]) task event := by
  have kept : ∀ {generation : Nat}, 0 < generation ∧ compilations[generation - 1]? = some task →
      0 < generation ∧ (compilations ++ [new])[generation - 1]? = some task := by
    rintro generation ⟨positive, found⟩
    have inside := (List.getElem?_eq_some_iff.1 found).1
    exact ⟨positive, by rw [List.getElem?_append_left inside, found]⟩
  cases event with
  | connectStarted | compileStarted | compileCancelled => exact owns
  | connectFinished result =>
      have fresh : task ∉ compilations := owns
      simp only [Owns, List.mem_append, List.mem_singleton, not_or]
      exact ⟨fresh, Nat.ne_of_lt older⟩
  | compileLine | compileFinished => exact kept owns

theorem Owns.unstarted {compilations : List Nat} {task : Nat} {event : BridgeEvent}
    (owns : Owns compilations task event) : event.started? = none := by
  cases event with
  | compileStarted => exact owns.elim
  | connectStarted | connectFinished | compileLine | compileFinished | compileCancelled => rfl

theorem Owns.le_length {compilations : List Nat} {task : Nat} {event : BridgeEvent}
    (owns : Owns compilations task event) {generation : Nat}
    (belongs : event.generation? = some generation) : generation ≤ compilations.length := by
  have bound : ∀ {other : Nat}, 0 < other ∧ compilations[other - 1]? = some task →
      other ≤ compilations.length := by
    rintro other ⟨positive, found⟩
    have inside := (List.getElem?_eq_some_iff.1 found).1
    omega
  cases event with
  | connectStarted | connectFinished => cases belongs
  | compileStarted | compileCancelled => exact owns.elim
  | compileLine | compileFinished =>
      cases belongs
      exact bound owns

/-- A task of a compilation reports on its own generation. -/
theorem Owns.reports {compilations : List Nat} {task : Nat} {event : BridgeEvent}
    (owns : Owns compilations task event) (compiles : task ∈ compilations) :
    ∃ generation, event.reported? = some generation ∧ 0 < generation ∧
      compilations[generation - 1]? = some task := by
  cases event with
  | connectStarted | compileStarted | compileCancelled => exact owns.elim
  | connectFinished => exact absurd compiles owns
  | compileLine | compileFinished => exact ⟨_, rfl, owns⟩

/-! ## The books -/

/-- The numbers of tasks and generations are in order, and each event is where
its task has put it. -/
structure Tracks (history : History σ) : Prop where
  queue : history.editor.queue = history.waiting.map Report.event
  generation : history.editor.session.monitor.generation = history.compilations.length
  nextGeneration : history.editor.nextGeneration = history.compilations.length + 1
  compileTask : ∀ task ∈ history.editor.compileTask,
    history.compilations.getLast? = some task
  older : ∀ task ∈ history.compilations, task < history.editor.nextTask
  distinct : history.compilations.Nodup
  identified : (history.editor.tasks.map BackgroundTask.id).Nodup
  tasks : ∀ task ∈ history.editor.tasks, task.id < history.editor.nextTask ∧
    ∀ event ∈ task.remaining, Owns history.compilations task.id event
  reports : ∀ report ∈ history.taken ++ history.waiting,
    report.task < history.editor.nextTask ∧
      Owns history.compilations report.task report.event

/-- What an editor and a later one have in common when no task and no report
has come in between. -/
structure AddsNothing (before after : Editor σ) : Prop where
  queue : after.queue = before.queue
  generation : after.session.monitor.generation = before.session.monitor.generation
  nextGeneration : after.nextGeneration = before.nextGeneration
  nextTask : after.nextTask = before.nextTask
  compileTask : ∀ task ∈ after.compileTask, task ∈ before.compileTask
  ids : (after.tasks.map BackgroundTask.id).Sublist (before.tasks.map BackgroundTask.id)
  tasks : ∀ task ∈ after.tasks, ∃ earlier ∈ before.tasks,
    task.id = earlier.id ∧ task.remaining = earlier.remaining

theorem addsNothing_of_sameBackground {before after : Editor σ}
    (same : Editor.SameBackground before after) : AddsNothing before after where
  queue := same.queue
  generation := congrArg Monitor.generation same.monitor
  nextGeneration := same.nextGeneration
  nextTask := same.nextTask
  compileTask := by
    rw [same.compileTask]
    exact fun _ latest => latest
  ids := by simp [same.tasks]
  tasks := by
    rw [same.tasks]
    exact fun task member => ⟨task, member, rfl, rfl⟩

theorem map_id_map (tasks : List BackgroundTask) {change : BackgroundTask → BackgroundTask}
    (same : ∀ task, (change task).id = task.id) :
    (tasks.map change).map BackgroundTask.id = tasks.map BackgroundTask.id := by
  rw [List.map_map]
  exact List.map_congr_left fun task _ => same task

theorem addsNothing_map (editor : Editor σ) {change : BackgroundTask → BackgroundTask}
    (same : ∀ task, (change task).id = task.id ∧ (change task).remaining = task.remaining)
    (requests : List Request) :
    AddsNothing editor { editor with tasks := editor.tasks.map change, requests } where
  queue := rfl
  generation := rfl
  nextGeneration := rfl
  nextTask := rfl
  compileTask := fun _ latest => latest
  ids := by simp [map_id_map _ fun task => (same task).1]
  tasks := by
    intro task member
    rcases List.mem_map.1 member with ⟨earlier, inside, rfl⟩
    exact ⟨earlier, inside, same earlier⟩

namespace Tracks

variable {history : History σ}

theorem addsNothing (tracks : history.Tracks) {after : Editor σ}
    (addsNothing : AddsNothing history.editor after) (aborted : List Nat) :
    Tracks { history with editor := after, aborted } where
  queue := addsNothing.queue.trans tracks.queue
  generation := addsNothing.generation.trans tracks.generation
  nextGeneration := addsNothing.nextGeneration.trans tracks.nextGeneration
  compileTask := fun task latest =>
    tracks.compileTask task (addsNothing.compileTask task latest)
  older := by
    rw [addsNothing.nextTask]
    exact tracks.older
  distinct := tracks.distinct
  identified := tracks.identified.sublist addsNothing.ids
  tasks := by
    rw [addsNothing.nextTask]
    intro task member
    rcases addsNothing.tasks task member with ⟨earlier, inside, id, remaining⟩
    rw [id, remaining]
    exact tracks.tasks earlier inside
  reports := by
    rw [addsNothing.nextTask]
    exact tracks.reports

theorem sameBackground (tracks : history.Tracks) {after : Editor σ}
    (same : Editor.SameBackground history.editor after) :
    Tracks { history with editor := after } :=
  tracks.addsNothing (addsNothing_of_sameBackground same) history.aborted

theorem nextTask_not_mem (tracks : history.Tracks) :
    history.editor.nextTask ∉ history.compilations := fun member =>
  Nat.lt_irrefl _ (tracks.older _ member)

theorem owns_waiting (tracks : history.Tracks) {report : Report}
    (waits : report ∈ history.waiting) :
    Owns history.compilations report.task report.event :=
  (tracks.reports report (List.mem_append_right _ waits)).2

theorem owns_compileEvents (tracks : history.Tracks) (run : CompileRun) :
    ∀ event ∈ Editor.compileEvents history.editor.nextGeneration run,
      Owns (history.compilations ++ [history.editor.nextTask]) history.editor.nextTask
        event := by
  have newest : 0 < history.editor.nextGeneration ∧
      (history.compilations ++ [history.editor.nextTask])[
        history.editor.nextGeneration - 1]? = some history.editor.nextTask := by
    rw [tracks.nextGeneration]
    exact ⟨Nat.succ_pos _, by simp⟩
  intro event member
  rcases List.mem_append.1 member with member | member
  · rcases List.mem_map.1 member with ⟨line, _, rfl⟩
    exact newest
  · rcases Option.map_eq_some_iff.1 (Option.mem_toList.1 member) with ⟨result, _, rfl⟩
    exact newest

theorem identified_append (tracks : history.Tracks) {tasks : List BackgroundTask}
    (sublist : tasks.Sublist history.editor.tasks) {task : BackgroundTask}
    (new : task.id = history.editor.nextTask) :
    ((tasks ++ [task]).map BackgroundTask.id).Nodup := by
  rw [List.map_append, List.nodup_append]
  refine ⟨tracks.identified.sublist (sublist.map _), by simp, ?_⟩
  intro id member other last
  rcases List.mem_map.1 member with ⟨earlier, inside, rfl⟩
  rw [List.map_singleton, List.mem_singleton, new] at last
  rw [last]
  exact Nat.ne_of_lt (tracks.tasks earlier (sublist.subset inside)).1

end Tracks

/-! ## Steps -/

def start (settings : EditorSettings) (store : σ)
    (grammars : σ → Text → Option Grammar) : History σ :=
  { editor := .initial settings store grammars }

theorem tracks_start (settings : EditorSettings) (store : σ)
    (grammars : σ → Text → Option Grammar) : (start settings store grammars).Tracks where
  queue := rfl
  generation := rfl
  nextGeneration := rfl
  compileTask := fun _ latest => by cases latest
  older := fun _ member => by cases member
  distinct := .nil
  identified := .nil
  tasks := fun _ member => by cases member
  reports := fun _ member => by cases member

variable [DocumentStore σ]

def step (history : History σ) : EditorStep σ → History σ
  | .user action => { history with editor := history.editor.perform action }
  | .surroundings store clipboard bus =>
      { history with editor := { history.editor with store, clipboard, bus } }
  | .compile run =>
      { history with
        editor := history.editor.compile run
        compilations := history.compilations ++ [history.editor.nextTask]
        aborted := history.aborted ++ history.editor.abortable?.toList }
  | .cancelCompile =>
      { history with
        editor := history.editor.cancelCompile
        aborted := history.aborted ++ history.editor.abortable?.toList }
  | .connect result => { history with editor := history.editor.connect result }
  | .takeNext =>
      { history with
        editor := history.editor.takeNext.2
        taken := history.taken ++ history.waiting.take 1
        waiting := history.waiting.drop 1 }
  | .pump =>
      { history with
        editor := history.editor.pump.2
        taken := history.taken ++ history.waiting
        waiting := [] }
  | .sendRequests received =>
      { history with editor := history.editor.sendRequests received }
  | .report task =>
      { history with
        editor := history.editor.report task
        waiting := history.waiting ++
          ((history.editor.nextReport? task).map (Report.mk task)).toList }
  | .hold task held => { history with editor := history.editor.hold task held }

def run (history : History σ) (steps : List (EditorStep σ)) : History σ :=
  steps.foldl step history

theorem addsNothing_cancelCompile (editor : Editor σ) :
    AddsNothing editor editor.cancelCompile where
  queue := editor.queue_cancelCompile
  generation := by
    rw [editor.session_cancelCompile]
    split
    · exact Monitor.generation_apply _ _
    · rfl
  nextGeneration := editor.nextGeneration_cancelCompile
  nextTask := editor.nextTask_cancelCompile
  compileTask := by simp
  ids := editor.tasks_cancelCompile_sublist.map _
  tasks := fun task member =>
    ⟨task, editor.tasks_cancelCompile_sublist.subset member, rfl, rfl⟩

namespace Tracks

variable {history : History σ}

theorem connect (tracks : history.Tracks) (result : Except BridgeError Unit) :
    (history.step (.connect result)).Tracks := by
  have later : ∀ {task : Nat}, task < history.editor.nextTask →
      task < history.editor.nextTask + 1 := fun below => Nat.lt_succ_of_lt below
  rw [step, Editor.connect_eq]
  refine
    { queue := (Editor.queue_dispatch _ _).trans tracks.queue
      generation := ?_
      nextGeneration := (Editor.nextGeneration_dispatch _ _).trans tracks.nextGeneration
      compileTask := ?_
      older := fun task member => later (tracks.older task member)
      distinct := tracks.distinct
      identified := tracks.identified_append (List.Sublist.refl _) rfl
      tasks := ?_
      reports := fun report member =>
        ⟨later (tracks.reports report member).1, (tracks.reports report member).2⟩ }
  · simpa [Session.apply, Monitor.apply] using tracks.generation
  · simpa using tracks.compileTask
  · intro task member
    rcases List.mem_append.1 member with member | member
    · exact ⟨later (tracks.tasks task member).1, (tracks.tasks task member).2⟩
    · cases List.mem_singleton.1 member
      refine ⟨Nat.lt_succ_self _, ?_⟩
      intro event reported
      cases List.mem_singleton.1 reported
      exact tracks.nextTask_not_mem

/-- A compilation that starts has a new task, which owns the events of a new
generation. -/
theorem compile (tracks : history.Tracks) (run : CompileRun) :
    (history.step (.compile run)).Tracks := by
  have sublist := history.editor.tasks_cancelCompile_sublist
  have older := tracks.older
  rcases history.editor.tasks_compile run with ⟨request, tasks⟩
  rw [step]
  refine
    { queue := (Editor.queue_compile _ _).trans tracks.queue, generation := ?_,
      nextGeneration := ?_, compileTask := ?_, older := ?_, distinct := ?_,
      identified := ?_, tasks := ?_, reports := ?_ }
  · rw [Editor.session_compile]
    change history.editor.nextGeneration = _
    rw [tracks.nextGeneration, List.length_append, List.length_singleton]
  · rw [Editor.nextGeneration_compile, tracks.nextGeneration, List.length_append,
      List.length_singleton]
  · simp
  · intro task member
    rw [Editor.nextTask_compile]
    rcases List.mem_append.1 member with member | member
    · exact Nat.lt_succ_of_lt (older task member)
    · rw [List.mem_singleton.1 member]
      exact Nat.lt_succ_self _
  · -- Numbers of tasks only grow, so the new one is not among the earlier ones.
    rw [List.nodup_append]
    refine ⟨tracks.distinct, by simp, ?_⟩
    intro task member other new
    rw [List.mem_singleton.1 new]
    exact Nat.ne_of_lt (older task member)
  · rw [tasks]
    exact tracks.identified_append sublist rfl
  · intro task member
    rw [Editor.nextTask_compile]
    rw [tasks] at member
    rcases List.mem_append.1 member with member | member
    · have known := tracks.tasks task (sublist.subset member)
      exact ⟨Nat.lt_succ_of_lt known.1, fun event reported =>
        (known.2 event reported).append known.1⟩
    · cases List.mem_singleton.1 member
      exact ⟨Nat.lt_succ_self _, tracks.owns_compileEvents run⟩
  · intro report member
    rw [Editor.nextTask_compile]
    have known := tracks.reports report member
    exact ⟨Nat.lt_succ_of_lt known.1, known.2.append known.1⟩

theorem report (tracks : history.Tracks) (id : Nat) :
    (history.step (.report id)).Tracks := by
  rw [step]
  cases next : history.editor.nextReport? id with
  | none =>
      rw [Editor.report_of_nextReport?_none next, Option.map_none, Option.toList_none,
        List.append_nil]
      exact tracks
  | some event =>
      rcases Editor.exists_report_eq next with
        ⟨task, member, rfl, remaining, split, equal⟩
      have known := tracks.tasks task member
      rw [split] at known
      rw [equal]
      refine
        { queue := ?_, generation := tracks.generation
          nextGeneration := tracks.nextGeneration, compileTask := tracks.compileTask
          older := tracks.older, distinct := tracks.distinct
          identified := ?_, tasks := ?_, reports := ?_ }
      · simp [tracks.queue]
      · rw [map_id_map]
        · exact tracks.identified
        · intro other
          split <;> rfl
      · intro changed inside
        rcases List.mem_map.1 inside with ⟨other, before, rfl⟩
        by_cases same : other.id = task.id
        · simp only [same, beq_self_eq_true, if_true]
          exact ⟨known.1, fun later reported =>
            known.2 later (List.mem_cons_of_mem event reported)⟩
        · simpa [same] using tracks.tasks other before
      · intro report inside
        rw [← List.append_assoc] at inside
        rcases List.mem_append.1 inside with before | last
        · exact tracks.reports report before
        · cases List.mem_singleton.1 last
          exact ⟨known.1, known.2 event List.mem_cons_self⟩

end Tracks

/-! ## Taking out -/

variable {history : History σ}

theorem step_takeNext_of_nil (tracks : history.Tracks) (empty : history.waiting = []) :
    history.step .takeNext = history := by
  have queue : history.editor.queue = [] := by rw [tracks.queue, empty]; rfl
  simp only [step, Editor.takeNext_of_queue_nil _ queue, empty, List.take_nil,
    List.drop_nil, List.append_nil]
  exact congrArg (fun waiting => { history with waiting }) empty.symm

theorem step_takeNext_of_cons (tracks : history.Tracks) {report : Report}
    {rest : List Report} (waiting : history.waiting = report :: rest) :
    history.step .takeNext =
      { history with
        editor :=
          { history.editor.dispatch (.bridge report.event) with
            queue := rest.map Report.event }
        taken := history.taken ++ [report]
        waiting := rest } := by
  have queue : history.editor.queue = report.event :: rest.map Report.event := by
    rw [tracks.queue, waiting]; rfl
  rw [step, Editor.takeNext_of_queue_cons _ queue, waiting]
  rfl

theorem Tracks.takeNext (tracks : history.Tracks) : (history.step .takeNext).Tracks := by
  cases waiting : history.waiting with
  | nil => rwa [step_takeNext_of_nil tracks waiting]
  | cons report rest =>
      have owns := tracks.owns_waiting (waiting ▸ List.mem_cons_self)
      rw [step_takeNext_of_cons tracks waiting]
      refine
        { queue := rfl, generation := ?_, nextGeneration := ?_, compileTask := ?_,
          older := ?_, distinct := tracks.distinct, identified := ?_, tasks := ?_,
          reports := ?_ }
      · simp only [Editor.session_dispatch]
        refine (Monitor.generation_apply _ _).trans ?_
        rw [owns.unstarted]
        exact tracks.generation
      · exact (Editor.nextGeneration_dispatch _ _).trans tracks.nextGeneration
      · simpa using tracks.compileTask
      · simpa using tracks.older
      · simpa using tracks.identified
      · simpa using tracks.tasks
      · simpa [waiting] using tracks.reports

theorem step_pump_of_nil (tracks : history.Tracks) (empty : history.waiting = []) :
    history.step .pump = history := by
  have queue : history.editor.queue = [] := by rw [tracks.queue, empty]; rfl
  simp only [step, Editor.pump_of_queue_nil _ queue, empty, List.append_nil]
  exact congrArg (fun waiting => { history with waiting }) empty.symm

theorem step_pump_of_cons (tracks : history.Tracks) {report : Report}
    {rest : List Report} (waiting : history.waiting = report :: rest) :
    history.step .pump = (history.step .takeNext).step .pump := by
  have queue : history.editor.queue = report.event :: rest.map Report.event := by
    rw [tracks.queue, waiting]; rfl
  simp only [step, Editor.pump_of_queue_cons _ queue, waiting, List.take_succ_cons,
    List.take_zero, List.drop_succ_cons, List.drop_zero, List.append_assoc,
    List.singleton_append]

/-- What holds whenever an event is taken out, holds behind pumping. -/
theorem step_pump_induction (holds : History σ → Prop)
    (tracks : ∀ {history : History σ}, holds history → history.Tracks)
    (takeNext : ∀ {history : History σ}, holds history → holds (history.step .takeNext))
    (before : holds history) : holds (history.step .pump) := by
  -- Each event that is taken out leaves a shorter queue to pump.
  induction waiting : history.waiting generalizing history with
  | nil => rwa [step_pump_of_nil (tracks before) waiting]
  | cons report rest hypothesis =>
      rw [step_pump_of_cons (tracks before) waiting]
      refine hypothesis (takeNext before) ?_
      rw [step_takeNext_of_cons (tracks before) waiting]

namespace Tracks

theorem step (tracks : history.Tracks) (step : EditorStep σ) :
    (history.step step).Tracks := by
  cases step with
  | user action =>
      exact tracks.sameBackground (history.editor.sameBackground_perform action)
  | surroundings store clipboard bus =>
      exact tracks.sameBackground (.surroundings history.editor store clipboard bus)
  | compile run => exact tracks.compile run
  | cancelCompile => exact tracks.addsNothing (addsNothing_cancelCompile history.editor) _
  | connect result => exact tracks.connect result
  | takeNext => exact tracks.takeNext
  | pump => exact step_pump_induction Tracks id takeNext tracks
  | sendRequests received =>
      apply tracks.addsNothing
      apply addsNothing_map
      exact fun _ => ⟨rfl, rfl⟩
  | report id => exact tracks.report id
  | hold id held =>
      apply tracks.addsNothing
      apply addsNothing_map
      intro task
      split <;> exact ⟨rfl, rfl⟩

theorem run (tracks : history.Tracks) (steps : List (EditorStep σ)) :
    (history.run steps).Tracks := by
  induction steps generalizing history with
  | nil => exact tracks
  | cons first rest hypothesis => exact hypothesis (tracks.step first)

end Tracks

end History

end LiveEditor
