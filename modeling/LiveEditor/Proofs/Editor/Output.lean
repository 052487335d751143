import LiveEditor.Proofs.Editor.Waiting
import LiveEditor.Proofs.Session.Output

/-! # What an editor shows of its compilations

The output shows the lines of the latest compilation up to some line, and the
error lines come from these.  While the indicator shows the compilation, what
is missing from its lines is what still waits in the queue.
-/

namespace LiveEditor.History

variable {σ : Type}

def linesOf (task? : Option Nat) (reports : List Report) : List StreamLine :=
  reports.filterMap fun report =>
    if task? = some report.task then report.event.line? else none

def sentLines (history : History σ) : List StreamLine :=
  linesOf history.compilations.getLast? (history.taken ++ history.waiting)

/-- Whether a task was aborted, or belongs to a compilation that was superseded
by a later one. -/
def isRetired (history : History σ) (task : Nat) : Bool :=
  history.aborted.contains task || history.compilations.dropLast.contains task

theorem linesOf_append (task? : Option Nat) (front back : List Report) :
    linesOf task? (front ++ back) = linesOf task? front ++ linesOf task? back :=
  List.filterMap_append

theorem linesOf_eq_nil {task : Nat} {reports : List Report}
    (others : ∀ report ∈ reports, report.task ≠ task) :
    linesOf (some task) reports = [] := by
  rw [linesOf, List.filterMap_eq_nil_iff]
  intro report member
  exact if_neg fun same => others report member (Option.some.inj same).symm

/-! ## The latest compilation -/

namespace Tracks

variable {history : History σ}

/-- The generation that the monitor knows is the one of the latest task. -/
theorem latest_iff (tracks : history.Tracks) {task generation : Nat}
    (positive : 0 < generation)
    (found : history.compilations[generation - 1]? = some task) :
    history.compilations.getLast? = some task ↔
      generation = history.editor.session.monitor.generation := by
  have inside := (List.getElem?_eq_some_iff.1 found).1
  rw [tracks.generation, List.getLast?_eq_getElem?]
  constructor
  · intro last
    have same := (List.getElem?_inj inside tracks.distinct).1 (found.trans last.symm)
    omega
  · rintro rfl
    exact found

/-- While the indicator shows a compilation, the lines of the latest task are
those that are accepted. -/
theorem linesOf_singleton (tracks : history.Tracks) {report : Report}
    (waits : report ∈ history.waiting)
    (compiling : history.editor.session.monitor.indicator = .compiling) :
    linesOf history.compilations.getLast? [report] =
      (history.editor.session.monitor.acceptedLine? report.event).toList := by
  rcases report with ⟨task, event⟩
  have owns : Owns history.compilations task event := tracks.owns_waiting waits
  cases event with
  | connectStarted | compileStarted | compileCancelled => exact owns.elim
  | connectFinished | compileFinished =>
      simp [linesOf, BridgeEvent.line?, Monitor.acceptedLine?]
  | compileLine generation line =>
      have latest := tracks.latest_iff owns.1 owns.2
      by_cases current : history.compilations.getLast? = some task
      · simp [linesOf, BridgeEvent.line?, Monitor.acceptedLine?, Monitor.isCurrent,
          compiling, current, ← latest.1 current]
      · have other : generation ≠ history.editor.session.monitor.generation :=
          fun same => current (latest.2 same)
        simp [linesOf, Monitor.acceptedLine?, Monitor.isCurrent, current, other]

end Tracks

theorem acceptedLine?_of_not_compiling {monitor : Monitor}
    (other : monitor.indicator ≠ .compiling) (event : BridgeEvent) :
    monitor.acceptedLine? event = none := by
  cases event <;> simp [Monitor.acceptedLine?, Monitor.isCurrent, other]

/-! ## What is shown -/

/-- The output shows the first lines of the latest compilation, the others wait
while the indicator shows it, and an aborted compilation has lost the
indicator. -/
structure Displays (history : History σ) : Prop where
  shown : ∃ shown rest, history.sentLines = shown ++ rest ∧
    history.editor.session.Shows shown ∧
    (history.editor.session.monitor.indicator = .compiling →
      rest = linesOf history.compilations.getLast? history.waiting)
  aborted : ∀ task ∈ history.aborted, task ∈ history.compilations ∧
    (history.compilations.getLast? = some task →
      history.editor.session.monitor.indicator ≠ .compiling)

theorem displays_start (settings : EditorSettings) (store : σ)
    (grammars : σ → Text → Option Grammar) :
    (start settings store grammars).Displays where
  shown := ⟨[], [], rfl, ⟨rfl, fun _ member => by cases member⟩, fun _ => rfl⟩
  aborted := fun _ member => by cases member

namespace Displays

variable {history : History σ}

theorem keep (displays : history.Displays) {after : Editor σ}
    (monitor : after.session.monitor = history.editor.session.monitor)
    (errors : after.session.errors.lines ⊆ history.editor.session.errors.lines) :
    Displays { history with editor := after } where
  shown := by
    rcases displays.shown with ⟨shown, rest, sent, shows, pending⟩
    refine ⟨shown, rest, sent, ⟨?_, ?_⟩, ?_⟩
    · exact (congrArg Monitor.output monitor).trans shows.output
    · exact fun number member => shows.errors number (errors member)
    · exact fun compiling => pending ((congrArg Monitor.indicator monitor).symm.trans compiling)
  aborted := by
    change ∀ task ∈ history.aborted, _ ∧ (_ → after.session.monitor.indicator ≠ _)
    rw [monitor]
    exact displays.aborted

/-- An event that neither starts a compilation nor brings a line of one leaves
the output to the lines that are shown. -/
theorem apply (displays : history.Displays) {after : Editor σ} {event : BridgeEvent}
    (session : after.session = history.editor.session.apply (.bridge event))
    (unstarted : event.started? = none)
    (silent : history.editor.session.monitor.acceptedLine? event = none) :
    Displays { history with editor := after } where
  shown := by
    rcases displays.shown with ⟨shown, rest, sent, shows, pending⟩
    have stillShows := shows.apply unstarted
    rw [silent, Option.toList_none, List.append_nil] at stillShows
    refine ⟨shown, rest, sent, session ▸ stillShows, fun compiling => pending ?_⟩
    rw [session] at compiling
    exact Monitor.compiling_of_compiling_apply unstarted compiling
  aborted := by
    intro task member
    refine ⟨(displays.aborted task member).1, fun latest compiling => ?_⟩
    rw [session] at compiling
    exact (displays.aborted task member).2 latest
      (Monitor.compiling_of_compiling_apply unstarted compiling)

end Displays

/-- What a retired task has left in the queue changes nothing. -/
theorem Displays.apply_of_isRetired {history : History σ} (displays : history.Displays)
    (tracks : history.Tracks) {report : Report} (waits : report ∈ history.waiting)
    (retired : history.isRetired report.task = true) :
    history.editor.session.apply (.bridge report.event) = history.editor.session := by
  simp only [isRetired, Bool.or_eq_true, List.contains_iff_mem] at retired
  have compiles : report.task ∈ history.compilations := by
    rcases retired with aborted | superseded
    · exact (displays.aborted _ aborted).1
    · exact (List.dropLast_sublist _).subset superseded
  rcases (tracks.owns_waiting waits).reports compiles with
    ⟨generation, reports, positive, found⟩
  apply Session.apply_of_not_isCurrent reports
  rw [Bool.eq_false_iff, ne_eq, Monitor.isCurrent_iff]
  rintro ⟨current, compiling⟩
  have latest := (tracks.latest_iff positive found).2 current
  rcases retired with aborted | superseded
  · exact (displays.aborted _ aborted).2 latest compiling
  · rcases List.getLast?_eq_some_iff.1 latest with ⟨earlier, split⟩
    have distinct := tracks.distinct
    rw [split, List.dropLast_concat] at superseded
    rw [split, List.nodup_append] at distinct
    exact distinct.2.2 _ superseded _ List.mem_cons_self rfl

variable [DocumentStore σ] {history : History σ}

namespace Displays

theorem not_compiling_compileCancelled (monitor : Monitor) :
    (monitor.apply (.compileCancelled monitor.generation)).indicator ≠ .compiling := by
  intro compiling
  have shown := Monitor.compiling_of_compiling_apply rfl compiling
  rw [Monitor.apply, if_pos (Monitor.isCurrent_iff.2 ⟨rfl, shown⟩)] at compiling
  cases compiling

theorem cancelCompile (displays : history.Displays) (tracks : history.Tracks) :
    (history.step .cancelCompile).Displays := by
  rw [step, Editor.abortable?]
  have session := history.editor.session_cancelCompile
  split
  · next running =>
      rw [if_pos running] at session
      have cancelled := displays.apply session rfl rfl
      refine ⟨cancelled.shown, ?_⟩
      intro task member
      rcases List.mem_append.1 member with before | now
      · exact cancelled.aborted task before
      · have latest := tracks.compileTask task (Option.mem_toList.1 now)
        refine ⟨List.mem_of_getLast? latest, fun _ => ?_⟩
        rw [session]
        exact not_compiling_compileCancelled _
  · next finished =>
      rw [if_neg finished] at session
      rw [Option.toList_none, List.append_nil]
      exact displays.keep (congrArg Session.monitor session)
        (session ▸ List.Subset.refl _)

/-- A compilation that starts has sent nothing, and nothing is shown. -/
theorem compile (displays : history.Displays) (tracks : history.Tracks)
    (run : CompileRun) : (history.step (.compile run)).Displays := by
  have latest : (history.compilations ++ [history.editor.nextTask]).getLast? =
      some history.editor.nextTask := List.getLast?_concat
  have fresh : ∀ report ∈ history.taken ++ history.waiting,
      report.task ≠ history.editor.nextTask := fun report member =>
    Nat.ne_of_lt (tracks.reports report member).1
  have unsent : linesOf (some history.editor.nextTask) history.waiting = [] :=
    linesOf_eq_nil fun report member => fresh report (List.mem_append_right _ member)
  have cancelled := displays.cancelCompile tracks
  rw [step]
  refine ⟨⟨[], [], ?_, ?_, ?_⟩, ?_⟩
  · simp only [sentLines, latest]
    exact linesOf_eq_nil fresh
  · simp only [Editor.session_compile]
    exact Session.shows_compileStarted _ _
  · intro _
    simp only [latest, unsent]
  · intro task member
    have known := (cancelled.aborted task member).1
    refine ⟨List.mem_append_left _ known, fun newest => ?_⟩
    rw [latest, Option.some.injEq] at newest
    exact absurd (newest ▸ known) tracks.nextTask_not_mem

theorem connect (displays : history.Displays) (result : Except BridgeError Unit) :
    (history.step (.connect result)).Displays := by
  rw [step, Editor.connect_eq]
  exact displays.apply (Editor.session_dispatch _ _) rfl rfl

theorem report (displays : history.Displays) (id : Nat) :
    (history.step (.report id)).Displays := by
  rcases displays.shown with ⟨shown, rest, sent, shows, pending⟩
  have session : (history.editor.report id).session = history.editor.session := by
    cases next : history.editor.nextReport? id with
    | none => rw [Editor.report_of_nextReport?_none next]
    | some event =>
        rcases Editor.exists_report_eq next with ⟨_, _, _, _, _, equal⟩
        rw [equal]
  rw [step]
  refine ⟨⟨shown, rest ++ linesOf history.compilations.getLast?
    ((history.editor.nextReport? id).map (Report.mk id)).toList, ?_, ?_, ?_⟩, ?_⟩
  · rw [sentLines, ← List.append_assoc, linesOf_append, ← List.append_assoc]
    exact congrArg (· ++ _) sent
  · exact session ▸ shows
  · intro compiling
    simp only [session] at compiling
    rw [pending compiling, linesOf_append]
  · simp only [session]
    exact displays.aborted

theorem takeNext (displays : history.Displays) (tracks : history.Tracks) :
    (history.step .takeNext).Displays := by
  cases waiting : history.waiting with
  | nil => rwa [step_takeNext_of_nil tracks waiting]
  | cons report rest =>
      have waits : report ∈ history.waiting := waiting ▸ List.mem_cons_self
      have unstarted := (tracks.owns_waiting waits).unstarted
      rcases displays.shown with ⟨shown, missing, sent, shows, pending⟩
      have stillShows := shows.apply unstarted
      rw [step_takeNext_of_cons tracks waiting]
      have sentLines : sentLines
          { history with taken := history.taken ++ [report], waiting := rest } =
            shown ++ missing := by
        rw [← sent, History.sentLines, History.sentLines, waiting]
        simp
      refine ⟨?_, ?_⟩
      · by_cases compiling : history.editor.session.monitor.indicator = .compiling
        · -- The line that is taken out, if it is one, is the first that was missing.
          have front := tracks.linesOf_singleton waits compiling
          have split : missing = (history.editor.session.monitor.acceptedLine?
              report.event).toList ++ linesOf history.compilations.getLast? rest := by
            rw [pending compiling, waiting, ← front, ← linesOf_append]
            rfl
          refine ⟨_, linesOf history.compilations.getLast? rest, ?_,
            by simpa only [Editor.session_dispatch] using stillShows, fun _ => rfl⟩
          rw [List.append_assoc, ← split]
          exact sentLines
        · rw [acceptedLine?_of_not_compiling compiling, Option.toList_none,
            List.append_nil] at stillShows
          refine ⟨shown, missing, sentLines,
            by simpa only [Editor.session_dispatch] using stillShows,
            fun later => absurd ?_ compiling⟩
          simp only [Editor.session_dispatch] at later
          exact Monitor.compiling_of_compiling_apply unstarted later
      · intro task member
        refine ⟨(displays.aborted task member).1, fun latest later => ?_⟩
        simp only [Editor.session_dispatch] at later
        exact (displays.aborted task member).2 latest
          (Monitor.compiling_of_compiling_apply unstarted later)

end Displays

/-! ## A whole run -/

structure Accounts (history : History σ) : Prop where
  tracks : history.Tracks
  displays : history.Displays

namespace Accounts

theorem takeNext (accounts : history.Accounts) : (history.step .takeNext).Accounts where
  tracks := accounts.tracks.takeNext
  displays := accounts.displays.takeNext accounts.tracks

theorem step (accounts : history.Accounts) (step : EditorStep σ) :
    (history.step step).Accounts := by
  refine ⟨accounts.tracks.step step, ?_⟩
  have tracks := accounts.tracks
  have displays := accounts.displays
  cases step with
  | user action =>
      have same := history.editor.sameBackground_perform action
      exact displays.keep same.monitor same.errors
  | compile run => exact displays.compile tracks run
  | cancelCompile => exact displays.cancelCompile tracks
  | connect result => exact displays.connect result
  | takeNext => exact displays.takeNext tracks
  | pump =>
      exact (step_pump_induction Accounts Accounts.tracks Accounts.takeNext accounts).displays
  | report id => exact displays.report id
  | surroundings | sendRequests | hold => exact displays.keep rfl (List.Subset.refl _)

theorem run (accounts : history.Accounts) (steps : List (EditorStep σ)) :
    (history.run steps).Accounts := by
  induction steps generalizing history with
  | nil => exact accounts
  | cons first rest hypothesis => exact hypothesis (accounts.step first)

/-- Pumping makes of a session what the reports of the tasks make of it that are
not retired. -/
theorem session_pump (accounts : history.Accounts) :
    history.editor.pump.2.session = history.editor.session.applyAll
      ((history.waiting.filter fun report => !history.isRetired report.task).map
        fun report => .bridge report.event) := by
  change (history.step .pump).editor.session = _
  induction waiting : history.waiting generalizing history with
  | nil =>
      rw [step_pump_of_nil accounts.tracks waiting]
      rfl
  | cons report rest hypothesis =>
      have took := step_takeNext_of_cons accounts.tracks waiting
      have later := hypothesis accounts.takeNext (by rw [took])
      have session : (history.step .takeNext).editor.session =
          history.editor.session.apply (.bridge report.event) := by
        rw [took]
        exact Editor.session_dispatch _ _
      rw [step_pump_of_cons accounts.tracks waiting, later, session, List.filter_cons]
      have same : ∀ task, (history.step .takeNext).isRetired task = history.isRetired task := by
        intro task
        rw [took]
        rfl
      simp only [same]
      split
      · rfl
      · next dropped =>
          have retired : history.isRetired report.task = true := by simpa using dropped
          rw [accounts.displays.apply_of_isRetired accounts.tracks
            (waiting ▸ List.mem_cons_self) retired]

end Accounts

/-- In any history of an editor each generation in the queue and in the session
is one that was given to a compilation already, and so many were given as there
were compilations.  The output shows the first lines of the latest one, however
many, and the error lines come from the same lines.  What aborted and
superseded tasks have left in the queue changes nothing, one by one and when
the queue is pumped; and to wait for an event is to take further steps. -/
theorem compilations_tracked (settings : EditorSettings) (store : σ)
    (grammars : σ → Text → Option Grammar) (steps : List (EditorStep σ)) :
    let history := (start settings store grammars).run steps
    let editor := history.editor
    editor.queue = history.waiting.map Report.event ∧
      (∀ event ∈ editor.queue, ∀ generation ∈ event.generation?,
        generation < editor.nextGeneration) ∧
      editor.session.monitor.generation < editor.nextGeneration ∧
      editor.nextGeneration = history.compilations.length + 1 ∧
      (∃ shown, shown <+: history.sentLines ∧ editor.session.Shows shown) ∧
      (∀ report ∈ history.waiting, history.isRetired report.task = true →
        editor.session.apply (.bridge report.event) = editor.session) ∧
      editor.pump.2.session = editor.session.applyAll
        ((history.waiting.filter fun report => !history.isRetired report.task).map
          fun report => .bridge report.event) ∧
      ∃ more, (history.run more).editor = editor.awaitNext.2 := by
  intro history editor
  have accounts : history.Accounts :=
    Accounts.run ⟨tracks_start settings store grammars,
      displays_start settings store grammars⟩ steps
  have tracks := accounts.tracks
  refine ⟨tracks.queue, ?_, ?_, tracks.nextGeneration, ?_, ?_, accounts.session_pump,
    exists_run_awaitNext tracks⟩
  · intro event queued generation belongs
    rw [tracks.queue] at queued
    rcases List.mem_map.1 queued with ⟨report, waits, rfl⟩
    rw [tracks.nextGeneration]
    exact Nat.lt_succ_of_le ((tracks.owns_waiting waits).le_length belongs)
  · rw [tracks.nextGeneration, tracks.generation]
    exact Nat.lt_succ_self _
  · rcases accounts.displays.shown with ⟨shown, rest, sent, shows, _⟩
    exact ⟨shown, ⟨rest, sent.symm⟩, shows⟩
  · intro report waits retired
    exact accounts.displays.apply_of_isRetired tracks waits retired

end LiveEditor.History
