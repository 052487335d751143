import LiveEditor.Proofs.Session.Sides

/-! # The run of a compilation

A compilation runs from its start to its end, with other events in between.
While the indicator shows it, every line that it reports is added to the output,
and its end is noticed.  The start of a probe takes the indicator away and
nothing gives it back, so the run is reported in full exactly when no probe
starts while it lasts.
-/

namespace LiveEditor

/-! ## What a run reports -/

namespace BridgeEvent

/-- Events that may come while a compilation runs: no other start, and no end
of the compilation itself. -/
def LeavesRunning (generation : Nat) : BridgeEvent → Prop
  | .compileStarted _ => False
  | .compileFinished other _ => other ≠ generation
  | .compileCancelled other => other ≠ generation
  | _ => True

def outputOf (generation : Nat) : BridgeEvent → Text
  | .compileLine other line =>
      if other = generation then line.text ++ ['\n'] else []
  | _ => []

def transcript (generation : Nat) (events : List BridgeEvent) : Text :=
  events.flatMap (outputOf generation)

end BridgeEvent

open BridgeEvent

def Indicator.ofResult : Except Text Bool → Indicator
  | .ok true => .success
  | _ => .failed

namespace Monitor

/-- The monitor reports a compilation that has ended: all of its output and its
result, and the connection is released. -/
structure Reports (monitor : Monitor) (output : Text) (result : Except Text Bool) :
    Prop where
  output : monitor.output = output
  indicator : monitor.indicator = .ofResult result
  connection : monitor.connection = .disconnected

/-- A compilation has the indicator and the connection. -/
structure Runs (monitor : Monitor) (generation : Nat) : Prop where
  generation : monitor.generation = generation
  indicator : monitor.indicator = .compiling
  connection : monitor.connection = .streaming

/-- A probe has taken the indicator from a compilation that is still connected. -/
structure Overtaken (monitor : Monitor) : Prop where
  indicator : monitor.indicator = .connecting ∨ monitor.indicator = .connected ∨
    monitor.indicator = .notConnected
  connection : monitor.connection = .streaming

/-! ## The end of a probe -/

theorem finishProbe_of_ne {monitor : Monitor} (taken : monitor.indicator ≠ .connecting)
    (result : Except Text Unit) :
    monitor.finishProbe result =
      { monitor with
        connection := monitor.connection.probeFinished
        connected := result.isOk } := by
  simp [finishProbe, taken]

theorem indicator_finishProbe_of_eq {monitor : Monitor}
    (shown : monitor.indicator = .connecting) (result : Except Text Unit) :
    (monitor.finishProbe result).indicator =
      if result.isOk then .connected else .notConnected := by
  cases result <;> simp [finishProbe, shown, Except.isOk, Except.toBool]

@[simp] theorem connection_finishProbe (monitor : Monitor)
    (result : Except Text Unit) :
    (monitor.finishProbe result).connection = monitor.connection.probeFinished := by
  by_cases shown : monitor.indicator = .connecting
  · cases result <;> simp [finishProbe, shown]
  · rw [finishProbe_of_ne shown]

@[simp] theorem output_finishProbe (monitor : Monitor) (result : Except Text Unit) :
    (monitor.finishProbe result).output = monitor.output := by
  by_cases shown : monitor.indicator = .connecting
  · cases result <;> simp [finishProbe, shown]
  · rw [finishProbe_of_ne shown]

/-! ## One event -/

theorem runs_compileStarted (monitor : Monitor) (generation : Nat) :
    Runs (monitor.apply (.compileStarted generation)) generation :=
  ⟨rfl, rfl, rfl⟩

theorem Runs.isCurrent_iff {monitor : Monitor} {generation : Nat}
    (runs : Runs monitor generation) (other : Nat) :
    monitor.isCurrent other = true ↔ other = generation := by
  simp [Monitor.isCurrent, runs.generation, runs.indicator]

/-- Everything but a probe leaves the indicator to a running compilation, and
its lines are added to the output. -/
theorem Runs.apply {monitor : Monitor} {generation : Nat}
    (runs : Runs monitor generation) {event : BridgeEvent}
    (leaves : event.LeavesRunning generation) (noProbe : event ≠ .connectStarted) :
    Runs (monitor.apply event) generation ∧
      (monitor.apply event).output =
        monitor.output ++ event.outputOf generation := by
  cases event with
  | connectStarted => exact absurd rfl noProbe
  | connectFinished result =>
      have other : monitor.indicator ≠ .connecting := by simp [runs.indicator]
      rw [Monitor.apply, finishProbe_of_ne other]
      refine ⟨⟨runs.generation, runs.indicator, ?_⟩, by simp [outputOf]⟩
      dsimp only
      rw [runs.connection]
      rfl
  | compileStarted other => exact leaves.elim
  | compileLine other line =>
      by_cases own : other = generation
      · have current := (runs.isCurrent_iff other).2 own
        rw [Monitor.apply, if_pos current, outputOf, if_pos own]
        exact ⟨⟨runs.generation, runs.indicator, runs.connection⟩, by simp⟩
      · have stale : ¬ monitor.isCurrent other = true := by
          rwa [runs.isCurrent_iff]
        rw [Monitor.apply, if_neg stale, outputOf, if_neg own]
        exact ⟨runs, by simp⟩
  | compileFinished other result =>
      have stale : ¬ monitor.isCurrent other = true := by
        rwa [runs.isCurrent_iff]
      rw [Monitor.apply, if_neg stale]
      exact ⟨runs, by simp [outputOf]⟩
  | compileCancelled other =>
      have stale : ¬ monitor.isCurrent other = true := by
        rwa [runs.isCurrent_iff]
      rw [Monitor.apply, if_neg stale]
      exact ⟨runs, by simp [outputOf]⟩

theorem Runs.overtaken {monitor : Monitor} {generation : Nat}
    (runs : Runs monitor generation) :
    Overtaken (monitor.apply .connectStarted) := by
  refine ⟨.inl rfl, ?_⟩
  rw [Monitor.apply, runs.connection]
  rfl

/-- Only the start of a compilation gives the indicator back. -/
theorem Overtaken.apply {monitor : Monitor} (overtaken : Overtaken monitor)
    {event : BridgeEvent} (noStart : ∀ generation, event ≠ .compileStarted generation) :
    Overtaken (monitor.apply event) ∧
      (monitor.apply event).output = monitor.output := by
  have stale : ∀ generation, ¬ monitor.isCurrent generation = true := by
    intro generation
    rcases overtaken.indicator with shown | shown | shown <;>
      simp [Monitor.isCurrent, shown]
  cases event with
  | connectStarted =>
      refine ⟨⟨.inl rfl, ?_⟩, rfl⟩
      rw [Monitor.apply, overtaken.connection]
      rfl
  | connectFinished result =>
      refine ⟨⟨?_, ?_⟩, output_finishProbe monitor result⟩
      · by_cases shown : monitor.indicator = .connecting
        · have ended := indicator_finishProbe_of_eq shown result
          rw [Monitor.apply, ended]
          cases result.isOk <;> simp
        · rw [Monitor.apply, finishProbe_of_ne shown]
          exact overtaken.indicator
      · rw [Monitor.apply, connection_finishProbe, overtaken.connection]
        rfl
  | compileStarted generation => exact absurd rfl (noStart generation)
  | compileLine generation line =>
      rw [Monitor.apply, if_neg (stale generation)]
      exact ⟨overtaken, rfl⟩
  | compileFinished generation result =>
      rw [Monitor.apply, if_neg (stale generation)]
      exact ⟨overtaken, rfl⟩
  | compileCancelled generation =>
      rw [Monitor.apply, if_neg (stale generation)]
      exact ⟨overtaken, rfl⟩

/-! ## A whole run -/

theorem Runs.applyAll {monitor : Monitor} {generation : Nat}
    (runs : Runs monitor generation) {events : List BridgeEvent}
    (leave : ∀ event ∈ events, event.LeavesRunning generation)
    (noProbe : .connectStarted ∉ events) :
    Runs (monitor.applyAll events) generation ∧
      (monitor.applyAll events).output =
        monitor.output ++ transcript generation events := by
  induction events generalizing monitor with
  | nil => exact ⟨runs, by simp [Monitor.applyAll, transcript]⟩
  | cons event rest hypothesis =>
      rw [List.mem_cons, not_or] at noProbe
      rcases runs.apply (leave event List.mem_cons_self) (Ne.symm noProbe.1) with
        ⟨stillRuns, output⟩
      have restLeave : ∀ other ∈ rest, other.LeavesRunning generation :=
        fun other member => leave other (List.mem_cons_of_mem event member)
      rcases hypothesis stillRuns restLeave noProbe.2 with ⟨endRuns, whole⟩
      refine ⟨endRuns, ?_⟩
      rw [applyAll_cons, whole, output, transcript, transcript, List.flatMap_cons,
        List.append_assoc]

theorem Overtaken.applyAll {monitor : Monitor} (overtaken : Overtaken monitor)
    {events : List BridgeEvent}
    (noStart : ∀ generation, .compileStarted generation ∉ events) :
    Overtaken (monitor.applyAll events) ∧
      (monitor.applyAll events).output = monitor.output := by
  induction events generalizing monitor with
  | nil => exact ⟨overtaken, rfl⟩
  | cons event rest hypothesis =>
      have otherEvent : ∀ generation, event ≠ .compileStarted generation := by
        intro generation equal
        exact noStart generation (equal ▸ List.mem_cons_self)
      have noLaterStart : ∀ generation, .compileStarted generation ∉ rest := by
        intro generation member
        exact noStart generation (List.mem_cons_of_mem event member)
      rcases overtaken.apply otherEvent with ⟨still, output⟩
      rcases hypothesis still noLaterStart with ⟨ends, whole⟩
      exact ⟨ends, whole.trans output⟩

theorem applyAll_run (monitor : Monitor) (generation : Nat)
    (events : List BridgeEvent) (result : Except Text Bool) :
    monitor.applyAll (.compileStarted generation :: events ++
        [.compileFinished generation result]) =
      ((monitor.apply (.compileStarted generation)).applyAll events).apply
        (.compileFinished generation result) := by
  rw [List.cons_append, applyAll_cons, applyAll_append]
  rfl

theorem Runs.reports {monitor : Monitor} {generation : Nat}
    (runs : Runs monitor generation) (result : Except Text Bool) :
    Reports (monitor.apply (.compileFinished generation result)) monitor.output
      result := by
  have current := (runs.isCurrent_iff generation).2 rfl
  rw [Monitor.apply, if_pos current]
  rcases result with reason | _ | _ <;> exact ⟨rfl, rfl, rfl⟩

/-- A run without a probe is reported in full. -/
theorem reports_of_no_probe (monitor : Monitor) (generation : Nat)
    {events : List BridgeEvent} (result : Except Text Bool)
    (leave : ∀ event ∈ events, event.LeavesRunning generation)
    (noProbe : .connectStarted ∉ events) :
    Reports (monitor.applyAll (.compileStarted generation :: events ++
      [.compileFinished generation result])) (transcript generation events) result := by
  rcases (runs_compileStarted monitor generation).applyAll leave noProbe with
    ⟨runs, output⟩
  rw [applyAll_run]
  have reported := runs.reports result
  rwa [output] at reported

/-- In a run with a probe only the lines before the first probe are added to the
output, and the end goes unnoticed: the indicator stays with the probe, and the
connection is not released. -/
theorem overtaken_of_probe (monitor : Monitor) (generation : Nat)
    {before after : List BridgeEvent} (result : Except Text Bool)
    (leave : ∀ event ∈ before ++ .connectStarted :: after,
      event.LeavesRunning generation)
    (noProbe : .connectStarted ∉ before) :
    let final := monitor.applyAll (.compileStarted generation ::
      (before ++ .connectStarted :: after) ++ [.compileFinished generation result])
    Overtaken final ∧ final.output = transcript generation before := by
  intro final
  have frontLeave : ∀ event ∈ before, event.LeavesRunning generation :=
    fun event member => leave event (List.mem_append_left _ member)
  rcases (runs_compileStarted monitor generation).applyAll frontLeave noProbe with
    ⟨runs, output⟩
  have noStart : ∀ other,
      .compileStarted other ∉ after ++ [.compileFinished generation result] := by
    intro other member
    rcases List.mem_append.1 member with member | member
    · exact leave (.compileStarted other) (by simp [member])
    · cases List.mem_singleton.1 member
  have ends : final = (((monitor.apply (.compileStarted generation)).applyAll
      before).apply .connectStarted).applyAll
        (after ++ [.compileFinished generation result]) := by
    rw [show final = _ from applyAll_run monitor generation _ result, applyAll_append,
      applyAll_append, applyAll_cons]
    rfl
  rcases runs.overtaken.applyAll noStart with ⟨overtaken, kept⟩
  rw [ends]
  refine ⟨overtaken, kept.trans ?_⟩
  exact output

/-- What a monitor shows after a probe is no result of a compilation. -/
theorem Overtaken.not_reports {monitor : Monitor} (overtaken : Overtaken monitor)
    (output : Text) (result : Except Text Bool) : ¬ Reports monitor output result := by
  intro reports
  have connected := overtaken.connection.symm.trans reports.connection
  cases connected

end Monitor

namespace Session

/-- The run of a compilation is reported in full, with all its lines and its
result, exactly when no probe starts while it lasts. -/
theorem reports_run_iff (session : Session) (generation : Nat)
    (events : List SessionEvent) (result : Except Text Bool)
    (leave : ∀ event, .bridge event ∈ events → event.LeavesRunning generation) :
    (session.applyAll (.bridge (.compileStarted generation) :: events ++
        [.bridge (.compileFinished generation result)])).monitor.Reports
          (transcript generation (events.filterMap SessionEvent.bridge?)) result ↔
      .bridge .connectStarted ∉ events := by
  have reported : ∀ event ∈ events.filterMap SessionEvent.bridge?,
      event.LeavesRunning generation := fun event member =>
    leave event (SessionEvent.mem_filterMap_bridge?.1 member)
  rw [monitor_applyAll, ← SessionEvent.mem_filterMap_bridge?]
  simp only [List.cons_append, List.filterMap_cons, List.filterMap_append,
    SessionEvent.bridge?, List.filterMap_nil]
  constructor
  · intro reports probe
    rcases List.eq_append_cons_of_mem probe with ⟨before, after, split, noProbe⟩
    rw [split] at reports reported
    exact (Monitor.overtaken_of_probe session.monitor generation result reported
      noProbe).1.not_reports _ _ reports
  · intro noProbe
    exact Monitor.reports_of_no_probe session.monitor generation result reported noProbe

def interleavedRun : List SessionEvent :=
  [ .bridge (.connectFinished (.ok ())),
    .bridge (.compileLine 2 (.diagnostic ['a'])),
    .bridge (.compileLine 1 (.diagnostic ['b'])),
    .workbench (.pasted ['c']),
    .bridge (.compileFinished 1 (.ok true)),
    .bridge (.compileLine 2 (.status ['d'] false)) ]

theorem reports_interleavedRun :
    (∀ event, .bridge event ∈ interleavedRun → event.LeavesRunning 2) ∧
      .bridge .connectStarted ∉ interleavedRun ∧
      ((initial [] true).applyAll (.bridge (.compileStarted 2) :: interleavedRun ++
        [.bridge (.compileFinished 2 (.error ['e']))])).monitor.Reports
          ['a', '\n', 'd', '\n'] (.error ['e']) := by
  have leave : ∀ event, .bridge event ∈ interleavedRun → event.LeavesRunning 2 := by
    simp [interleavedRun, LeavesRunning]
  have noProbe : .bridge .connectStarted ∉ interleavedRun := by
    simp [interleavedRun]
  exact ⟨leave, noProbe,
    (reports_run_iff (initial [] true) 2 interleavedRun (.error ['e']) leave).2 noProbe⟩

/-- A probe in the middle of a run: the line behind it is lost, and so is the
result. -/
theorem not_reports_run_with_probe :
    ¬ ((initial [] true).applyAll
        [ .bridge (.compileStarted 1),
          .bridge .connectStarted,
          .bridge (.compileLine 1 (.diagnostic ['x'])),
          .bridge (.compileFinished 1 (.ok true)) ]).monitor.Reports
      ['x', '\n'] (.ok true) := by
  intro reports
  exact absurd reports.output (by decide)

end Session

end LiveEditor
