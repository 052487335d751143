import LiveEditor.Proofs.Session.CompileRun
import Mathlib.Data.List.TakeWhile

/-! # Compilations of one session

The start of a compilation leaves no trace of the ones before it.  What comes
for a compilation that is not the latest one, or that has ended, could as well
not have come.
-/

namespace LiveEditor

namespace BridgeEvent

/-! ## What events are about -/

def generation? : BridgeEvent → Option Nat
  | .connectStarted | .connectFinished _ => none
  | .compileStarted generation | .compileLine generation _
  | .compileFinished generation _ | .compileCancelled generation => some generation

def started? : BridgeEvent → Option Nat
  | .compileStarted generation => some generation
  | _ => none

def ended? : BridgeEvent → Option Nat
  | .compileFinished generation _ | .compileCancelled generation => some generation
  | _ => none

def reported? : BridgeEvent → Option Nat
  | .compileLine generation _ | .compileFinished generation _
  | .compileCancelled generation => some generation
  | _ => none

/-! ## Stale events -/

def latestStarted? (events : List BridgeEvent) : Option Nat :=
  (events.filterMap started?).getLast?

def hasEnded (generation : Nat) (events : List BridgeEvent) : Bool :=
  (events.dropWhile fun event => event.started? != some generation).any
    fun event => event.ended? == some generation

/-- Whether an event that comes behind others reports on a compilation that is
not the latest one, or that has ended. -/
def isStale (before : List BridgeEvent) (event : BridgeEvent) : Bool :=
  event.reported?.any fun generation =>
    latestStarted? before != some generation || hasEnded generation before

theorem latestStarted?_append (before : List BridgeEvent) (event : BridgeEvent) :
    latestStarted? (before ++ [event]) = event.started?.or (latestStarted? before) := by
  rw [latestStarted?, latestStarted?, List.filterMap_append, List.getLast?_append]
  cases started : event.started? <;> simp [started]

theorem hasEnded_append_of_ne {generation : Nat} {event : BridgeEvent}
    (goesOn : event.ended? ≠ some generation) (before : List BridgeEvent) :
    hasEnded generation (before ++ [event]) = hasEnded generation before := by
  have behind : ([event].dropWhile fun event => event.started? != some generation).any
      (fun event => event.ended? == some generation) = false := by
    rw [List.dropWhile_cons]
    split <;> simp [goesOn]
  rw [hasEnded, hasEnded, List.dropWhile_append]
  split
  · next unstarted =>
      rw [behind, List.isEmpty_iff.1 unstarted]
      rfl
  · simp [goesOn]

theorem hasEnded_of_not_started {generation : Nat} {events : List BridgeEvent}
    (unstarted : generation ∉ events.filterMap started?) :
    hasEnded generation events = false := by
  have nothing : events.dropWhile (fun event => event.started? != some generation) = [] := by
    rw [List.dropWhile_eq_nil_iff]
    intro event member
    have other : event.started? ≠ some generation := fun started =>
      unstarted (List.mem_filterMap.2 ⟨event, member, started⟩)
    simp [other]
  rw [hasEnded, nothing]
  rfl

end BridgeEvent

open BridgeEvent

def SessionEvent.withoutStaleFrom (before : List BridgeEvent) :
    List SessionEvent → List SessionEvent
  | [] => []
  | .workbench event :: rest => .workbench event :: withoutStaleFrom before rest
  | .bridge event :: rest =>
      if isStale before event then
        withoutStaleFrom (before ++ [event]) rest
      else
        .bridge event :: withoutStaleFrom (before ++ [event]) rest

def SessionEvent.withoutStale (events : List SessionEvent) : List SessionEvent :=
  withoutStaleFrom [] events

example (line : StreamLine) (result : Except Text Bool) :
    SessionEvent.withoutStale
        [ .bridge (.compileLine 1 line), .bridge (.compileStarted 1),
          .bridge (.compileStarted 2), .bridge (.compileLine 1 line),
          .bridge (.compileFinished 2 result), .bridge (.compileLine 2 line) ] =
      [ .bridge (.compileStarted 1), .bridge (.compileStarted 2),
        .bridge (.compileFinished 2 result) ] := rfl

/-! ## The compilation that the indicator shows -/

namespace Monitor

theorem isCurrent_iff {monitor : Monitor} {generation : Nat} :
    monitor.isCurrent generation = true ↔
      generation = monitor.generation ∧ monitor.indicator = .compiling := by
  simp [isCurrent]

theorem isCurrent_finishProbe (monitor : Monitor) (result : Except Text Unit)
    (generation : Nat) :
    (monitor.finishProbe result).isCurrent generation = monitor.isCurrent generation := by
  by_cases shown : monitor.indicator = .connecting
  · cases result <;> simp only [finishProbe, isCurrent, shown, if_true] <;> rfl
  · rw [finishProbe_of_ne shown]
    rfl

theorem not_isCurrent_finishCompile (monitor : Monitor) (result : Except Text Bool)
    (generation : Nat) : (monitor.finishCompile result).isCurrent generation = false := by
  rcases result with reason | _ | _ <;> simp [finishCompile, isCurrent]

/-- The indicator shows a compilation that was just started, or the one that it
has shown before and that goes on. -/
theorem isCurrent_of_isCurrent_apply {monitor : Monitor} {event : BridgeEvent}
    {generation : Nat} (current : (monitor.apply event).isCurrent generation = true) :
    event.started? = some generation ∨
      event.started? = none ∧ event.ended? ≠ some generation ∧
        monitor.isCurrent generation = true := by
  cases event with
  | connectStarted => simp [Monitor.apply, isCurrent] at current
  | connectFinished result =>
      rw [Monitor.apply, isCurrent_finishProbe] at current
      exact .inr ⟨rfl, by simp [ended?], current⟩
  | compileStarted other =>
      rw [isCurrent_iff] at current
      exact .inl (congrArg some current.1.symm)
  | compileLine other line =>
      refine .inr ⟨rfl, by simp [ended?], ?_⟩
      rw [Monitor.apply] at current
      split at current <;> exact current
  | compileFinished other result =>
      rw [Monitor.apply] at current
      split at current
      · rw [not_isCurrent_finishCompile] at current
        cases current
      · next stale =>
          refine .inr ⟨rfl, ?_, current⟩
          rintro ⟨⟩
          exact stale current
  | compileCancelled other =>
      rw [Monitor.apply] at current
      split at current
      · simp [isCurrent] at current
      · next stale =>
          refine .inr ⟨rfl, ?_, current⟩
          rintro ⟨⟩
          exact stale current

/-- The compilation that the indicator shows is the latest one of the events
`before`, and it has not ended. -/
def Follows (monitor : Monitor) (before : List BridgeEvent) : Prop :=
  ∀ generation, monitor.isCurrent generation = true →
    latestStarted? before = some generation ∧ hasEnded generation before = false

theorem Follows.apply {monitor : Monitor} {before : List BridgeEvent}
    (follows : monitor.Follows before) {event : BridgeEvent}
    (fresh : ∀ generation ∈ event.started?, generation ∉ before.filterMap started?) :
    (monitor.apply event).Follows (before ++ [event]) := by
  intro generation current
  rw [latestStarted?_append]
  rcases isCurrent_of_isCurrent_apply current with started | ⟨unstarted, goesOn, earlier⟩
  · have goesOn : event.ended? ≠ some generation := by
      cases event <;> simp_all [started?, ended?]
    rw [started, hasEnded_append_of_ne goesOn, hasEnded_of_not_started (fresh _ started)]
    exact ⟨rfl, rfl⟩
  · rw [unstarted, hasEnded_append_of_ne goesOn]
    exact follows generation earlier

theorem Follows.not_isCurrent_of_isStale {monitor : Monitor} {before : List BridgeEvent}
    (follows : monitor.Follows before) {event : BridgeEvent}
    (stale : isStale before event = true) :
    ∃ generation, event.reported? = some generation ∧
      monitor.isCurrent generation = false := by
  rw [isStale, Option.any_eq_true] at stale
  rcases stale with ⟨generation, reports, late⟩
  refine ⟨generation, reports, Bool.eq_false_iff.2 ?_⟩
  intro shown
  rcases follows generation shown with ⟨latest, goesOn⟩
  simp [latest, goesOn] at late

end Monitor

/-! ## Events that change nothing -/

namespace Session

/-- A report on a compilation that the indicator does not show changes nothing. -/
theorem apply_of_not_isCurrent {session : Session} {event : BridgeEvent}
    {generation : Nat} (reports : event.reported? = some generation)
    (notShown : session.monitor.isCurrent generation = false) :
    session.apply (.bridge event) = session := by
  cases event with
  | connectStarted | connectFinished | compileStarted => cases reports
  | compileLine other line =>
      cases reports
      cases line <;> simp [Session.apply, Monitor.apply, errorsAfter, notShown,
        StreamLine.diagnostic?]
  | compileFinished other result =>
      cases reports
      simp [Session.apply, Monitor.apply, errorsAfter, notShown]
  | compileCancelled other =>
      cases reports
      simp [Session.apply, Monitor.apply, errorsAfter, notShown]

theorem applyAll_withoutStaleFrom {session : Session} {before : List BridgeEvent}
    (follows : session.monitor.Follows before) (events : List SessionEvent)
    (once : ((before ++ events.filterMap SessionEvent.bridge?).filterMap started?).Nodup) :
    session.applyAll (SessionEvent.withoutStaleFrom before events) =
      session.applyAll events := by
  -- The events that are left out stay in `before`: `Follows` has to know them, and the
  -- session is the same without them.
  induction events generalizing session before with
  | nil => rfl
  | cons event rest hypothesis =>
      cases event with
      | workbench event =>
          rw [SessionEvent.withoutStaleFrom, applyAll_cons, applyAll_cons]
          exact hypothesis follows once
      | bridge event =>
          have onceMore : ((before ++ [event] ++
              rest.filterMap SessionEvent.bridge?).filterMap started?).Nodup := by
            rwa [List.append_assoc]
          have fresh : ∀ generation ∈ event.started?,
              generation ∉ before.filterMap started? := by
            intro generation started member
            rw [List.filterMap_append, List.nodup_append] at once
            refine once.2.2 generation member generation ?_ rfl
            exact List.mem_filterMap.2 ⟨event, by simp [SessionEvent.bridge?], started⟩
          have followed : (session.apply (.bridge event)).monitor.Follows
              (before ++ [event]) := follows.apply fresh
          rw [SessionEvent.withoutStaleFrom, applyAll_cons, ← hypothesis followed onceMore]
          split
          · next stale =>
              rcases follows.not_isCurrent_of_isStale stale with ⟨_, reports, notShown⟩
              rw [apply_of_not_isCurrent reports notShown]
          · rfl

/-! ## The start of a compilation -/

/-- What the start of a compilation does not set anew. -/
structure SameOutsideCompilations (left right : Session) : Prop where
  workbench : left.workbench = right.workbench
  connected : left.monitor.connected = right.monitor.connected
  clearErrorsOnEdit : left.clearErrorsOnEdit = right.clearErrorsOnEdit

theorem sameOutsideCompilations_apply (session : Session) {event : BridgeEvent}
    (belongs : event.generation? ≠ none) :
    SameOutsideCompilations (session.apply (.bridge event)) session := by
  refine ⟨rfl, ?_, rfl⟩
  change (session.monitor.apply event).connected = session.monitor.connected
  cases event with
  | connectStarted | connectFinished => exact absurd rfl belongs
  | compileStarted => rfl
  | compileLine | compileCancelled =>
      rw [Monitor.apply]
      split <;> rfl
  | compileFinished other result =>
      rw [Monitor.apply]
      split
      · rcases result with reason | _ | _ <;> rfl
      · rfl

theorem sameOutsideCompilations_applyAll (session : Session) {events : List BridgeEvent}
    (belong : ∀ event ∈ events, event.generation? ≠ none) :
    SameOutsideCompilations (session.applyAll (events.map .bridge)) session := by
  induction events generalizing session with
  | nil => exact ⟨rfl, rfl, rfl⟩
  | cons event rest hypothesis =>
      have one := session.sameOutsideCompilations_apply (belong event List.mem_cons_self)
      have others := hypothesis (session.apply (.bridge event)) fun other member =>
        belong other (List.mem_cons_of_mem event member)
      rw [List.map_cons, applyAll_cons]
      exact ⟨others.workbench.trans one.workbench, others.connected.trans one.connected,
        others.clearErrorsOnEdit.trans one.clearErrorsOnEdit⟩

theorem SameOutsideCompilations.apply_compileStarted {left right : Session}
    (same : SameOutsideCompilations left right) (generation : Nat) :
    left.apply (.bridge (.compileStarted generation)) =
      right.apply (.bridge (.compileStarted generation)) := by
  simp only [Session.apply, Monitor.apply, errorsAfter, same.workbench, same.connected,
    same.clearErrorsOnEdit, Connection.streamStarted]

/-- Compilations do not show in each other.  A session in which one has just
started does not depend on the ones before it; and if no generation is started
twice, the reports of compilations that are not the latest one or that have
ended make no difference. -/
theorem compilations_isolated (session : Session) :
    (∀ (earlier : List BridgeEvent) (generation : Nat),
      (∀ event ∈ earlier, event.generation? ≠ none) →
        session.applyAll (earlier.map .bridge ++ [.bridge (.compileStarted generation)]) =
          session.apply (.bridge (.compileStarted generation))) ∧
    ∀ events : List SessionEvent, session.monitor.indicator ≠ .compiling →
      ((events.filterMap SessionEvent.bridge?).filterMap started?).Nodup →
        session.applyAll (SessionEvent.withoutStale events) = session.applyAll events := by
  constructor
  · intro earlier generation belong
    have same := session.sameOutsideCompilations_applyAll belong
    rw [applyAll_append]
    exact same.apply_compileStarted generation
  · intro events idle once
    apply applyAll_withoutStaleFrom _ events once
    intro generation current
    exact absurd (Monitor.isCurrent_iff.1 current).2 idle

end Session

end LiveEditor
