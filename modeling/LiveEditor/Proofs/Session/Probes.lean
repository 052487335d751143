import LiveEditor.Editor.Basic
import LiveEditor.Proofs.Session.Isolation
import Mathlib.Data.List.Infix
import Mathlib.Data.List.Induction

/-! # Answers of probes

Several probes may be under way at once.  Every answer sets whether the bridge
counts as connected, but the indicator takes only the first answer behind the
latest start of a probe, and keeps it.  So the two agree exactly when the first
and the last of these answers do.  With one probe at a time there is only one.
-/

namespace LiveEditor

def Indicator.verdict? : Indicator → Option Bool
  | .connected => some true
  | .notConnected => some false
  | _ => none

def Indicator.isOfProbe : Indicator → Bool
  | .connecting | .connected | .notConnected => true
  | _ => false

namespace BridgeEvent

def isProbe : BridgeEvent → Bool
  | .connectStarted => true
  | _ => false

def answer? : BridgeEvent → Option Bool
  | .connectFinished result => some result.isOk
  | _ => none

def answers (events : List BridgeEvent) : List Bool :=
  events.filterMap answer?

@[simp] theorem answers_append (front back : List BridgeEvent) :
    answers (front ++ back) = answers front ++ answers back :=
  List.filterMap_append

@[simp] theorem answers_connectStarted (rest : List BridgeEvent) :
    answers (.connectStarted :: rest) = answers rest := rfl

@[simp] theorem answers_nil : answers [] = [] := rfl

@[simp] theorem isProbe_connectStarted : isProbe .connectStarted = true := rfl

def Answered (events : List BridgeEvent) : Prop :=
  ∀ front, front <+: events → (answers front).length ≤ front.countP isProbe

def OneAtATime (events : List BridgeEvent) : Prop :=
  ∀ front, front <+: events → front.countP isProbe ≤ (answers front).length + 1

instance (events : List BridgeEvent) : Decidable (Answered events) :=
  decidable_of_iff (∀ front ∈ events.inits, (answers front).length ≤ front.countP isProbe)
    (forall_congr' fun front => imp_congr_left (List.mem_inits front events))

instance (events : List BridgeEvent) : Decidable (OneAtATime events) :=
  decidable_of_iff (∀ front ∈ events.inits, front.countP isProbe ≤ (answers front).length + 1)
    (forall_congr' fun front => imp_congr_left (List.mem_inits front events))

/-- Events end with the start of a probe and what came since: the start of no
other probe and of no compilation. -/
structure EndsWithProbe (events since : List BridgeEvent) : Prop where
  suffix : .connectStarted :: since <:+ events
  noProbe : ∀ event ∈ since, event.isProbe = false
  unstarted : ∀ event ∈ since, event.started? = none

theorem endsWithProbe_append_connectStarted (events : List BridgeEvent) :
    EndsWithProbe (events ++ [.connectStarted]) [] :=
  ⟨List.suffix_append events _, List.forall_mem_nil _, List.forall_mem_nil _⟩

theorem EndsWithProbe.append {events since : List BridgeEvent}
    (ends : EndsWithProbe events since) {event : BridgeEvent}
    (noProbe : event.isProbe = false) (unstarted : event.started? = none) :
    EndsWithProbe (events ++ [event]) (since ++ [event]) where
  suffix := by
    rcases ends.suffix with ⟨before, rfl⟩
    exact ⟨before, by simp⟩
  noProbe := List.forall_mem_append.2 ⟨ends.noProbe, List.forall_mem_singleton.2 noProbe⟩
  unstarted := List.forall_mem_append.2 ⟨ends.unstarted, List.forall_mem_singleton.2 unstarted⟩

/-- With one probe at a time, at most one answer comes behind the latest one. -/
theorem EndsWithProbe.length_answers_le {events since : List BridgeEvent}
    (ends : EndsWithProbe events since) (answered : Answered events)
    (single : OneAtATime events) : (answers since).length ≤ 1 := by
  rcases ends.suffix with ⟨before, rfl⟩
  have noOther : since.countP isProbe = 0 := by
    rw [List.countP_eq_zero]
    intro event member
    simp [ends.noProbe event member]
  have started : before.countP isProbe ≤ (answers before).length := by
    have front : before ++ [.connectStarted] <+: before ++ .connectStarted :: since :=
      ⟨since, (List.append_cons _ _ _).symm⟩
    simpa [List.countP_append] using single _ front
  have ended : (answers before).length + (answers since).length ≤
      before.countP isProbe + 1 := by
    simpa [List.countP_append, List.countP_cons, noOther] using
      answered _ (List.prefix_refl _)
  omega

end BridgeEvent

open BridgeEvent

namespace Monitor

/-- An indicator with an answer says what the flag beside it says. -/
structure Agrees (monitor : Monitor) : Prop where
  connected : monitor.indicator = .connected → monitor.connected = true
  notConnected : monitor.indicator = .notConnected → monitor.connected = false

theorem agrees_iff (monitor : Monitor) :
    monitor.Agrees ↔
      ∀ alive, monitor.indicator.verdict? = some alive → monitor.connected = alive := by
  constructor
  · intro agrees alive verdict
    cases shown : monitor.indicator <;> rw [shown] at verdict <;> cases verdict
    · exact agrees.connected shown
    · exact agrees.notConnected shown
  · intro verdicts
    exact ⟨fun shown => verdicts true (by rw [shown]; rfl),
      fun shown => verdicts false (by rw [shown]; rfl)⟩

/-! ## Behind the start of a probe -/

@[simp] theorem connected_finishProbe (monitor : Monitor) (result : Except Text Unit) :
    (monitor.finishProbe result).connected = result.isOk := by
  by_cases shown : monitor.indicator = .connecting
  · cases result <;> simp [finishProbe, shown]
  · rw [finishProbe_of_ne shown]

/-- The indicator waits for an answer or shows the first one that came, and the
flag follows the last one. -/
structure Hears (monitor : Monitor) (answers : List Bool) : Prop where
  waits : answers = [] → monitor.indicator = .connecting
  first : monitor.indicator.verdict? = answers.head?
  last : answers ≠ [] → answers.getLast? = some monitor.connected

theorem hears_connectStarted (monitor : Monitor) :
    (monitor.apply .connectStarted).Hears [] :=
  ⟨fun _ => rfl, rfl, fun some => absurd rfl some⟩

theorem Hears.not_compiling {monitor : Monitor} {answers : List Bool}
    (hears : monitor.Hears answers) : monitor.indicator ≠ .compiling := by
  intro compiling
  have first := hears.first
  rw [compiling] at first
  have none := List.head?_eq_none_iff.1 first.symm
  rw [hears.waits none] at compiling
  cases compiling

theorem Hears.finishProbe {monitor : Monitor} {answers : List Bool}
    (hears : monitor.Hears answers) (result : Except Text Unit) :
    (monitor.finishProbe result).Hears (answers ++ [result.isOk]) := by
  refine ⟨fun none => by simp at none, ?_, fun _ => by simp⟩
  cases answers with
  | nil =>
      -- The indicator has waited for this answer.
      rw [indicator_finishProbe_of_eq (hears.waits rfl)]
      cases result.isOk <;> rfl
  | cons first rest =>
      have answered : monitor.indicator ≠ .connecting := by
        intro waits
        have verdict := hears.first
        rw [waits] at verdict
        cases verdict
      rw [finishProbe_of_ne answered]
      exact hears.first

theorem Hears.apply {monitor : Monitor} {heard : List Bool} (hears : monitor.Hears heard)
    {event : BridgeEvent} (noProbe : event.isProbe = false)
    (unstarted : event.started? = none) :
    (monitor.apply event).Hears (heard ++ event.answer?.toList) := by
  have stale : ∀ generation, ¬ monitor.isCurrent generation = true :=
    fun generation current => hears.not_compiling (isCurrent_iff.1 current).2
  cases event with
  | connectStarted => cases noProbe
  | compileStarted => cases unstarted
  | connectFinished result => exact hears.finishProbe result
  | compileLine generation | compileFinished generation | compileCancelled generation =>
      rw [Monitor.apply, if_neg (stale generation)]
      exact (List.append_nil heard).symm ▸ hears

theorem Hears.applyAll {monitor : Monitor} {heard : List Bool} (hears : monitor.Hears heard)
    {events : List BridgeEvent} (noProbe : ∀ event ∈ events, event.isProbe = false)
    (unstarted : ∀ event ∈ events, event.started? = none) :
    (monitor.applyAll events).Hears (heard ++ answers events) := by
  induction events generalizing monitor heard with
  | nil =>
      rw [answers, List.filterMap_nil, List.append_nil]
      exact hears
  | cons event rest induction =>
      rw [List.forall_mem_cons] at noProbe unstarted
      have later := induction (hears.apply noProbe.1 unstarted.1) noProbe.2 unstarted.2
      rw [applyAll_cons]
      cases answer : event.answer? <;> simpa [answers, answer] using later

theorem hears_of_endsWithProbe (monitor : Monitor) {events since : List BridgeEvent}
    (ends : EndsWithProbe events since) : (monitor.applyAll events).Hears (answers since) := by
  rcases ends.suffix with ⟨before, rfl⟩
  rw [applyAll_append, applyAll_cons]
  exact (hears_connectStarted _).applyAll ends.noProbe ends.unstarted

/-! ## The probe behind an answer that is shown -/

/-- Only the start of a probe takes the indicator from something else to a probe. -/
theorem isOfProbe_of_isOfProbe_apply {monitor : Monitor} {event : BridgeEvent}
    (noProbe : event.isProbe = false) (unstarted : event.started? = none)
    (shown : (monitor.apply event).indicator.isOfProbe = true) :
    monitor.indicator.isOfProbe = true := by
  cases event with
  | connectStarted => cases noProbe
  | compileStarted => cases unstarted
  | connectFinished result =>
      by_cases waits : monitor.indicator = .connecting
      · rw [waits]
        rfl
      · rw [Monitor.apply, finishProbe_of_ne waits] at shown
        exact shown
  | compileLine generation line =>
      rw [Monitor.apply] at shown
      split at shown <;> exact shown
  | compileFinished generation result =>
      rw [Monitor.apply] at shown
      split at shown
      · rcases result with reason | _ | _ <;> cases shown
      · exact shown
  | compileCancelled generation =>
      rw [Monitor.apply] at shown
      split at shown
      · cases shown
      · exact shown

theorem isOfProbe_of_verdict? {monitor : Monitor} {alive : Bool}
    (verdict : monitor.indicator.verdict? = some alive) :
    monitor.indicator.isOfProbe = true := by
  cases shown : monitor.indicator <;> rw [shown] at verdict <;> cases verdict <;> rfl

theorem exists_endsWithProbe {monitor : Monitor}
    (other : monitor.indicator.isOfProbe = false) {events : List BridgeEvent}
    (shown : (monitor.applyAll events).indicator.isOfProbe = true) :
    ∃ since, EndsWithProbe events since := by
  induction events using List.reverseRecOn with
  | nil =>
      rw [show (monitor.applyAll []).indicator.isOfProbe = false from other] at shown
      cases shown
  | append_singleton earlier event induction =>
      cases probe : event.isProbe with
      | true =>
          cases event with
          | connectStarted => exact ⟨[], endsWithProbe_append_connectStarted earlier⟩
          | connectFinished | compileStarted | compileLine | compileFinished
          | compileCancelled => cases probe
      | false =>
          rw [applyAll_append] at shown
          cases started : event.started? with
          | none =>
              rcases induction (isOfProbe_of_isOfProbe_apply probe started shown) with
                ⟨since, ends⟩
              exact ⟨since ++ [event], ends.append probe started⟩
          | some generation =>
              cases event with
              | compileStarted => cases shown
              | connectStarted | connectFinished | compileLine | compileFinished
              | compileCancelled => cases started

/-! ## Agreement -/

/-- The indicator and the flag agree exactly when the answers to the latest probe
and whatever else is under way begin and end alike. -/
theorem agrees_applyAll_iff {monitor : Monitor}
    (other : monitor.indicator.isOfProbe = false) (events : List BridgeEvent) :
    (monitor.applyAll events).Agrees ↔
      ∀ since, EndsWithProbe events since →
        (answers since).head? = (answers since).getLast? := by
  rw [agrees_iff]
  constructor
  · intro agrees since ends
    have hears := monitor.hears_of_endsWithProbe ends
    cases first : (answers since).head? with
    | none => rw [List.head?_eq_none_iff.1 first, List.getLast?_nil]
    | some alive =>
        have nonempty : answers since ≠ [] := fun none => by simp [none] at first
        rw [hears.last nonempty, agrees alive (hears.first.trans first)]
  · intro alike alive verdict
    rcases exists_endsWithProbe other (isOfProbe_of_verdict? verdict) with ⟨since, ends⟩
    have hears := monitor.hears_of_endsWithProbe ends
    have first := hears.first.symm.trans verdict
    have nonempty : answers since ≠ [] := fun none => by simp [none] at first
    rw [alike since ends, hears.last nonempty] at first
    exact Option.some.inj first

end Monitor

namespace Session

/-- The indicator agrees with the flag exactly when the first and the last
answer behind the latest start of a probe do, unless a compilation has taken
the indicator since.  With one probe at a time they always agree. -/
theorem monitor_agrees_run_iff (settings : EditorSettings) (events : List SessionEvent) :
    let reports := events.filterMap SessionEvent.bridge?
    let monitor := (settings.newSession.applyAll events).monitor
    (monitor.Agrees ↔ ∀ since, EndsWithProbe reports since →
      (answers since).head? = (answers since).getLast?) ∧
    (Answered reports → OneAtATime reports → monitor.Agrees) := by
  intro reports monitor
  have agrees : monitor.Agrees ↔ ∀ since, EndsWithProbe reports since →
      (answers since).head? = (answers since).getLast? := by
    change (settings.newSession.applyAll events).monitor.Agrees ↔ _
    rw [monitor_applyAll]
    exact Monitor.agrees_applyAll_iff rfl reports
  refine ⟨agrees, fun answered single => agrees.2 fun since ends => ?_⟩
  have few := ends.length_answers_le answered single
  match answers since, few with
  | [], _ => rfl
  | [_], _ => rfl

def probedTwice : List SessionEvent :=
  [ .bridge .connectStarted,
    .bridge (.compileStarted 1),
    .bridge (.connectFinished (.ok ())),
    .bridge (.compileFinished 1 (.ok true)),
    .bridge .connectStarted,
    .workbench (.pasted ['a']),
    .bridge (.connectFinished (.error "refused".toList)) ]

theorem monitor_agrees_probedTwice :
    let reports := probedTwice.filterMap SessionEvent.bridge?
    let monitor := (EditorSettings.standard.newSession.applyAll probedTwice).monitor
    Answered reports ∧ OneAtATime reports ∧
      monitor.indicator = .notConnected ∧ monitor.connected = false := by
  intro reports monitor
  have answered : Answered reports := by decide
  have single : OneAtATime reports := by decide
  have shown : monitor.indicator = .notConnected := by decide
  have agrees := (monitor_agrees_run_iff .standard probedTwice).2 answered single
  exact ⟨answered, single, shown, agrees.notConnected shown⟩

def probedAgain : List SessionEvent :=
  [ .bridge .connectStarted,
    .bridge .connectStarted,
    .bridge (.connectFinished (.ok ())),
    .bridge (.connectFinished (.error "refused".toList)) ]

theorem not_agrees_probedAgain :
    ¬ ∀ (settings : EditorSettings) (events : List SessionEvent),
      Answered (events.filterMap SessionEvent.bridge?) →
        (settings.newSession.applyAll events).monitor.Agrees := by
  intro claim
  have agrees := claim .standard probedAgain (by decide)
  exact absurd (agrees.connected (by decide)) (by decide)

end Session

end LiveEditor
