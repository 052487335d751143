import LiveEditor.Editor.Basic
import LiveEditor.Proofs.Session.Interleaving
import LiveEditor.Proofs.Session.Isolation

/-! # The indicator and what stands beside it

Three fields of a monitor tell what goes on with the bridge: the indicator, the
connection, and the reason of the last failure.  Every event changes some of
them and looks at others.  `Indicator.Allows` lists what may stand beside each
indicator; all events keep to the list, and everything on it comes about.
-/

namespace LiveEditor

namespace Connection

theorem probeStarted_ne_disconnected (connection : Connection) :
    connection.probeStarted ≠ .disconnected := by
  cases connection <;> decide

theorem probeFinished_ne_probing (connection : Connection) :
    connection.probeFinished ≠ .probing := by
  cases connection <;> decide

theorem probeFinished_of_ne_probing {connection : Connection}
    (other : connection ≠ .probing) : connection.probeFinished = connection := by
  cases connection with
  | probing => exact absurd rfl other
  | disconnected | streaming => rfl

end Connection

/-- The connections and reasons that may stand beside an indicator.  An answer
to a probe says nothing about a stream, which may go on behind it. -/
def Indicator.Allows (connection : Connection) (detail : Option Text) : Indicator → Prop
  | .idle | .success => connection = .disconnected ∧ detail = none
  | .connecting => connection ≠ .disconnected ∧ detail = none
  | .connected => connection ≠ .probing ∧ detail = none
  | .notConnected => connection ≠ .probing ∧ detail ≠ none
  | .compiling => connection = .streaming ∧ detail = none
  | .failed => connection = .disconnected

namespace Monitor

structure Coherent (monitor : Monitor) : Prop where
  compiling : monitor.indicator = .compiling →
    monitor.connection = .streaming ∧ monitor.detail = none
  probing : monitor.connection = .probing → monitor.indicator = .connecting
  connecting : monitor.indicator = .connecting →
    monitor.connection ≠ .disconnected ∧ monitor.detail = none
  resting : monitor.indicator = .idle ∨ monitor.indicator = .success ∨
    monitor.indicator = .failed → monitor.connection = .disconnected
  notConnected : monitor.indicator = .notConnected → monitor.detail ≠ none
  detail : monitor.detail ≠ none →
    monitor.indicator = .notConnected ∨ monitor.indicator = .failed

def Allowed (monitor : Monitor) : Prop :=
  monitor.indicator.Allows monitor.connection monitor.detail

theorem coherent_iff_allowed (monitor : Monitor) : monitor.Coherent ↔ monitor.Allowed := by
  constructor
  · intro coherent
    have ⟨compiling, probing, connecting, resting, notConnected, detail⟩ := coherent
    rw [Allowed]
    cases shown : monitor.indicator <;> simp_all [Indicator.Allows]
  · intro allowed
    rw [Allowed] at allowed
    constructor <;> cases shown : monitor.indicator <;> simp_all [Indicator.Allows]

/-! ## What events keep -/

theorem Allowed.not_probing {monitor : Monitor} (allowed : monitor.Allowed)
    (other : monitor.indicator ≠ .connecting) : monitor.connection ≠ .probing := by
  intro probing
  exact other (((coherent_iff_allowed monitor).2 allowed).probing probing)

theorem Allowed.detail_of_isCurrent {monitor : Monitor} (allowed : monitor.Allowed)
    {generation : Nat} (current : monitor.isCurrent generation = true) :
    monitor.detail = none := by
  have compiling := (isCurrent_iff.1 current).2
  exact (((coherent_iff_allowed monitor).2 allowed).compiling compiling).2

theorem Allowed.finishProbe {monitor : Monitor} (allowed : monitor.Allowed)
    (result : Except Text Unit) : (monitor.finishProbe result).Allowed := by
  by_cases shown : monitor.indicator = .connecting
  · -- The probe that was waited for has the indicator, and its answer gives the reason.
    have answered := monitor.connection.probeFinished_ne_probing
    cases result with
    | ok =>
        rw [Monitor.finishProbe, if_pos shown]
        exact ⟨answered, rfl⟩
    | error reason =>
        rw [Monitor.finishProbe, if_pos shown]
        exact ⟨answered, Option.some_ne_none reason⟩
  · have kept := Connection.probeFinished_of_ne_probing (allowed.not_probing shown)
    rw [finishProbe_of_ne shown, kept]
    exact allowed

theorem Allowed.apply {monitor : Monitor} (allowed : monitor.Allowed) (event : BridgeEvent) :
    (monitor.apply event).Allowed := by
  cases event with
  | connectStarted => exact ⟨monitor.connection.probeStarted_ne_disconnected, rfl⟩
  | connectFinished result => exact allowed.finishProbe result
  | compileStarted => exact ⟨rfl, rfl⟩
  | compileLine generation line =>
      rw [Monitor.apply]
      split <;> exact allowed
  | compileFinished generation result =>
      rw [Monitor.apply]
      split
      · next current =>
          rcases result with reason | _ | _
          · rfl
          · rfl
          · exact ⟨rfl, allowed.detail_of_isCurrent current⟩
      · exact allowed
  | compileCancelled generation =>
      rw [Monitor.apply]
      split
      · next current => exact ⟨rfl, allowed.detail_of_isCurrent current⟩
      · exact allowed

theorem Allowed.applyAll {monitor : Monitor} (allowed : monitor.Allowed)
    (events : List BridgeEvent) : (monitor.applyAll events).Allowed := by
  induction events generalizing monitor with
  | nil => exact allowed
  | cons event rest induction => exact induction (allowed.apply event)

/-! ## What comes about -/

def wayTo (connection : Connection) (detail : Option Text) : Indicator → List BridgeEvent
  | .idle => []
  | .connecting => stream ++ [.connectStarted]
  | .connected => stream ++ [.connectStarted, .connectFinished (.ok ())]
  | .notConnected =>
      stream ++ [.connectStarted, .connectFinished (.error (detail.getD []))]
  | .compiling => [.compileStarted 1]
  | .success => [.compileStarted 1, .compileFinished 1 (.ok true)]
  | .failed =>
      [.compileStarted 1,
        .compileFinished 1 (match detail with
          | none => .ok false
          | some reason => .error reason)]
where
  stream := if connection = .streaming then [.compileStarted 1] else []

theorem applyAll_wayTo {indicator : Indicator} {connection : Connection}
    {detail : Option Text} (allows : indicator.Allows connection detail) :
    let reached := Monitor.applyAll {} (wayTo connection detail indicator)
    reached.indicator = indicator ∧ reached.connection = connection ∧
      reached.detail = detail := by
  cases indicator with
  | idle | success | compiling =>
      rcases allows with ⟨rfl, rfl⟩
      exact ⟨rfl, rfl, rfl⟩
  | connecting =>
      rcases allows with ⟨held, rfl⟩
      cases connection with
      | disconnected => exact absurd rfl held
      | probing | streaming => exact ⟨rfl, rfl, rfl⟩
  | connected =>
      rcases allows with ⟨answered, rfl⟩
      cases connection with
      | probing => exact absurd rfl answered
      | disconnected | streaming => exact ⟨rfl, rfl, rfl⟩
  | notConnected =>
      rcases allows with ⟨answered, failed⟩
      rcases Option.ne_none_iff_exists'.1 failed with ⟨reason, rfl⟩
      cases connection with
      | probing => exact absurd rfl answered
      | disconnected | streaming => exact ⟨rfl, rfl, rfl⟩
  | failed =>
      have released : connection = .disconnected := allows
      rw [released]
      cases detail <;> exact ⟨rfl, rfl, rfl⟩

end Monitor

namespace Session

/-- Whatever happens to a session, the indicator, the connection and the reason
do not contradict each other; and whenever they do not, some events lead to
them. -/
theorem monitor_coherent_run (settings : EditorSettings) :
    (∀ events : List SessionEvent,
      (settings.newSession.applyAll events).monitor.Coherent) ∧
    ∀ shown : Monitor, shown.Coherent → ∃ events : List SessionEvent,
      let reached := (settings.newSession.applyAll events).monitor
      reached.indicator = shown.indicator ∧ reached.connection = shown.connection ∧
        reached.detail = shown.detail := by
  constructor
  · intro events
    have start : Monitor.Allowed {} := ⟨rfl, rfl⟩
    rw [monitor_applyAll, Monitor.coherent_iff_allowed]
    exact start.applyAll (events.filterMap SessionEvent.bridge?)
  · intro shown coherent
    have allowed := (Monitor.coherent_iff_allowed shown).1 coherent
    let way := Monitor.wayTo shown.connection shown.detail shown.indicator
    refine ⟨way.map .bridge, ?_⟩
    rw [monitor_applyAll, (Interleaves.of_reports way).filterMap_bridge?]
    exact Monitor.applyAll_wayTo allowed

end Session

end LiveEditor
