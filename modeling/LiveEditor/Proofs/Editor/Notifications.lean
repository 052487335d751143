import LiveEditor.Proofs.Editor.Operations
import LiveEditor.Proofs.Session.ErrorLines
import Mathlib.Data.List.Induction

/-! # Notifications and the session

Whether subscribers hear of a line or of an end is decided before the event
happens, and whether the session takes it is decided when it happens.  The two
decisions are the same: the lines that were told since the latest start of a
compilation are the output, and an end is told exactly when the indicator goes
from compiling to how it ended.
-/

namespace LiveEditor

def Notification.line? : Notification → Option Text
  | .compileLine line => some line
  | _ => none

theorem Bus.history_foldl_emit (bus : Bus) (notifications : List Notification) :
    (notifications.foldl Bus.emit bus).history = bus.history ++ notifications := by
  induction notifications generalizing bus with
  | nil => exact (List.append_nil _).symm
  | cons notification rest induction =>
      rw [List.foldl_cons, induction, history_emit, List.append_assoc, List.singleton_append]

/-- The latest start of a compilation divides events into those up to it and
those since.  If there was none, all are since. -/
structure SessionEvent.DividedAtStart (events front since : List SessionEvent) : Prop where
  whole : events = front ++ since
  started : ∀ event ∈ front.getLast?, event.started? ≠ none
  unstarted : ∀ event ∈ since, event.started? = none

theorem SessionEvent.DividedAtStart.append {events front since : List SessionEvent}
    (divided : DividedAtStart events front since) {event : SessionEvent}
    (unstarted : event.started? = none) :
    DividedAtStart (events ++ [event]) front (since ++ [event]) where
  whole := by rw [divided.whole, List.append_assoc]
  started := divided.started
  unstarted := List.forall_mem_append.2
    ⟨divided.unstarted, List.forall_mem_singleton.2 unstarted⟩

theorem SessionEvent.dividedAtStart_append_started (events : List SessionEvent)
    {event : SessionEvent} (started : event.started? ≠ none) :
    DividedAtStart (events ++ [event]) (events ++ [event]) [] where
  whole := (List.append_nil _).symm
  started := by simpa using started
  unstarted := List.forall_mem_nil _

namespace Editor

/-! ## What is told of an event -/

def notifications (monitor : Monitor) (event : SessionEvent) : List Notification :=
  (notification? monitor event).toList ++ [.stateChanged]

theorem filterMap_line?_notifications (session : Session) (event : SessionEvent) :
    (notifications session.monitor event).filterMap Notification.line? =
      (session.acceptedLine? event).toList.map StreamLine.text := by
  cases event with
  | workbench => rfl
  | bridge event =>
      cases event with
      | compileLine generation line =>
          simp only [notifications, notification?, Session.acceptedLine?,
            SessionEvent.bridge?, Option.bind_some, Monitor.acceptedLine?]
          split <;> rfl
      | compileFinished generation result =>
          rw [notifications, notification?]
          split <;> rfl
      | connectStarted | connectFinished | compileStarted | compileCancelled => rfl

theorem notification?_ne_stateChanged (monitor : Monitor) (event : SessionEvent) :
    notification? monitor event ≠ some .stateChanged := by
  cases event with
  | workbench => nofun
  | bridge event =>
      cases event with
      | compileLine | compileFinished =>
          rw [notification?]
          split <;> nofun
      | connectStarted | connectFinished | compileStarted | compileCancelled => nofun

/-- Nothing but its end brings the indicator from a compilation to how it ended. -/
theorem indicator_apply_ne_of_not_finished {monitor : Monitor} {event : BridgeEvent}
    (compiling : monitor.indicator = .compiling)
    (other : ∀ generation result, event = .compileFinished generation result →
      monitor.isCurrent generation = false) (ok : Bool) :
    (monitor.apply event).indicator ≠ if ok then .success else .failed := by
  cases event with
  | connectStarted | compileStarted => cases ok <;> nofun
  | connectFinished result =>
      have answered : monitor.indicator ≠ .connecting := by simp [compiling]
      rw [Monitor.apply, Monitor.finishProbe_of_ne answered]
      cases ok <;> simp [compiling]
  | compileLine generation line =>
      rw [Monitor.apply]
      split <;> cases ok <;> simp [compiling]
  | compileFinished generation result =>
      rw [Monitor.apply, other generation result rfl]
      cases ok <;> simp [compiling]
  | compileCancelled generation =>
      rw [Monitor.apply]
      split <;> cases ok <;> simp [compiling]

theorem notification?_eq_compileFinished_iff (session : Session) (event : SessionEvent)
    (ok : Bool) :
    notification? session.monitor event = some (.compileFinished ok) ↔
      session.monitor.indicator = .compiling ∧
        (session.apply event).monitor.indicator = if ok then .success else .failed := by
  cases event with
  | workbench event =>
      refine iff_of_false (by simp [notification?]) fun ends => ?_
      change _ ∧ session.monitor.indicator = _ at ends
      rw [ends.1] at ends
      cases ok <;> cases ends.2
  | bridge event =>
      change _ ↔ _ ∧ (session.monitor.apply event).indicator = _
      cases event with
      | compileFinished generation result =>
          rw [notification?]
          split
          · next current =>
              have compiling := (Monitor.isCurrent_iff.1 current).2
              rw [Monitor.apply, if_pos current]
              rcases result with reason | _ | _ <;> cases ok <;>
                simp [compiling, Monitor.finishCompile, Except.toOption]
          · next stale =>
              refine iff_of_false (by simp) fun ends => ?_
              apply indicator_apply_ne_of_not_finished ends.1 _ ok ends.2
              intro other _ equal
              cases equal
              exact Bool.eq_false_iff.2 stale
      | connectStarted | connectFinished | compileStarted | compileCancelled =>
          refine iff_of_false (by simp [notification?]) fun ends => ?_
          exact indicator_apply_ne_of_not_finished ends.1 (by simp) ok ends.2
      | compileLine generation line =>
          refine iff_of_false ?_ fun ends => ?_
          · rw [notification?]
            split <;> simp
          · exact indicator_apply_ne_of_not_finished ends.1 (by simp) ok ends.2

variable {σ : Type} [DocumentStore σ]

theorem history_dispatch (editor : Editor σ) (event : SessionEvent) :
    (editor.dispatch event).bus.history =
      editor.bus.history ++ notifications editor.session.monitor event := by
  rcases editor.exists_dispatch_eq event with ⟨store, equal⟩
  rw [equal]
  exact Bus.history_foldl_emit _ _

/-! ## What is told of a run -/

/-- The output accounts for lines, and these are the ones that were told since
the latest start of a compilation. -/
theorem exists_told (editor : Editor σ) (fresh : editor.session.Accounts [])
    (events : List SessionEvent) :
    ∃ front since told lines, SessionEvent.DividedAtStart events front since ∧
      (editor.dispatchAll events).bus.history =
        (editor.dispatchAll front).bus.history ++ told ∧
      (editor.dispatchAll events).session.Accounts lines ∧
      told.filterMap Notification.line? = lines.map StreamLine.text := by
  induction events using List.reverseRecOn with
  | nil =>
      have divided : SessionEvent.DividedAtStart [] [] [] :=
        ⟨rfl, nofun, List.forall_mem_nil _⟩
      exact ⟨[], [], [], [], divided, (List.append_nil _).symm, fresh, rfl⟩
  | append_singleton events event induction =>
      by_cases unstarted : event.started? = none
      · rcases induction with ⟨front, since, told, lines, divided, history, accounts, same⟩
        let session := (editor.dispatchAll events).session
        refine ⟨front, since ++ [event], told ++ notifications session.monitor event,
          lines ++ (session.acceptedLine? event).toList, divided.append unstarted, ?_, ?_, ?_⟩
        · rw [dispatchAll_append_singleton, history_dispatch, history, List.append_assoc]
        · rw [dispatchAll_append_singleton, session_dispatch]
          exact accounts.apply unstarted
        · rw [List.filterMap_append, same, filterMap_line?_notifications, List.map_append]
      · refine ⟨events ++ [event], [], [], [],
          SessionEvent.dividedAtStart_append_started events unstarted,
          (List.append_nil _).symm, ?_, rfl⟩
        rw [dispatchAll_append_singleton, session_dispatch]
        exact Session.accounts_of_started unstarted

/-- Whatever events an editor dispatches, the lines that subscribers were told
since the latest start of a compilation are the output.  And whichever event
comes next, they are told that the session has changed, once and at the end;
and before that, an end of a compilation exactly when the indicator goes from
compiling to success or failure. -/
theorem notifications_match_session (settings : EditorSettings) (store : σ)
    (grammars : σ → Text → Option Grammar) (events : List SessionEvent) :
    let start := initial settings store grammars
    let editor := start.dispatchAll events
    (∃ front since told, SessionEvent.DividedAtStart events front since ∧
      editor.bus.history = (start.dispatchAll front).bus.history ++ told ∧
      editor.session.monitor.output =
        (told.filterMap Notification.line?).flatMap fun line => line ++ ['\n']) ∧
    ∀ event, let next := editor.dispatch event
      ∃ told : Option Notification,
        next.bus.history = editor.bus.history ++ (told.toList ++ [.stateChanged]) ∧
        told ≠ some .stateChanged ∧
        ∀ ok, told = some (.compileFinished ok) ↔
          editor.session.monitor.indicator = .compiling ∧
            next.session.monitor.indicator = if ok then .success else .failed := by
  intro start editor
  constructor
  · rcases exists_told start (Session.accounts_newSession settings) events with
      ⟨front, since, told, lines, divided, history, accounts, same⟩
    refine ⟨front, since, told, divided, history, ?_⟩
    rw [same, List.flatMap_map]
    exact accounts.output
  · intro event next
    refine ⟨_, editor.history_dispatch event, notification?_ne_stateChanged _ event, ?_⟩
    intro ok
    rw [notification?_eq_compileFinished_iff, ← session_dispatch]

end Editor

end LiveEditor
