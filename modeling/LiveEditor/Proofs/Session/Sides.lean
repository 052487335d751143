import LiveEditor.Session.Basic

/-! # The two sides of a session

Every event belongs to the workbench or to the bridge, and a side sees its own
events only: after any events it is what its own ones have made of it.
-/

namespace LiveEditor

namespace SessionEvent

def workbench? : SessionEvent → Option WorkbenchEvent
  | .workbench event => some event
  | .bridge _ => none

def bridge? : SessionEvent → Option BridgeEvent
  | .workbench _ => none
  | .bridge event => some event

theorem mem_filterMap_bridge? {event : BridgeEvent} {events : List SessionEvent} :
    event ∈ events.filterMap bridge? ↔ .bridge event ∈ events := by
  rw [List.mem_filterMap]
  constructor
  · rintro ⟨source, member, equal⟩
    cases source with
    | workbench _ => cases equal
    | bridge _ =>
        cases equal
        exact member
  · intro member
    exact ⟨.bridge event, member, rfl⟩

end SessionEvent

def Workbench.applyAll (bench : Workbench) (events : List WorkbenchEvent) :
    Workbench :=
  events.foldl Workbench.apply bench

def Monitor.applyAll (monitor : Monitor) (events : List BridgeEvent) : Monitor :=
  events.foldl Monitor.apply monitor

theorem Monitor.applyAll_cons (monitor : Monitor) (event : BridgeEvent)
    (rest : List BridgeEvent) :
    monitor.applyAll (event :: rest) = (monitor.apply event).applyAll rest := rfl

theorem Monitor.applyAll_append (monitor : Monitor) (front back : List BridgeEvent) :
    monitor.applyAll (front ++ back) = (monitor.applyAll front).applyAll back :=
  List.foldl_append

namespace Session

theorem applyAll_cons (session : Session) (event : SessionEvent)
    (rest : List SessionEvent) :
    session.applyAll (event :: rest) = (session.apply event).applyAll rest := rfl

theorem applyAll_append (session : Session) (front back : List SessionEvent) :
    session.applyAll (front ++ back) = (session.applyAll front).applyAll back :=
  List.foldl_append

theorem workbench_applyAll (session : Session) (events : List SessionEvent) :
    (session.applyAll events).workbench =
      session.workbench.applyAll (events.filterMap SessionEvent.workbench?) := by
  induction events generalizing session with
  | nil => rfl
  | cons event rest hypothesis =>
      rw [applyAll_cons, hypothesis]
      cases event <;> rfl

theorem monitor_applyAll (session : Session) (events : List SessionEvent) :
    (session.applyAll events).monitor =
      session.monitor.applyAll (events.filterMap SessionEvent.bridge?) := by
  induction events generalizing session with
  | nil => rfl
  | cons event rest hypothesis =>
      rw [applyAll_cons, hypothesis]
      cases event <;> rfl

theorem errors_workbench_subset (session : Session) (event : WorkbenchEvent) :
    (session.apply (.workbench event)).errors.lines ⊆ session.errors.lines := by
  rw [apply]
  dsimp only
  split
  · exact List.nil_subset _
  · exact List.Subset.refl _

theorem clearErrorsOnEdit_applyAll (session : Session) (events : List SessionEvent) :
    (session.applyAll events).clearErrorsOnEdit = session.clearErrorsOnEdit := by
  induction events generalizing session with
  | nil => rfl
  | cons event rest hypothesis =>
      rw [applyAll_cons, hypothesis]
      cases event <;> rfl

end Session

end LiveEditor
