import LiveEditor.Proofs.Session.Isolation

/-! # The output of a session

The monitor adds a line to the output when it comes from the compilation that
the indicator shows, and the error lines come from the same lines.
-/

namespace LiveEditor

def BridgeEvent.line? : BridgeEvent → Option StreamLine
  | .compileLine _ line => some line
  | _ => none

def StreamLine.lineNumbers (line : StreamLine) : List Nat :=
  (line.diagnostic?.map Diagnostics.lineNumbers).getD []

def Monitor.acceptedLine? (monitor : Monitor) : BridgeEvent → Option StreamLine
  | .compileLine generation line =>
      if monitor.isCurrent generation then some line else none
  | _ => none

theorem Monitor.generation_apply (monitor : Monitor) (event : BridgeEvent) :
    (monitor.apply event).generation = event.started?.getD monitor.generation := by
  cases event with
  | connectStarted | compileStarted => rfl
  | connectFinished result =>
      by_cases shown : monitor.indicator = .connecting
      · cases result <;> simp [Monitor.apply, finishProbe, shown, BridgeEvent.started?]
      · rw [Monitor.apply, finishProbe_of_ne shown]
        rfl
  | compileLine | compileCancelled =>
      rw [Monitor.apply]
      split <;> rfl
  | compileFinished other result =>
      rw [Monitor.apply]
      split
      · rcases result with reason | _ | _ <;> rfl
      · rfl

theorem Monitor.compiling_of_compiling_apply {monitor : Monitor} {event : BridgeEvent}
    (unstarted : event.started? = none)
    (compiling : (monitor.apply event).indicator = .compiling) :
    monitor.indicator = .compiling := by
  -- While the indicator shows a compilation, its generation is the current one.
  rcases isCurrent_of_isCurrent_apply (isCurrent_iff.2 ⟨rfl, compiling⟩) with
    started | ⟨_, _, current⟩
  · rw [unstarted] at started
    cases started
  · exact (isCurrent_iff.1 current).2

theorem Monitor.output_apply {monitor : Monitor} {event : BridgeEvent}
    (unstarted : event.started? = none) :
    (monitor.apply event).output = monitor.output ++
      (monitor.acceptedLine? event).toList.flatMap fun line => line.text ++ ['\n'] := by
  cases event with
  | connectStarted => simp [Monitor.apply, acceptedLine?]
  | compileStarted => cases unstarted
  | connectFinished result => simp [Monitor.apply, acceptedLine?]
  | compileLine generation line =>
      rw [Monitor.apply, acceptedLine?]
      split <;> simp
  | compileFinished generation result =>
      rw [Monitor.apply]
      split
      · rcases result with reason | _ | _ <;> simp [finishCompile, acceptedLine?]
      · simp [acceptedLine?]
  | compileCancelled generation =>
      rw [Monitor.apply]
      split <;> simp [acceptedLine?]

namespace Session

structure Shows (session : Session) (lines : List StreamLine) : Prop where
  output : session.monitor.output = lines.flatMap fun line => line.text ++ ['\n']
  errors : ∀ number ∈ session.errors.lines, ∃ line ∈ lines, number ∈ line.lineNumbers

theorem mem_errors_bridge_iff (session : Session) (event : BridgeEvent) (number : Nat) :
    number ∈ (session.apply (.bridge event)).errors.lines ↔
      (∃ line ∈ session.monitor.acceptedLine? event, number ∈ line.lineNumbers) ∨
        number ∈ session.errors.lines ∧ event.started? = none := by
  change number ∈ (session.errorsAfter event).lines ↔ _
  cases event with
  | connectStarted | connectFinished | compileFinished | compileCancelled =>
      simp [errorsAfter, Monitor.acceptedLine?, BridgeEvent.started?]
  | compileStarted =>
      simp [errorsAfter, Monitor.acceptedLine?, BridgeEvent.started?, ErrorLines.empty]
  | compileLine generation line =>
      rw [errorsAfter, Monitor.acceptedLine?]
      cases text : line.diagnostic? with
      | none => simp [BridgeEvent.started?, StreamLine.lineNumbers, text]
      | some diagnostic =>
          by_cases current : session.monitor.isCurrent generation = true
          · simp [current, BridgeEvent.started?, StreamLine.lineNumbers, text,
              ErrorLines.mem_lines_record, or_comm]
          · simp [current, BridgeEvent.started?]

theorem Shows.apply {session : Session} {lines : List StreamLine}
    (shows : session.Shows lines) {event : BridgeEvent}
    (unstarted : event.started? = none) :
    (session.apply (.bridge event)).Shows
      (lines ++ (session.monitor.acceptedLine? event).toList) where
  output := by
    change (session.monitor.apply event).output = _
    rw [Monitor.output_apply unstarted, shows.output, List.flatMap_append]
  errors := by
    intro number member
    rcases (session.mem_errors_bridge_iff event number).1 member with
      ⟨line, accepted, named⟩ | ⟨before, _⟩
    · exact ⟨line, List.mem_append_right _ (Option.mem_toList.2 accepted), named⟩
    · rcases shows.errors number before with ⟨line, inside, named⟩
      exact ⟨line, List.mem_append_left _ inside, named⟩

theorem shows_compileStarted (session : Session) (generation : Nat) :
    (session.apply (.bridge (.compileStarted generation))).Shows [] :=
  ⟨rfl, fun _ member => by cases member⟩

end Session

end LiveEditor
