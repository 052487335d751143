import LiveEditor.CommandLine.Run
import LiveEditor.Proofs.Editor.Subscription
import LiveEditor.Proofs.Session.Compilation

/-! # Compiling on the command line

The command prints what it is told of a compilation, and it is told over a bus
that keeps only so much.  An event tells it two things at most, and it reads
everything before it waits for the next event, so all lines are printed.
-/

namespace LiveEditor

/-! ## What a service delivers -/

/-- The pieces of a body that arrive as lines.  A body that breaks off delivers
the terminated ones, and a refusal delivers none. -/
def Response.deliveredPieces (response : Response) : List Text :=
  let pieces := Text.pieces (Utf8.decodeLossy response.body.flatten)
  if response.status.isSuccess then
    match response.ending with
    | .complete => Text.withoutEmptyEnd pieces
    | .cutOff | .held => pieces.dropLast
  else
    []

theorem Service.lines_compile (response : Response) :
    (compile (.responding response)).lines =
      response.deliveredPieces.map StreamLine.classify := by
  cases success : response.status.isSuccess with
  | false =>
      rw [compile_of_not_isSuccess success, Response.lines_refusal, Response.deliveredPieces,
        success]
      rfl
  | true =>
      rw [compile_of_isSuccess success, Response.deliveredPieces, success]
      cases ending : response.ending with
      | complete =>
          rw [Response.stream_of_complete ending]
          rfl
      | cutOff =>
          rw [Response.stream_of_cutOff ending]
          rfl
      | held =>
          rw [Response.stream, ending, ← LineSplitter.terminated_of_chunks]
          rfl

def StreamLine.LastStatusSays (lines : List StreamLine) (ok : Bool) : Prop :=
  ∃ before text after, lines = before ++ .status text ok :: after ∧
    ∀ other said, .status other said ∉ after

theorem CompileOutcome.ok_ofLines_iff (lines : List StreamLine) :
    (ofLines lines).ok = true ↔ StreamLine.LastStatusSays lines true := by
  constructor
  · intro ok
    have last : (lines.filterMap StreamLine.ok?).getLast? = some true := by
      rw [ofLines_eq] at ok
      cases said : (lines.filterMap StreamLine.ok?).getLast? with
      | none => simp [said] at ok
      | some said => simpa [said] using ok
    rcases List.getLast?_eq_some_iff.1 last with ⟨earlier, split⟩
    rcases List.filterMap_eq_append_iff.1 split with ⟨front, back, rfl, _, ends⟩
    rcases List.filterMap_eq_cons_iff.1 ends with ⟨passed, line, after, rfl, _, said, silent⟩
    cases line with
    | diagnostic => cases said
    | status text =>
        cases said
        refine ⟨front ++ passed, text, after, (List.append_assoc _ _ _).symm, ?_⟩
        intro other said member
        have counted := StreamLine.mem_filterMap_ok?.2 ⟨other, member⟩
        rw [silent] at counted
        cases counted
  · intro ⟨before, text, after, split, silent⟩
    exact (sumsUp_ofLines lines).last before text true after split silent

/-- A compilation ends well when its body does and the last status line in it says
so. -/
theorem Service.result_compile_iff (service : Service) :
    (∃ outcome, service.compile.result = some (.ok outcome) ∧ outcome.ok = true) ↔
      ∃ response, service = .responding response ∧ response.status.isSuccess = true ∧
        response.ending = .complete ∧ StreamLine.LastStatusSays service.compile.lines true := by
  cases service with
  | unreachable cause => simp [compile]
  | responding response =>
      cases success : response.status.isSuccess with
      | false =>
          refine iff_of_false ?_ (by simp [success])
          rw [compile_of_not_isSuccess success]
          exact fun ⟨outcome, ok, _⟩ => response.refusal_ne_ok outcome ok
      | true =>
          rw [compile_of_isSuccess success]
          cases ending : response.ending with
          | complete =>
              rw [Response.stream_of_complete ending]
              simp [success, ending, CompileOutcome.ok_ofLines_iff]
          | cutOff | held => simp [Response.stream, ending]


/-! ## What is printed -/

namespace CommandLine.Surroundings

theorem printLines_append (front back : List Notification) :
    printLines (front ++ back) = printLines front ++ printLines back :=
  List.flatMap_append

theorem printLines_eq (notifications : List Notification) :
    printLines notifications =
      (notifications.filterMap Notification.line?).flatMap fun line => line ++ ['\n'] := by
  induction notifications with
  | nil => rfl
  | cons notification rest induction =>
      rw [printLines, List.flatMap_cons, ← printLines, induction]
      cases notification <;> rfl

/-- What an event adds to the output is what is printed of it. -/
theorem output_apply_eq_append_printLines (session : Session) {event : BridgeEvent}
    (unstarted : event.started? = none) :
    (session.apply (.bridge event)).monitor.output =
      session.monitor.output ++
        printLines (Editor.notifications session.monitor (.bridge event)) := by
  rw [printLines_eq, Editor.filterMap_line?_notifications, List.flatMap_map]
  exact Monitor.output_apply unstarted

end CommandLine.Surroundings

/-! ## Waiting for one task -/

namespace Session

def PendingThrough (session : Session) : List BridgeEvent → Prop
  | [] => True
  | event :: rest =>
      session.monitor.indicator.isPending = true ∧
        (session.apply (.bridge event)).PendingThrough rest

theorem pendingThrough_compileEvents {session : Session} {generation : Nat}
    (current : session.monitor.isCurrent generation = true) (run : CompileRun) :
    session.PendingThrough (Editor.compileEvents generation run) := by
  rw [Editor.compileEvents]
  induction run.lines generalizing session with
  | nil =>
      cases run.result with
      | none => exact trivial
      | some result =>
          have compiling := (Monitor.isCurrent_iff.1 current).2
          exact ⟨by rw [compiling]; rfl, trivial⟩
  | cons line rest induction =>
      have compiling := (Monitor.isCurrent_iff.1 current).2
      refine ⟨by rw [compiling]; rfl, ?_⟩
      rw [apply_compileLine current]
      exact induction current

end Session

namespace Editor

variable {σ : Type} {editor : Editor σ} {event : BridgeEvent} {events : List BridgeEvent}

/-- Nothing is in the queue, and the given events are still to come from the only
task. -/
def Awaits (editor : Editor σ) (events : List BridgeEvent) : Prop :=
  editor.queue = [] ∧
    ∃ id request held, editor.tasks = [⟨id, request, events, held⟩]

theorem Awaits.outstanding (awaits : editor.Awaits events) :
    editor.outstanding = events.length := by
  rcases awaits with ⟨queue, id, request, held, tasks⟩
  simp [Editor.outstanding, queue, tasks]

variable [DocumentStore σ]

/-- The next event comes from the task, and what it tells comes behind what a
subscriber has not read. -/
theorem Awaits.exists_awaitNext (awaits : editor.Awaits (event :: events)) {subscriber : Nat}
    {told : List Notification} (unread : editor.bus.Unread subscriber told) :
    ∃ next, editor.awaitNext = (true, next) ∧ next.Awaits events ∧
      next.session = editor.session.apply (.bridge event) ∧
      next.bus.Unread subscriber
        (told ++ notifications editor.session.monitor (.bridge event)) := by
  rcases awaits with ⟨queue, id, request, held, tasks⟩
  let reported : Editor σ :=
    { editor with tasks := [⟨id, request, events, held⟩], queue := [] }
  refine ⟨reported.dispatch (.bridge event), ?_, ⟨?_, id, request, held, ?_⟩, ?_, ?_⟩
  · simp [awaitNext, queue, reportOldest, tasks, reportFirst, takeNext, reported]
  · exact queue_dispatch _ _
  · exact tasks_dispatch _ _
  · exact session_dispatch _ _
  · have reportedUnread : reported.bus.Unread subscriber told := unread
    exact unread_dispatch reportedUnread (.bridge event)

/-- A compilation that an editor without tasks starts is all that it waits for. -/
theorem awaits_compile {subscriber : Nat} {told : List Notification} (queue : editor.queue = [])
    (tasks : editor.tasks = []) (compileTask : editor.compileTask = none)
    (unread : editor.bus.Unread subscriber told) (run : CompileRun)
    (received : Request → List Request) :
    let started := (editor.compile run).sendRequests received
    started.Awaits (compileEvents editor.nextGeneration run) ∧
      started.session =
        editor.session.apply (.bridge (.compileStarted editor.nextGeneration)) ∧
      started.bus.Unread subscriber (told ++ [.stateChanged]) := by
  intro started
  have idle : editor.isCompileRunning = false := by simp [isCompileRunning, compileTask]
  have cancelled : editor.cancelCompile = { editor with compileTask := none } := by
    simp [cancelCompile, idle]
  rcases editor.tasks_compile run with ⟨request, spawned⟩
  refine ⟨⟨(queue_compile editor run).trans queue, editor.nextTask, none, run.result.isNone, ?_⟩, ?_, ?_⟩
  · simp [started, sendRequests, spawned, cancelled, tasks]
  · exact (editor.session_compile run).trans (by rw [cancelled])
  · let numbered : Editor σ :=
      { editor with compileTask := none, nextGeneration := editor.nextGeneration + 1 }
    have numberedUnread : numbered.bus.Unread subscriber told := unread
    change (editor.compile run).bus.Unread _ _
    rw [compile, cancelled]
    exact unread_dispatch numberedUnread (.bridge (.compileStarted editor.nextGeneration))

end Editor

namespace CommandLine.Surroundings

variable {editor : Editor FileStore} {event : BridgeEvent} {events : List BridgeEvent}
  {subscriber : Nat} {told : List Notification}

/-- One round: an event comes, and everything that was told until then is printed. -/
theorem exists_follow_succ (awaits : editor.Awaits (event :: events))
    (unread : editor.bus.Unread subscriber told) (few : told.length + 2 ≤ Bus.capacity)
    (pending : editor.session.monitor.indicator.isPending = true) :
    ∃ next, (∀ bound, follow subscriber (bound + 1) editor =
        (printLines (told ++ Editor.notifications editor.session.monitor (.bridge event)) ++
          (follow subscriber bound next).1, (follow subscriber bound next).2)) ∧
      next.Awaits events ∧ next.session = editor.session.apply (.bridge event) ∧
      next.bus.Unread subscriber [] := by
  rcases awaits.exists_awaitNext unread with ⟨waited, came, stillAwaits, session, more⟩
  have fits : (told ++ Editor.notifications editor.session.monitor (.bridge event)).length ≤
      Bus.capacity := by
    have two := Editor.length_notifications_le editor.session.monitor (.bridge event)
    rw [List.length_append]
    omega
  refine ⟨{ waited with bus := (waited.bus.drain subscriber).2 }, fun bound => ?_,
    stillAwaits, session, more.drain.2⟩
  rw [follow, if_pos pending, came]
  simp only [more.drain_of_le fits]

/-- Following a task to its end prints what its events add to the output.  The end
of the task ends the loop, however many rounds are left. -/
theorem follow_awaited (awaits : editor.Awaits events)
    (unread : editor.bus.Unread subscriber told) (few : told.length + 2 ≤ Bus.capacity)
    (silent : printLines told = []) (pending : editor.session.PendingThrough events)
    (unstarted : ∀ event ∈ events, event.started? = none)
    (ended : (editor.session.applyAll (events.map .bridge)).monitor.indicator.isPending = false)
    (rounds : Nat) :
    (follow subscriber (events.length + rounds) editor).2.session =
        editor.session.applyAll (events.map .bridge) ∧
      (editor.session.applyAll (events.map .bridge)).monitor.output =
        editor.session.monitor.output ++
          (follow subscriber (events.length + rounds) editor).1 := by
  induction events generalizing editor told with
  | nil =>
      have stops : follow subscriber (0 + rounds) editor = ([], editor) := by
        cases rounds with
        | zero => rfl
        | succ rounds => exact if_neg (Bool.eq_false_iff.1 ended)
      rw [List.length_nil, stops]
      exact ⟨rfl, (List.append_nil _).symm⟩
  | cons event rest induction =>
      rcases exists_follow_succ awaits unread few pending.1 with
        ⟨next, follows, nextAwaits, session, nextUnread⟩
      have output := output_apply_eq_append_printLines editor.session
        (unstarted event List.mem_cons_self)
      rw [List.map_cons, Session.applyAll_cons, ← session] at ended ⊢
      rw [← session] at output
      have later := induction nextAwaits nextUnread (Nat.le_of_ble_eq_true rfl) rfl
        (session ▸ pending.2) (fun other member => unstarted other (List.mem_cons_of_mem _ member))
        ended
      rw [List.length_cons, Nat.add_right_comm, follows]
      refine ⟨later.1, ?_⟩
      rw [later.2, output, printLines_append, silent, List.nil_append, List.append_assoc]

/-! ## A whole command -/

def handleOf (surroundings : Surroundings) (file : Text) : Text :=
  (surroundings.pathOf file).direct.toText

def finalSession (surroundings : Surroundings) (settings : Settings) (file text : Text)
    (run : CompileRun) : Session :=
  settings.editor.newSession.applyAll
    (.workbench (.documentOpened (surroundings.handleOf file) text) ::
      (.compileStarted 1 :: Editor.compileEvents 1 run).map .bridge)

variable {surroundings : Surroundings} {settings : Settings} {file text : Text}

def startedEditor (surroundings : Surroundings) (settings : Settings) (file text : Text) :
    Editor FileStore :=
  let service := (surroundings.bridgeAt settings.bridge).compile
  let fresh := surroundings.editor settings
  let opened := { fresh with bus := fresh.bus.subscribe.2 }.act
    (.documentOpened (surroundings.handleOf file) text)
  (opened.compile service.compile).sendRequests service.received

theorem compile_eq_follow
    (readable : (surroundings.editor settings).store.load (surroundings.handleOf file) =
      .ok text) :
    surroundings.compile settings file =
      let started := surroundings.startedEditor settings file text
      let followed := follow (surroundings.editor settings).bus.subscribe.1
        started.outstanding started
      { exitCode := exitCodeOf (followed.2.session.monitor.indicator == .success)
        output := followed.1
        errors := closingMessage followed.2.session
        requests := started.requests } := by
  unfold CommandLine.Surroundings.compile startedEditor
  dsimp only
  rcases (surroundings.editor settings).bus.subscribe with ⟨subscriber, bus⟩
  have opened : ({ surroundings.editor settings with bus } : Editor FileStore).openDocument
      (surroundings.handleOf file) = (.ok (), ({ surroundings.editor settings with bus } :
        Editor FileStore).act (.documentOpened (surroundings.handleOf file) text)) :=
    Editor.openDocument_of_load readable
  rw [handleOf] at opened
  rw [opened]
  rfl

/-- The editor waits for the compilation, whose session has no output yet, and the
subscriber has been told twice. -/
theorem startedEditor_awaits (surroundings : Surroundings) (settings : Settings)
    (file text : Text) :
    let run := (surroundings.bridgeAt settings.bridge).compile.compile
    let started := surroundings.startedEditor settings file text
    started.Awaits (Editor.compileEvents 1 run) ∧
      started.session = settings.editor.newSession.applyAll
        [.workbench (.documentOpened (surroundings.handleOf file) text),
          .bridge (.compileStarted 1)] ∧
      started.bus.Unread (surroundings.editor settings).bus.subscribe.1
        [.stateChanged, .stateChanged] := by
  intro run started
  let fresh := surroundings.editor settings
  let subscribed : Editor FileStore := { fresh with bus := fresh.bus.subscribe.2 }
  have subscribedUnread : subscribed.bus.Unread fresh.bus.subscribe.1 [] :=
    fresh.bus.unread_subscribe
  let event := WorkbenchEvent.documentOpened (surroundings.handleOf file) text
  let opened := subscribed.act event
  have openedSession : opened.session = subscribed.session.apply (.workbench event) :=
    subscribed.session_dispatch _
  have generation : opened.nextGeneration = 1 := subscribed.nextGeneration_dispatch _
  have openedUnread : opened.bus.Unread fresh.bus.subscribe.1 [.stateChanged] :=
    Editor.unread_dispatch subscribedUnread (.workbench event)
  rcases Editor.awaits_compile (subscribed.queue_dispatch _) (subscribed.tasks_dispatch _)
    (subscribed.compileTask_dispatch _) openedUnread run
    (surroundings.bridgeAt settings.bridge).compile.received with
    ⟨awaits, session, unread⟩
  change started.Awaits (Editor.compileEvents opened.nextGeneration run) at awaits
  change started.session =
    opened.session.apply (.bridge (.compileStarted opened.nextGeneration)) at session
  rw [generation] at awaits session
  exact ⟨awaits, session.trans (by rw [openedSession]; rfl), unread⟩

/-- The command prints the output of the final session, and takes its message and its
exit code from there. -/
theorem compile_eq_of_ended
    (readable : (surroundings.editor settings).store.load (surroundings.handleOf file) =
      .ok text)
    {result : Except BridgeError CompileOutcome}
    (ended : (surroundings.bridgeAt settings.bridge).compile.compile.result = some result) :
    let run := (surroundings.bridgeAt settings.bridge).compile.compile
    let session := surroundings.finalSession settings file text run
    let outcome := surroundings.compile settings file
    session.Concludes run.lines result ∧
      outcome.output = session.monitor.output ∧
      outcome.errors = closingMessage session ∧
      outcome.exitCode = exitCodeOf (session.monitor.indicator == .success) := by
  intro run session outcome
  let started := surroundings.startedEditor settings file text
  have ⟨awaits, startedSession, unread⟩ :=
    startedEditor_awaits surroundings settings file text
  change started.Awaits _ at awaits
  change started.session = _ at startedSession
  have final : started.session.applyAll ((Editor.compileEvents 1 run).map .bridge) =
      session := by
    rw [startedSession, ← Session.applyAll_append]
    rfl
  have concludes : session.Concludes run.lines result :=
    Session.concludes_compileEvents _ 1 ended
  have current : started.session.monitor.isCurrent 1 = true := by
    rw [startedSession]
    rfl
  have unstarted : ∀ event ∈ Editor.compileEvents 1 run, event.started? = none := by
    simp [Editor.compileEvents, or_imp, forall_and, BridgeEvent.started?]
  have follows := follow_awaited awaits unread (Nat.le_of_ble_eq_true rfl) rfl
    (Session.pendingThrough_compileEvents current run) unstarted
    (final ▸ concludes.isPending_eq_false) 0
  have nothing : started.session.monitor.output = [] := by
    rw [startedSession]
    rfl
  rw [final, Nat.add_zero, ← awaits.outstanding, nothing, List.nil_append] at follows
  have outcomeEq : outcome = _ := compile_eq_follow readable
  refine ⟨concludes, ?_, ?_, ?_⟩
  · rw [outcomeEq, follows.2]
  · rw [outcomeEq, ← follows.1]
  · rw [outcomeEq, ← follows.1]

theorem errorLinesMessage_of_nil {errors : ErrorLines} (none : errors.lines = []) :
    errorLinesMessage errors = [] := by
  rw [errorLinesMessage, ErrorLines.isEmpty, none]
  rfl

theorem errorLinesMessage_of_ne_nil {errors : ErrorLines} (some : errors.lines ≠ []) :
    errorLinesMessage errors = "error lines: ".toList ++
      [',', ' '].intercalate (errors.lines.map (Nat.toDigits 10)) ++ ['\n'] := by
  have filled : ¬ errors.lines.isEmpty = true := fun empty =>
    some (List.isEmpty_iff.1 empty)
  rw [errorLinesMessage, ErrorLines.isEmpty, if_neg filled]

theorem exitCodeOf_eq_zero_iff (ok : Bool) : exitCodeOf ok = 0 ↔ ok = true := by
  cases ok <;> simp [exitCodeOf]

/-- A readable file is compiled to the end of its exchange, whatever the bridge answers
and however much it sends.  All lines that are delivered are printed, in order and
each with a line feed behind it, and they are the output of the session.  The message
names the error lines of the session in ascending order, and no error lines give no
such message.  The exit code tells success exactly if the status was a success, the
body came to its end and the last status line in it said that all was well. -/
theorem compile_prints_all_lines {invocation : Invocation}
    (loaded : surroundings.settings invocation = .ok settings)
    (command : invocation.command = .compile file)
    (readable : (surroundings.editor settings).store.load (surroundings.handleOf file) =
      .ok text)
    (unheld : ∀ response, (surroundings.bridgeAt settings.bridge).compile =
      .responding response → response.ending ≠ .held) :
    let service := (surroundings.bridgeAt settings.bridge).compile
    let lines := service.compile.lines
    let session := surroundings.finalSession settings file text service.compile
    let outcome := surroundings.run invocation
    (∀ response, service = .responding response →
      lines = response.deliveredPieces.map StreamLine.classify) ∧
    outcome.output = (lines.flatMap fun line => line.text ++ ['\n']) ∧
    outcome.output = session.monitor.output ∧
    (∃ message, outcome.errors = message ++ describe session.monitor ++ ['\n'] ∧
      (session.errors.lines = [] → message = []) ∧
      (session.errors.lines ≠ [] → message = "error lines: ".toList ++
        [',', ' '].intercalate (session.errors.lines.map (Nat.toDigits 10)) ++ ['\n'])) ∧
    session.errors.lines.Pairwise (· < ·) ∧
    (∀ number, number ∈ session.errors.lines ↔
      ∃ text, .diagnostic text ∈ lines ∧ number ∈ Diagnostics.lineNumbers text) ∧
    (outcome.exitCode = 0 ∨ outcome.exitCode = 1) ∧
    (outcome.exitCode = 0 ↔
      ∃ response, service = .responding response ∧ response.status.isSuccess = true ∧
        response.ending = .complete ∧ StreamLine.LastStatusSays lines true) := by
  intro service lines session outcome
  have ran : outcome = surroundings.compile settings file := by
    simp only [outcome, run, loaded, command]
  have ⟨result, ended⟩ : ∃ result, service.compile.result = some result := by
    cases found : service with
    | unreachable cause => exact ⟨_, rfl⟩
    | responding response => exact Service.exists_result_compile (unheld response found)
  have ⟨concludes, output, errors, exitCode⟩ := compile_eq_of_ended readable ended
  rw [← ran] at output errors exitCode
  change outcome.exitCode = exitCodeOf (session.monitor.indicator == .success) at exitCode
  have success : session.monitor.indicator = .success ↔
      ∃ outcome, service.compile.result = some (.ok outcome) ∧ outcome.ok = true := by
    rw [concludes.success, ended]
    simp only [Option.some_inj]
  refine ⟨?_, output.trans concludes.output, output, ⟨_, errors, ?_, ?_⟩,
    session.errors.ascending, concludes.errors, ?_, ?_⟩
  · intro response responds
    change service.compile.lines = _
    rw [responds, Service.lines_compile]
  · exact errorLinesMessage_of_nil
  · exact errorLinesMessage_of_ne_nil
  · rw [exitCode, exitCodeOf]
    split
    · exact .inl rfl
    · exact .inr rfl
  · rw [exitCode, exitCodeOf_eq_zero_iff, beq_iff_eq, success]
    exact service.result_compile_iff

def longResponse : Response where
  status := ⟨200⟩
  chunks := List.replicate 300 [97, 10] ++
    [[123, 34, 111, 107, 34, 58, 32], [116, 114, 117, 101, 125]]
  bodyEnd := .complete
  delay := 0

def talkative : Surroundings where
  tree := ⟨[("a.kt".toList, .file [98])]⟩
  workingDirectory := ⟨true, []⟩
  settingsDirectory := ⟨true, ["home".toList]⟩
  scratchDirectory := ⟨true, ["tmp".toList]⟩
  bridgeAt := fun _ => ⟨.responding longResponse, .responding longResponse⟩

theorem compile_prints_all_lines_talkative :
    let outcome := talkative.run ⟨none, none, .compile "a.kt".toList⟩
    outcome.output = (List.replicate 300 "a\n".toList).flatten ++
        "\x7b\"ok\": true\x7d\n".toList ∧
      outcome.exitCode = 0 := by
  intro outcome
  have ⟨delivered, output, _, _, _, _, _, exitCode⟩ :=
    @compile_prints_all_lines talkative .standard "a.kt".toList "b".toList
      ⟨none, none, .compile "a.kt".toList⟩ rfl rfl rfl
      (fun response responds => by
        cases responds
        decide)
  have lines := delivered longResponse rfl
  rw [lines] at output exitCode
  refine ⟨output.trans (by decide +kernel), exitCode.2 ⟨longResponse, rfl, rfl, rfl, ?_⟩⟩
  exact ⟨List.replicate 300 (.diagnostic ['a']), "\x7b\"ok\": true\x7d".toList, [],
    by decide +kernel, by simp⟩

end CommandLine.Surroundings

end LiveEditor
