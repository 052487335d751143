import LiveEditor.Editor.Background
import LiveEditor.Proofs.Bridge.Exchange
import LiveEditor.Proofs.Session.Output

/-! # A compilation in a session

The events of one compilation, with nothing else in between, put exactly what
was delivered into the output and the error lines, and show how it ended.
-/

namespace LiveEditor

theorem ErrorLines.insertAll_append (set : ErrorLines) (front back : List Nat) :
    set.insertAll (front ++ back) = (set.insertAll front).insertAll back :=
  List.foldl_append

/-! ## The indicator and the reason at the end -/

theorem Indicator.ofResult_eq_success_iff {result : Except Text Bool} :
    ofResult result = .success ↔ result = .ok true := by
  rcases result with reason | _ | _ <;> simp [ofResult]

theorem Indicator.ofResult_eq_failed {result : Except Text Bool}
    (unsuccessful : ofResult result ≠ .success) : ofResult result = .failed := by
  rcases result with reason | _ | _
  · rfl
  · rfl
  · exact absurd rfl unsuccessful

theorem Monitor.Runs.detail_compileFinished {monitor : Monitor} {generation : Nat}
    (runs : monitor.Runs generation) (result : Except Text Bool) :
    (monitor.apply (.compileFinished generation result)).detail =
      match result with
      | .ok _ => monitor.detail
      | .error reason => some reason := by
  rw [Monitor.apply, if_pos ((runs.isCurrent_iff generation).2 rfl)]
  rcases result with reason | _ | _ <;> rfl

namespace Session

/-! ## The lines of a compilation -/

def deliver (session : Session) (lines : List StreamLine) : Session :=
  { session with
    monitor := { session.monitor with
      output := session.monitor.output ++ lines.flatMap fun line => line.text ++ ['\n'] }
    errors := session.errors.insertAll (lines.flatMap StreamLine.lineNumbers) }

theorem deliver_nil (session : Session) : session.deliver [] = session := by
  simp [deliver, ErrorLines.insertAll]

theorem deliver_deliver (session : Session) (front back : List StreamLine) :
    (session.deliver front).deliver back = session.deliver (front ++ back) := by
  simp [deliver, ErrorLines.insertAll_append]

theorem apply_compileLine {session : Session} {generation : Nat}
    (current : session.monitor.isCurrent generation = true) (line : StreamLine) :
    session.apply (.bridge (.compileLine generation line)) = session.deliver [line] := by
  cases line with
  | diagnostic text =>
      simp [apply, errorsAfter, Monitor.apply, current, deliver, StreamLine.diagnostic?,
        StreamLine.lineNumbers, ErrorLines.record]
  | status text ok =>
      simp [apply, errorsAfter, Monitor.apply, current, deliver, StreamLine.diagnostic?,
        StreamLine.lineNumbers, ErrorLines.insertAll]

theorem applyAll_compileLines {session : Session} {generation : Nat}
    (current : session.monitor.isCurrent generation = true) (lines : List StreamLine) :
    session.applyAll ((lines.map (.compileLine generation)).map .bridge) =
      session.deliver lines := by
  induction lines generalizing session with
  | nil => exact session.deliver_nil.symm
  | cons line rest induction =>
      have still : (session.deliver [line]).monitor.isCurrent generation = true := current
      rw [List.map_cons, List.map_cons, applyAll_cons, apply_compileLine current,
        induction still, deliver_deliver]
      rfl

/-! ## The end of a compilation -/

/-- A session shows all delivered lines of a compilation, the numbers that its
diagnostics name, and how it ended. -/
structure Concludes (session : Session) (lines : List StreamLine)
    (result : Except BridgeError CompileOutcome) : Prop where
  output : session.monitor.output = lines.flatMap fun line => line.text ++ ['\n']
  errors : ∀ number, number ∈ session.errors.lines ↔
    ∃ text, .diagnostic text ∈ lines ∧ number ∈ Diagnostics.lineNumbers text
  success : session.monitor.indicator = .success ↔
    ∃ outcome, result = .ok outcome ∧ outcome.ok = true
  failed : session.monitor.indicator ≠ .success → session.monitor.indicator = .failed
  detail : ∀ reason, session.monitor.detail = some reason ↔
    ∃ error, result = .error error ∧ error.message = reason

/-- A session that shows how a compilation ended waits for nothing. -/
theorem Concludes.isPending_eq_false {session : Session} {lines : List StreamLine}
    {result : Except BridgeError CompileOutcome} (concludes : session.Concludes lines result) :
    session.monitor.indicator.isPending = false := by
  by_cases success : session.monitor.indicator = .success
  · rw [success]
    rfl
  · rw [concludes.failed success]
    rfl

theorem mem_errors_deliver {session : Session} (empty : session.errors = .empty)
    (lines : List StreamLine) (number : Nat) :
    number ∈ (session.deliver lines).errors.lines ↔
      ∃ text, .diagnostic text ∈ lines ∧ number ∈ Diagnostics.lineNumbers text := by
  rw [deliver, empty, ErrorLines.mem_lines_insertAll, List.mem_flatMap]
  constructor
  · rintro (none | ⟨line, member, named⟩)
    · cases none
    · cases line with
      | diagnostic text => exact ⟨text, member, named⟩
      | status text ok => cases named
  · rintro ⟨text, member, named⟩
    exact .inr ⟨.diagnostic text, member, named⟩

theorem applyAll_compileEvents (session : Session) (generation : Nat) {run : CompileRun}
    {result : Except BridgeError CompileOutcome} (ended : run.result = some result) :
    session.applyAll ((.compileStarted generation ::
        Editor.compileEvents generation run).map .bridge) =
      ((session.apply (.bridge (.compileStarted generation))).deliver run.lines).apply
        (.bridge (.compileFinished generation
          ((result.map CompileOutcome.ok).mapError BridgeError.message))) := by
  let started := session.apply (.bridge (.compileStarted generation))
  have runs : started.monitor.Runs generation := session.monitor.runs_compileStarted generation
  have delivered := applyAll_compileLines ((runs.isCurrent_iff generation).2 rfl) run.lines
  rw [List.map_cons, applyAll_cons, Editor.compileEvents, ended, List.map_append,
    applyAll_append, delivered]
  rfl

/-- The events of a compilation that ends leave its lines and its result. -/
theorem concludes_compileEvents (session : Session) (generation : Nat) {run : CompileRun}
    {result : Except BridgeError CompileOutcome} (ended : run.result = some result) :
    (session.applyAll ((.compileStarted generation ::
      Editor.compileEvents generation run).map .bridge)).Concludes run.lines result := by
  rw [applyAll_compileEvents session generation ended]
  let delivered := (session.apply (.bridge (.compileStarted generation))).deliver run.lines
  let reported := (result.map CompileOutcome.ok).mapError BridgeError.message
  have runs : delivered.monitor.Runs generation := ⟨rfl, rfl, rfl⟩
  have reports := runs.reports reported
  refine ⟨reports.output, mem_errors_deliver rfl run.lines, ?_, fun unsuccessful => ?_,
    fun reason => ?_⟩
  · change (delivered.monitor.apply (.compileFinished generation reported)).indicator = _ ↔ _
    rw [reports.indicator, Indicator.ofResult_eq_success_iff]
    cases result <;> simp [reported, Except.map, Except.mapError]
  · exact reports.indicator.trans (Indicator.ofResult_eq_failed fun success =>
      unsuccessful (reports.indicator.trans success))
  · have noDetail : delivered.monitor.detail = none := rfl
    change (delivered.monitor.apply (.compileFinished generation reported)).detail = _ ↔ _
    rw [runs.detail_compileFinished, noDetail]
    cases result <;> simp [reported, Except.map, Except.mapError]

/-- A successful response whose body ends well delivers all lines of the body and an
outcome that sums them up.  One that breaks off delivers the terminated lines, with
which every longer body begins, and fails.  A refusal delivers none.  A session that
takes the events of the compilation, one after the other, shows what was delivered
and how it ended. -/
theorem compilation_characterized (response : Response) :
    let pieces := Text.pieces (Utf8.decodeLossy response.body.flatten)
    let run := Service.compile (.responding response)
    (response.status.isSuccess = true → response.ending = .complete →
      run.lines = (Text.withoutEmptyEnd pieces).map StreamLine.classify ∧
        ∃ outcome, run.result = some (.ok outcome) ∧ outcome.SumsUp run.lines) ∧
    (response.status.isSuccess = true → response.ending = .cutOff →
      run.lines = pieces.dropLast.map StreamLine.classify ∧
        (∃ cause, run.result = some (.error (.stream cause))) ∧
        ∀ other : Response, other.status.isSuccess = true →
          response.body.flatten <+: other.body.flatten →
          run.lines <+: (Service.compile (.responding other)).lines) ∧
    (response.status.isSuccess = false →
      run.lines = [] ∧ ∀ outcome, run.result ≠ some (.ok outcome)) ∧
    (response.ending ≠ .held → ∃ result, run.result = some result) ∧
    ∀ (session : Session) (generation : Nat) (result : Except BridgeError CompileOutcome),
      run.result = some result →
      (session.applyAll ((.compileStarted generation ::
        Editor.compileEvents generation run).map .bridge)).Concludes run.lines result := by
  intro pieces run
  refine ⟨fun success complete => ?_, fun success cutOff => ?_, fun failure => ?_,
    Service.exists_result_compile, fun session generation result =>
      session.concludes_compileEvents generation⟩
  · have same : run = response.stream := Service.compile_of_isSuccess success
    rw [same, Response.stream_of_complete complete]
    exact ⟨rfl, _, rfl, CompileOutcome.sumsUp_ofLines _⟩
  · have same : run = response.stream := Service.compile_of_isSuccess success
    refine ⟨?_, ⟨streamCutOff, ?_⟩, fun other otherSuccess longer => ?_⟩
    · rw [same, Response.stream_of_cutOff cutOff]
    · rw [same, Response.stream_of_cutOff cutOff]
    · rw [same, Service.compile_of_isSuccess otherSuccess]
      exact Response.lines_prefix_of_cutOff cutOff longer
  · have same : run = response.refusal := Service.compile_of_not_isSuccess failure
    rw [same]
    exact ⟨response.lines_refusal, response.refusal_ne_ok⟩

def brokenResponse : Response where
  status := ⟨200⟩
  chunks := [[97, 58, 55, 58, 13], [10, 98]]
  bodyEnd := .cutOff
  delay := 0

theorem concludes_brokenResponse :
    let run := Service.compile (.responding brokenResponse)
    let lines := [StreamLine.diagnostic "a:7:".toList]
    run.lines = lines ∧ run.result = some (.error (.stream streamCutOff)) ∧
      ((initial [] true).applyAll ((.compileStarted 1 ::
        Editor.compileEvents 1 run).map .bridge)).Concludes lines
          (.error (.stream streamCutOff)) := by
  intro run lines
  rcases compilation_characterized brokenResponse with ⟨_, broken, _, _, concludes⟩
  have delivered : run.lines = lines := (broken (by decide) (by decide)).1.trans (by decide)
  have failed : run.result = some (.error (.stream streamCutOff)) := rfl
  have shown := concludes (initial [] true) 1 _ failed
  rw [show (Service.compile (.responding brokenResponse)).lines = lines from delivered] at shown
  exact ⟨delivered, failed, shown⟩

end Session

end LiveEditor
