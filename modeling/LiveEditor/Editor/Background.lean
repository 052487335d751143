import LiveEditor.Editor.Basic

/-! # Work in the background

Probes and compilations run beside the editor.  What a task will report is
fixed by what the bridge answers, but when it reports is open: `report` lets
one task take one step, and every history of an editor is made of such steps
and the operations of the editor.  Aborting a task keeps it from reporting
more; what it has reported stays in the queue.
-/

namespace LiveEditor.Editor

variable {σ : Type} [DocumentStore σ]

/-! ## Starting and stopping tasks -/

def spawn (editor : Editor σ) (request : Request) (events : List BridgeEvent)
    (held : Bool) : Nat × Editor σ :=
  (editor.nextTask,
    { editor with
      tasks := editor.tasks ++ [⟨editor.nextTask, some request, events, held⟩]
      nextTask := editor.nextTask + 1 })

def probeEvent (result : Except BridgeError Unit) : BridgeEvent :=
  .connectFinished (result.mapError BridgeError.message)

def compileEvents (generation : Nat) (run : CompileRun) : List BridgeEvent :=
  run.lines.map (.compileLine generation) ++
    (run.result.map fun result =>
      .compileFinished generation
        ((result.map CompileOutcome.ok).mapError BridgeError.message)).toList

def connect (editor : Editor σ) (result : Except BridgeError Unit) : Editor σ :=
  ((editor.dispatch (.bridge .connectStarted)).spawn .health
    [probeEvent result] false).2

def isCompileRunning (editor : Editor σ) : Bool :=
  editor.compileTask.any fun id =>
    editor.tasks.any fun task => task.id == id && !task.isFinished

def cancelCompile (editor : Editor σ) : Editor σ :=
  let released := { editor with compileTask := none }
  if editor.isCompileRunning then
    { released with
      tasks := editor.tasks.filter fun task => some task.id != editor.compileTask
      }.dispatch (.bridge (.compileCancelled editor.session.monitor.generation))
  else
    released

def compile (editor : Editor σ) (run : CompileRun) : Editor σ :=
  let cancelled := editor.cancelCompile
  let generation := cancelled.nextGeneration
  let started :=
    { cancelled with nextGeneration := generation + 1 }.dispatch
      (.bridge (.compileStarted generation))
  let bench := started.session.workbench
  let (id, spawned) :=
    started.spawn (.compile bench.fileName bench.text)
      (compileEvents generation run) run.result.isNone
  { spawned with compileTask := some id }

/-! ## Steps of tasks -/

def sendRequests (editor : Editor σ) (received : Request → List Request) :
    Editor σ :=
  { editor with
    requests :=
      editor.requests ++
        (editor.tasks.filterMap BackgroundTask.request).flatMap received
    tasks := editor.tasks.map fun task => { task with request := none } }

def reportFirst : List BackgroundTask → Option (BridgeEvent × List BackgroundTask)
  | [] => none
  | task :: rest =>
      match task.remaining with
      | event :: remaining => some (event, { task with remaining } :: rest)
      | [] =>
          (reportFirst rest).map fun found => (found.1, task :: found.2)

def reportOldest (editor : Editor σ) : Option (Editor σ) :=
  (reportFirst editor.tasks).map fun (event, tasks) =>
    { editor with tasks, queue := editor.queue ++ [event] }

def report (editor : Editor σ) (id : Nat) : Editor σ :=
  match editor.tasks.find? fun task => task.id == id with
  | none => editor
  | some task =>
      match task.remaining with
      | [] => editor
      | event :: remaining =>
          { editor with
            tasks := editor.tasks.map fun other =>
              if other.id == id then { other with remaining } else other
            queue := editor.queue ++ [event] }

/-! ## Taking events out of the queue -/

def takeNext (editor : Editor σ) : Bool × Editor σ :=
  match editor.queue with
  | [] => (false, editor)
  | event :: rest => (true, { editor with queue := rest }.dispatch (.bridge event))

def pump (editor : Editor σ) : Nat × Editor σ :=
  (editor.queue.length,
    editor.queue.foldl (fun pumped event => pumped.dispatch (.bridge event))
      { editor with queue := [] })

def awaitNext (editor : Editor σ) : Bool × Editor σ :=
  if editor.queue.isEmpty then
    match editor.reportOldest with
    | none => (false, editor)
    | some reported => reported.takeNext
  else
    editor.takeNext

def outstanding (editor : Editor σ) : Nat :=
  editor.queue.length +
    (editor.tasks.flatMap fun task => task.remaining).length

def awaitMany (editor : Editor σ) : Nat → Nat × Editor σ
  | 0 => (0, editor)
  | count + 1 =>
      match editor.awaitNext with
      | (false, waited) => (0, waited)
      | (true, waited) =>
          let (more, last) := waited.awaitMany count
          (more + 1, last)

def settleWithin (editor : Editor σ) : Nat → Nat × Editor σ
  | 0 => (0, editor)
  | bound + 1 =>
      if editor.session.monitor.indicator.isPending then
        match editor.awaitNext with
        | (false, waited) => (0, waited)
        | (true, waited) =>
            let (more, last) := waited.settleWithin bound
            (more + 1, last)
      else
        (0, editor)

def settle (editor : Editor σ) : Nat × Editor σ :=
  editor.settleWithin editor.outstanding

end LiveEditor.Editor
