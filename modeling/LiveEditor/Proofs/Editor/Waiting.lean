import LiveEditor.Proofs.Editor.History

/-! # Waiting for reports

An editor that waits lets its tasks go on until one of them reports.  However
long it waits, it takes no other steps than those of a history.
-/

namespace LiveEditor

namespace Editor

/-- The first task that has something to report is found by its number. -/
theorem exists_of_reportFirst {tasks : List BackgroundTask}
    (identified : (tasks.map BackgroundTask.id).Nodup) {event : BridgeEvent}
    {after : List BackgroundTask} (reports : reportFirst tasks = some (event, after)) :
    ∃ task remaining, (tasks.find? fun other => other.id == task.id) = some task ∧
      task.remaining = event :: remaining ∧
      after = tasks.map fun other =>
        if other.id == task.id then { other with remaining } else other := by
  induction tasks generalizing after with
  | nil => cases reports
  | cons first rest hypothesis =>
      rw [List.map_cons, List.nodup_cons] at identified
      have others : ∀ task ∈ rest, task.id ≠ first.id := fun task member same =>
        identified.1 (same ▸ List.mem_map_of_mem member)
      rw [reportFirst] at reports
      cases pending : first.remaining with
      | cons next remaining =>
          rw [pending] at reports
          cases reports
          refine ⟨first, remaining, by simp, pending, ?_⟩
          have unchanged : (rest.map fun other =>
              if other.id == first.id then { other with remaining } else other) = rest := by
            refine (List.map_congr_left ?_).trans (List.map_id rest)
            intro task member
            simp [others task member]
          rw [List.map_cons, if_pos (by simp), unchanged]
      | nil =>
          -- The task that reports is behind the first one and has another number.
          rw [pending] at reports
          rcases Option.map_eq_some_iff.1 reports with ⟨⟨_, later⟩, found, equal⟩
          cases equal
          rcases hypothesis identified.2 found with ⟨task, remaining, first?, split, rfl⟩
          have different : first.id ≠ task.id := fun same =>
            others task (List.mem_of_find?_eq_some first?) same.symm
          refine ⟨task, remaining, ?_, split, ?_⟩
          · rw [List.find?_cons_of_neg (by simpa using different), first?]
          · rw [List.map_cons, if_neg (by simpa using different)]

variable {σ : Type}

/-- The oldest task that has something to report reports by its number. -/
theorem exists_report_of_reportOldest {editor reported : Editor σ}
    (identified : (editor.tasks.map BackgroundTask.id).Nodup)
    (reports : editor.reportOldest = some reported) : ∃ id, editor.report id = reported := by
  rcases Option.map_eq_some_iff.1 reports with ⟨⟨event, after⟩, found, rfl⟩
  rcases exists_of_reportFirst identified found with ⟨task, remaining, first, split, rfl⟩
  refine ⟨task.id, ?_⟩
  simp only [report, first, split]

end Editor

namespace History

variable {σ : Type} [DocumentStore σ] {history : History σ}

theorem run_append (history : History σ) (front back : List (EditorStep σ)) :
    history.run (front ++ back) = (history.run front).run back :=
  List.foldl_append

/-- To wait for an event is to let one task report, if the queue is empty, and
to take the event out. -/
theorem exists_run_awaitNext (tracks : history.Tracks) :
    ∃ steps, (history.run steps).editor = history.editor.awaitNext.2 := by
  rw [Editor.awaitNext]
  split
  · cases reports : history.editor.reportOldest with
    | none => exact ⟨[], rfl⟩
    | some reported =>
        rcases Editor.exists_report_of_reportOldest tracks.identified reports with ⟨id, rfl⟩
        exact ⟨[.report id, .takeNext], rfl⟩
  · exact ⟨[.takeNext], rfl⟩

theorem exists_run_awaitMany (tracks : history.Tracks) (count : Nat) :
    ∃ steps, (history.run steps).editor = (history.editor.awaitMany count).2 := by
  induction count generalizing history with
  | zero => exact ⟨[], rfl⟩
  | succ count hypothesis =>
      rcases exists_run_awaitNext tracks with ⟨first, waited⟩
      rw [Editor.awaitMany]
      rcases next : history.editor.awaitNext with ⟨came, after⟩
      rw [next] at waited
      cases came with
      | false => exact ⟨first, waited⟩
      | true =>
          rcases hypothesis (tracks.run first) with ⟨others, ends⟩
          refine ⟨first ++ others, ?_⟩
          rw [run_append, ends, waited]

theorem exists_run_settleWithin (tracks : history.Tracks) (bound : Nat) :
    ∃ steps, (history.run steps).editor = (history.editor.settleWithin bound).2 := by
  induction bound generalizing history with
  | zero => exact ⟨[], rfl⟩
  | succ bound hypothesis =>
      rw [Editor.settleWithin]
      split
      · rcases exists_run_awaitNext tracks with ⟨first, waited⟩
        rcases next : history.editor.awaitNext with ⟨came, after⟩
        rw [next] at waited
        cases came with
        | false => exact ⟨first, waited⟩
        | true =>
            rcases hypothesis (tracks.run first) with ⟨others, ends⟩
            refine ⟨first ++ others, ?_⟩
            rw [run_append, ends, waited]
      · exact ⟨[], rfl⟩

end History

end LiveEditor
