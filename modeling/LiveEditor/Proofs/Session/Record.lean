import LiveEditor.Proofs.Session.Sides
import LiveEditor.Session.Record

/-! # The arms of a session keep to its sides

Each arm of the record does to its two sides what the event does to a session that
has them apart.  So an event of the user reads and writes the document only, and an
event of the bridge its reports only, apart from the error lines.
-/

namespace LiveEditor

/-! ## Another workbench -/

namespace Session

def withWorkbench (session : Session) (bench : Workbench) : Session :=
  { session with
    workbench := bench
    errors :=
      if session.clearErrorsOnEdit ∧ bench.text ≠ session.workbench.text
      then .empty else session.errors }

theorem withWorkbench_of_text {session : Session} {bench : Workbench}
    (same : bench.text = session.workbench.text) :
    session.withWorkbench bench = { session with workbench := bench } := by
  simp [withWorkbench, same]

end Session

theorem ErrorLines.eq_empty_of_isEmpty {set : ErrorLines} (empty : set.isEmpty = true) :
    set = .empty := by
  rcases set with ⟨lines, ascending⟩
  have none : lines = [] := List.isEmpty_iff.1 empty
  subst none
  rfl

namespace SessionRecord

/-! ## The arms, one by one -/

theorem sides_setText (state : SessionRecord) (text : Text) (selection : Selection) :
    (state.setText text selection).sides =
      state.sides.withWorkbench (state.sides.workbench.setText text selection) := by
  have cleared :
      (if text ≠ state.text ∧ state.clearErrorsOnEdit ∧ ¬ state.errors.isEmpty
        then ErrorLines.empty else state.errors) =
      if state.clearErrorsOnEdit ∧ text ≠ state.text then .empty else state.errors := by
    by_cases empty : state.errors.isEmpty = true
    · simp [ErrorLines.eq_empty_of_isEmpty empty]
    · simp [empty, and_comm]
  rw [setText, cleared]
  rfl

/-- An arm that leaves the text as it is, and everything outside the workbench. -/
theorem sides_of_text {state after : SessionRecord}
    (sides : after.sides = { state.sides with workbench := after.sides.workbench })
    (same : after.text = state.text) :
    after.sides = state.sides.withWorkbench after.sides.workbench :=
  sides.trans (Session.withWorkbench_of_text same).symm

/-- An arm that puts a text in and gives the document a name. -/
theorem sides_of_named {state after : SessionRecord} {bench : Workbench}
    (sides : after.sides = state.sides.withWorkbench bench) (handle : Option Text)
    (fileName : Text) :
    SessionRecord.sides { after with handle, fileName } =
      state.sides.withWorkbench { bench with handle, fileName } := by
  -- The fields of the name are overwritten, whatever the arm did to them before.
  have same : after = ofSides (state.sides.withWorkbench bench) :=
    congrArg ofSides sides
  rw [same]
  rfl

theorem sides_apply_workbench (state : SessionRecord) (event : WorkbenchEvent) :
    (state.apply (.workbench event)).sides =
      state.sides.withWorkbench (state.sides.workbench.apply event) := by
  cases event with
  | edited text selection => exact state.sides_setText text selection
  | selectionChanged selection => exact sides_of_text rfl rfl
  | cut =>
      dsimp only [apply, sides, Workbench.apply, Workbench.replaceSelection]
      cases state.text.replace state.selection.span [] with
      | error _ => exact sides_of_text rfl rfl
      | ok text => exact state.sides_setText text (.cursor state.selection.start)
  | pasted clip =>
      dsimp only [apply, sides, Workbench.apply, Workbench.replaceSelection]
      cases state.text.replace state.selection.span clip with
      | error _ => exact sides_of_text rfl rfl
      | ok text => exact state.sides_setText text _
  | queryChanged text => exact sides_of_text rfl rfl
  | caseSensitiveChanged on => exact sides_of_text rfl rfl
  | wholeWordChanged on => exact sides_of_text rfl rfl
  | replacementChanged text => exact sides_of_text rfl rfl
  | findNext =>
      dsimp only [apply, sides, Workbench.apply]
      cases (state.query.search state.text).findNext state.selection.stop with
      | none => exact sides_of_text rfl rfl
      | some found => exact sides_of_text rfl rfl
  | replaceCurrent =>
      dsimp only [apply, sides, Workbench.apply]
      cases (state.query.search state.text).replaceCurrent state.selection
          state.replacement with
      | none => exact sides_of_text rfl rfl
      | some replaced => exact state.sides_setText replaced.1 replaced.2
  | replaceAll =>
      dsimp only [apply, sides, Workbench.apply]
      cases (state.query.search state.text).replaceAll state.replacement with
      | none => exact sides_of_text rfl rfl
      | some text => exact state.sides_setText text state.selection
  | languageSelected language grammar => exact sides_of_text rfl rfl
  | extensionSelected extension =>
      dsimp only [apply, Workbench.apply]
      split
      · exact sides_of_text rfl rfl
      · exact sides_of_text rfl rfl
  | newDocument => exact sides_of_named (state.sides_setText [] (.cursor 0)) none _
  | documentOpened handle text =>
      exact sides_of_named (state.sides_setText text (.cursor text.byteLength))
        (some handle) (Path.displayName handle)
  | documentSaved handle => exact sides_of_text rfl rfl
  | draftRestored text => exact state.sides_setText text (.cursor text.byteLength)

theorem isCurrent_sides (state : SessionRecord) (generation : Nat) :
    state.sides.monitor.isCurrent generation = state.isCurrent generation := rfl

theorem sides_apply_bridge (state : SessionRecord) (event : BridgeEvent) :
    (state.apply (.bridge event)).sides = state.sides.apply (.bridge event) := by
  cases event with
  | connectStarted => rfl
  | connectFinished result =>
      dsimp only [apply, sides, Session.apply, Monitor.apply, Monitor.finishProbe]
      cases result <;> split <;> rfl
  | compileStarted generation => rfl
  | compileLine generation line =>
      dsimp only [apply, Session.apply, Monitor.apply, Session.errorsAfter]
      rw [isCurrent_sides]
      cases line.diagnostic? <;> split <;> rfl
  | compileFinished generation result =>
      dsimp only [apply, Session.apply, Monitor.apply, Monitor.finishCompile]
      rw [isCurrent_sides]
      rcases result with reason | _ | _ <;> split <;> rfl
  | compileCancelled generation =>
      dsimp only [apply, Session.apply, Monitor.apply]
      rw [isCurrent_sides]
      split <;> rfl

theorem sides_apply (state : SessionRecord) (event : SessionEvent) :
    (state.apply event).sides = state.sides.apply event := by
  cases event with
  | workbench event => exact state.sides_apply_workbench event
  | bridge event => exact state.sides_apply_bridge event

theorem ofSides_apply (session : Session) (event : SessionEvent) :
    ofSides (session.apply event) = (ofSides session).apply event := by
  rw [← ofSides_sides ((ofSides session).apply event), sides_apply, sides_ofSides]

theorem sides_applyAll (state : SessionRecord) (events : List SessionEvent) :
    (state.applyAll events).sides = state.sides.applyAll events := by
  induction events generalizing state with
  | nil => rfl
  | cons event rest hypothesis =>
      rw [Session.applyAll_cons, ← sides_apply]
      exact hypothesis (state.apply event)

theorem sides_initial (defaultExtension : Text) (clearErrorsOnEdit : Bool) :
    (initial defaultExtension clearErrorsOnEdit).sides =
      .initial defaultExtension clearErrorsOnEdit := rfl

/-! ## What an arm reads and writes -/

structure SameDocument (left right : SessionRecord) : Prop where
  text : left.text = right.text
  selection : left.selection = right.selection
  fileName : left.fileName = right.fileName
  handle : left.handle = right.handle
  newExtension : left.newExtension = right.newExtension
  language : left.language = right.language
  grammar : left.grammar = right.grammar
  query : left.query = right.query
  replacement : left.replacement = right.replacement

structure SameReports (left right : SessionRecord) : Prop where
  indicator : left.indicator = right.indicator
  detail : left.detail = right.detail
  output : left.output = right.output
  connected : left.connected = right.connected
  connection : left.connection = right.connection
  generation : left.generation = right.generation

variable {left middle right : SessionRecord}

theorem sameDocument_iff :
    left.SameDocument right ↔ left.sides.workbench = right.sides.workbench := by
  constructor
  · intro same
    simp only [sides, same.text, same.selection, same.fileName, same.handle,
      same.newExtension, same.language, same.grammar, same.query, same.replacement]
  · intro same
    simp only [sides, Workbench.mk.injEq] at same
    rcases same with ⟨text, selection, fileName, handle, extension, language, grammar,
      query, replacement⟩
    exact ⟨text, selection, fileName, handle, extension, language, grammar, query,
      replacement⟩

theorem sameReports_iff :
    left.SameReports right ↔ left.sides.monitor = right.sides.monitor := by
  constructor
  · intro same
    simp only [sides, same.indicator, same.detail, same.output, same.connected,
      same.connection, same.generation]
  · intro same
    simp only [sides, Monitor.mk.injEq] at same
    rcases same with ⟨indicator, detail, output, connected, connection, generation⟩
    exact ⟨indicator, detail, output, connected, connection, generation⟩

theorem SameDocument.trans (first : left.SameDocument middle)
    (second : middle.SameDocument right) : left.SameDocument right :=
  sameDocument_iff.2 ((sameDocument_iff.1 first).trans (sameDocument_iff.1 second))

theorem SameReports.trans (first : left.SameReports middle)
    (second : middle.SameReports right) : left.SameReports right :=
  sameReports_iff.2 ((sameReports_iff.1 first).trans (sameReports_iff.1 second))

/-- An event of the user writes no report. -/
theorem sameReports_apply_workbench (state : SessionRecord) (event : WorkbenchEvent) :
    (state.apply (.workbench event)).SameReports state := by
  rw [sameReports_iff, sides_apply]
  rfl

/-- An event of the bridge writes nothing of the document. -/
theorem sameDocument_apply_bridge (state : SessionRecord) (event : BridgeEvent) :
    (state.apply (.bridge event)).SameDocument state := by
  rw [sameDocument_iff, sides_apply]
  rfl

/-- What an event of the user makes of the document depends on the document alone. -/
theorem SameDocument.apply_workbench (same : left.SameDocument right)
    (event : WorkbenchEvent) :
    (left.apply (.workbench event)).SameDocument (right.apply (.workbench event)) := by
  rw [sameDocument_iff] at same ⊢
  rw [sides_apply, sides_apply]
  exact congrArg (Workbench.apply · event) same

/-- What an event of the bridge makes of the reports depends on the reports alone. -/
theorem SameReports.apply_bridge (same : left.SameReports right) (event : BridgeEvent) :
    (left.apply (.bridge event)).SameReports (right.apply (.bridge event)) := by
  rw [sameReports_iff] at same ⊢
  rw [sides_apply, sides_apply]
  exact congrArg (Monitor.apply · event) same

theorem clearErrorsOnEdit_apply (state : SessionRecord) (event : SessionEvent) :
    (state.apply event).clearErrorsOnEdit = state.clearErrorsOnEdit := by
  have sides := congrArg Session.clearErrorsOnEdit (state.sides_apply event)
  cases event <;> exact sides

/-! ## The error lines -/

theorem errors_apply_workbench_subset (state : SessionRecord) (event : WorkbenchEvent) :
    (state.apply (.workbench event)).errors.lines ⊆ state.errors.lines := by
  have errors : (state.apply (.workbench event)).errors =
      (state.sides.apply (.workbench event)).errors :=
    congrArg Session.errors (state.sides_apply (.workbench event))
  rw [errors]
  exact state.sides.errors_workbench_subset event

theorem errors_apply_workbench_of_keeps {state : SessionRecord}
    (keeps : state.clearErrorsOnEdit = false) (event : WorkbenchEvent) :
    (state.apply (.workbench event)).errors = state.errors := by
  have errors := congrArg Session.errors (state.sides_apply (.workbench event))
  have keeps : state.sides.clearErrorsOnEdit = false := keeps
  simp only [Session.apply, keeps, Bool.false_eq_true, false_and, if_false] at errors
  exact errors

theorem errors_apply_bridge (state : SessionRecord) (event : BridgeEvent) :
    (state.apply (.bridge event)).errors = state.sides.errorsAfter event :=
  congrArg Session.errors (state.sides_apply (.bridge event))

theorem errors_apply_bridge_subset (same : left.SameReports right)
    (fewer : left.errors.lines ⊆ right.errors.lines) (event : BridgeEvent) :
    (left.apply (.bridge event)).errors.lines ⊆
      (right.apply (.bridge event)).errors.lines := by
  rw [errors_apply_bridge, errors_apply_bridge]
  cases event with
  | connectStarted | connectFinished | compileFinished | compileCancelled => exact fewer
  | compileStarted => exact List.Subset.refl _
  | compileLine generation line =>
      rw [Session.errorsAfter, Session.errorsAfter, sameReports_iff.1 same]
      cases line.diagnostic? with
      | none => exact fewer
      | some diagnostic =>
          dsimp only
          split
          · intro number member
            rw [ErrorLines.mem_lines_record] at member ⊢
            exact member.imp (fun inside => fewer inside) id
          · exact fewer

theorem errors_apply_bridge_eq (same : left.SameReports right)
    (errors : left.errors = right.errors) (event : BridgeEvent) :
    (left.apply (.bridge event)).errors = (right.apply (.bridge event)).errors := by
  have errors : left.sides.errors = right.sides.errors := errors
  rw [errors_apply_bridge, errors_apply_bridge]
  cases event <;> simp only [Session.errorsAfter, sameReports_iff.1 same, errors]

end SessionRecord

end LiveEditor
