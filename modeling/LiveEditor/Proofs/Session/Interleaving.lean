import LiveEditor.Proofs.Session.Record

/-! # Interleaved events

Events of the user and events of the bridge may come in any order.  The document
ends as if the bridge had reported nothing, and the reports end as if the user had done
nothing.  Only the error lines see both: without clearing on edits they are the ones of
the bridge alone, and with it they can only be fewer.
-/

namespace LiveEditor

/-- Events of the user and of the bridge in one list, each side in its order. -/
inductive Interleaves :
    List WorkbenchEvent → List BridgeEvent → List SessionEvent → Prop
  | nil : Interleaves [] [] []
  | workbench {event edits reports events} :
      Interleaves edits reports events →
      Interleaves (event :: edits) reports (.workbench event :: events)
  | bridge {event edits reports events} :
      Interleaves edits reports events →
      Interleaves edits (event :: reports) (.bridge event :: events)

namespace Interleaves

variable {edits : List WorkbenchEvent} {reports : List BridgeEvent}
  {events : List SessionEvent}

theorem filterMap_bridge? (interleaves : Interleaves edits reports events) :
    events.filterMap SessionEvent.bridge? = reports := by
  induction interleaves with
  | nil => rfl
  | workbench _ hypothesis =>
      rw [List.filterMap_cons]
      exact hypothesis
  | bridge _ hypothesis =>
      rw [List.filterMap_cons]
      exact congrArg _ hypothesis

theorem of_reports (reports : List BridgeEvent) :
    Interleaves [] reports (reports.map .bridge) := by
  induction reports with
  | nil => exact .nil
  | cons event rest hypothesis => exact .bridge hypothesis

end Interleaves

namespace SessionRecord

variable {edits : List WorkbenchEvent} {reports : List BridgeEvent}
  {events : List SessionEvent}

theorem applyAll_cons (state : SessionRecord) (event : SessionEvent)
    (rest : List SessionEvent) :
    state.applyAll (event :: rest) = (state.apply event).applyAll rest := rfl

/-! ## Both sides of a run -/

theorem SameDocument.of_interleaves (interleaves : Interleaves edits reports events)
    {left right : SessionRecord} (same : left.SameDocument right) :
    (left.applyAll events).SameDocument (right.applyAll (edits.map .workbench)) := by
  induction interleaves generalizing left right with
  | nil => exact same
  | @workbench event _ _ _ _ hypothesis => exact hypothesis (same.apply_workbench event)
  | @bridge event _ _ _ _ hypothesis =>
      exact hypothesis ((left.sameDocument_apply_bridge event).trans same)

/-- The first session has also seen what the user did, which may have emptied its
error lines. -/
structure KeepsUp (busy quiet : SessionRecord) : Prop where
  reports : busy.SameReports quiet
  fewer : busy.errors.lines ⊆ quiet.errors.lines
  kept : busy.clearErrorsOnEdit = false → busy.errors = quiet.errors

theorem KeepsUp.refl (state : SessionRecord) : state.KeepsUp state where
  reports := sameReports_iff.2 rfl
  fewer := List.Subset.refl _
  kept := fun _ => rfl

theorem KeepsUp.apply_workbench {busy quiet : SessionRecord} (keeps : busy.KeepsUp quiet)
    (event : WorkbenchEvent) : (busy.apply (.workbench event)).KeepsUp quiet where
  reports := (busy.sameReports_apply_workbench event).trans keeps.reports
  fewer := List.Subset.trans (busy.errors_apply_workbench_subset event) keeps.fewer
  kept := by
    intro setup
    rw [clearErrorsOnEdit_apply] at setup
    exact (errors_apply_workbench_of_keeps setup event).trans (keeps.kept setup)

theorem KeepsUp.apply_bridge {busy quiet : SessionRecord} (keeps : busy.KeepsUp quiet)
    (event : BridgeEvent) :
    (busy.apply (.bridge event)).KeepsUp (quiet.apply (.bridge event)) where
  reports := keeps.reports.apply_bridge event
  fewer := errors_apply_bridge_subset keeps.reports keeps.fewer event
  kept := by
    intro setup
    rw [clearErrorsOnEdit_apply] at setup
    exact errors_apply_bridge_eq keeps.reports (keeps.kept setup) event

/-- An event of the user is a step of the busy session alone, a report is one of
both. -/
theorem KeepsUp.of_interleaves (interleaves : Interleaves edits reports events)
    {busy quiet : SessionRecord} (keeps : busy.KeepsUp quiet) :
    (busy.applyAll events).KeepsUp (quiet.applyAll (reports.map .bridge)) := by
  induction interleaves generalizing busy quiet with
  | nil => exact keeps
  | @workbench event _ _ _ _ hypothesis => exact hypothesis (keeps.apply_workbench event)
  | @bridge event _ _ _ _ hypothesis => exact hypothesis (keeps.apply_bridge event)

theorem clearErrorsOnEdit_applyAll (state : SessionRecord) (events : List SessionEvent) :
    (state.applyAll events).clearErrorsOnEdit = state.clearErrorsOnEdit := by
  induction events generalizing state with
  | nil => rfl
  | cons event rest hypothesis =>
      rw [applyAll_cons, hypothesis, clearErrorsOnEdit_apply]

/-- However events of the user and of the bridge are interleaved, the document is what
the user has made of it alone, and the reports are what the bridge has made of them
alone.  The error lines are among those of the bridge alone, and the same ones in a
session that does not clear them on edits.  A session that has its sides apart goes
the same way. -/
theorem fields_of_interleaves (state : SessionRecord)
    (interleaves : Interleaves edits reports events) :
    let final := state.applyAll events
    let edited := state.applyAll (edits.map .workbench)
    let reported := state.applyAll (reports.map .bridge)
    final.SameDocument edited ∧
      final.SameReports reported ∧
      final.clearErrorsOnEdit = state.clearErrorsOnEdit ∧
      final.errors.lines ⊆ reported.errors.lines ∧
      (state.clearErrorsOnEdit = false → final.errors = reported.errors) ∧
      final.sides = state.sides.applyAll events := by
  intro final edited reported
  have document : final.SameDocument edited :=
    SameDocument.of_interleaves interleaves (sameDocument_iff.2 rfl)
  have keeps : final.KeepsUp reported := (KeepsUp.refl state).of_interleaves interleaves
  have setup := state.clearErrorsOnEdit_applyAll events
  exact ⟨document, keeps.reports, setup, keeps.fewer,
    fun clears => keeps.kept (setup.trans clears), state.sides_applyAll events⟩

def lateEdit : List SessionEvent :=
  [ .bridge (.compileStarted 1),
    .bridge (.compileLine 1 (.diagnostic [':', '3', ':'])),
    .workbench (.pasted ['a']) ]

/-- In front of the diagnostics the edit would have cleared nothing: with
clearing, the error lines do depend on the order. -/
theorem fields_of_interleaves_lateEdit :
    Interleaves [.pasted ['a']] (lateEdit.filterMap SessionEvent.bridge?) lateEdit ∧
      ((initial [] false).applyAll lateEdit).text = ['a'] ∧
      ((initial [] false).applyAll lateEdit).errors.lines = [3] ∧
      ((initial [] true).applyAll lateEdit).errors.lines = [] ∧
      ((initial [] true).applyAll (.workbench (.pasted ['a']) ::
        lateEdit.dropLast)).errors.lines = [3] := by
  have interleaves : Interleaves [.pasted ['a']]
      (lateEdit.filterMap SessionEvent.bridge?) lateEdit :=
    .bridge (.bridge (.workbench .nil))
  rcases fields_of_interleaves (initial [] false) interleaves with
    ⟨document, _, _, _, errors, _⟩
  refine ⟨interleaves, ?_, ?_, by decide, by decide⟩
  · rw [document.text]
    decide
  · rw [errors rfl]
    decide

end SessionRecord

end LiveEditor
