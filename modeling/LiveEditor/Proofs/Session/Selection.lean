import LiveEditor.Editor.Basic
import LiveEditor.Proofs.Search.Occurrence
import LiveEditor.Proofs.Session.Sides

/-! # The selection of a session

The selection fits the text at the start of a session, and every event keeps it
so: an event that brings a text or a selection moves the selection onto the
text, and a search selects an occurrence.  Whatever has happened, the selection
therefore takes the text into three parts, and cutting and pasting succeed.
-/

namespace LiveEditor

namespace Workbench

/-! ## What an event keeps -/

def SelectionFits (bench : Workbench) : Prop :=
  bench.selection.Fits bench.text

theorem selectionFits_initial (defaultExtension : Text) :
    (initial defaultExtension).SelectionFits :=
  Selection.fits_cursor rfl

theorem selectionFits_setText (bench : Workbench) (text : Text)
    (selection : Selection) : (bench.setText text selection).SelectionFits :=
  Selection.fits_clampTo selection text

theorem selectionFits_setDocument (bench : Workbench) (text : Text) :
    (bench.setDocument text).SelectionFits :=
  bench.selectionFits_setText text _

theorem selectionFits_replaceSelection {bench : Workbench}
    (fits : bench.SelectionFits) (clip : Text) :
    (bench.replaceSelection clip).SelectionFits := by
  rw [replaceSelection]
  split
  · exact fits
  · exact bench.selectionFits_setText _ _

theorem selectionFits_apply {bench : Workbench} (fits : bench.SelectionFits)
    (event : WorkbenchEvent) : (bench.apply event).SelectionFits := by
  cases event with
  | edited text selection => exact bench.selectionFits_setText text selection
  | selectionChanged selection => exact Selection.fits_clampTo selection bench.text
  | cut => exact selectionFits_replaceSelection fits []
  | pasted clip => exact selectionFits_replaceSelection fits clip
  | queryChanged | caseSensitiveChanged | wholeWordChanged | replacementChanged =>
      exact fits
  | findNext =>
      rw [apply]
      split
      · exact fits
      · next found => exact Selection.fits_ofSpan (Query.occurs_of_findNext found).fits
  | replaceCurrent =>
      rw [apply]
      split
      · exact fits
      · exact bench.selectionFits_setText _ _
  | replaceAll =>
      rw [apply]
      split
      · exact fits
      · exact bench.selectionFits_setText _ _
  | languageSelected => exact fits
  | extensionSelected extension =>
      rw [apply]
      split
      · exact fits
      · exact fits
  | newDocument => exact bench.selectionFits_setText [] _
  | documentOpened handle text => exact bench.selectionFits_setDocument text
  | documentSaved => exact fits
  | draftRestored text => exact bench.selectionFits_setDocument text

theorem selectionFits_applyAll {bench : Workbench} (fits : bench.SelectionFits)
    (events : List WorkbenchEvent) : (bench.applyAll events).SelectionFits := by
  induction events generalizing bench with
  | nil => exact fits
  | cons event rest hypothesis => exact hypothesis (selectionFits_apply fits event)

/-! ## What the selection takes the text into -/

structure Parts (bench : Workbench) (before selected after : Text) : Prop where
  whole : bench.text = before ++ selected ++ after
  start : before.byteLength = bench.selection.start
  stop : (before ++ selected).byteLength = bench.selection.stop

theorem SelectionFits.exists_parts {bench : Workbench} (fits : bench.SelectionFits) :
    ∃ before selected after, bench.Parts before selected after := by
  rcases Text.exists_pieces_of_isBoundary fits.startsAtBoundary fits.stopsAtBoundary
    fits.ordered with ⟨before, selected, after, whole, start, stop⟩
  exact ⟨before, selected, after, whole, start, stop⟩

variable {bench : Workbench} {before selected after : Text}

theorem Parts.cut (parts : bench.Parts before selected after) :
    bench.text.cut bench.selection.span = .ok ⟨before, selected, after⟩ :=
  Text.cut_eq_ok_iff.2 ⟨parts.whole, parts.start, parts.stop⟩

theorem Parts.selectedText? (parts : bench.Parts before selected after) :
    bench.selectedText? = if bench.selection.isCursor then none else some selected := by
  rw [Workbench.selectedText?, Text.slice, parts.cut]
  rfl

/-- A text that is put in the place of the selected one has the cursor behind
it, and the rest of the workbench stays. -/
theorem Parts.replaceSelection (parts : bench.Parts before selected after)
    (clip : Text) :
    bench.replaceSelection clip =
      { bench with
        text := before ++ clip ++ after
        selection := .cursor (bench.selection.start + clip.byteLength) } := by
  have replaced : bench.text.replace bench.selection.span clip =
      .ok (before ++ clip ++ after) := by
    rw [Text.replace, parts.cut]
    rfl
  have boundary : Text.isBoundary (before ++ clip ++ after)
      (bench.selection.start + clip.byteLength) = true := by
    rw [← parts.start, ← Text.byteLength_append]
    exact Text.isBoundary_append (before ++ clip) after
  rw [Workbench.replaceSelection, replaced]
  simp only [setText, Selection.clampTo_of_fits (Selection.fits_cursor boundary)]

end Workbench

namespace Session

theorem selectionFits_run (settings : EditorSettings) (events : List SessionEvent) :
    (settings.newSession.applyAll events).workbench.SelectionFits := by
  rw [workbench_applyAll]
  apply Workbench.selectionFits_applyAll
  exact Workbench.selectionFits_initial settings.defaultExtension

/-- Whatever happens to a session, its selection fits its text.  So only a
cursor has no selected text, cutting takes the selected text away and leaves
the cursor at its place, and pasting puts a text there with the cursor behind
it. -/
theorem selection_splits_run (settings : EditorSettings) (events : List SessionEvent) :
    let session := settings.newSession.applyAll events
    let bench := session.workbench
    bench.selection.start ≤ bench.selection.stop ∧
      bench.selection.stop ≤ bench.text.byteLength ∧
      bench.text.isBoundary bench.selection.start = true ∧
      bench.text.isBoundary bench.selection.stop = true ∧
      (bench.selectedText? = none ↔ bench.selection.isCursor = true) ∧
      ∃ before selected after, bench.Parts before selected after ∧
        (bench.selection.isCursor = false → bench.selectedText? = some selected) ∧
        (session.apply (.workbench .cut)).workbench =
          { bench with
            text := before ++ after
            selection := .cursor bench.selection.start } ∧
        ∀ clip, (session.apply (.workbench (.pasted clip))).workbench =
          { bench with
            text := before ++ clip ++ after
            selection := .cursor (bench.selection.start + clip.byteLength) } := by
  intro session bench
  have fits : bench.SelectionFits := selectionFits_run settings events
  rcases fits.exists_parts with ⟨before, selected, after, parts⟩
  refine ⟨fits.ordered, fits.within, fits.startsAtBoundary, fits.stopsAtBoundary, ?_,
    before, selected, after, parts, ?_, ?_, ?_⟩
  · rw [parts.selectedText?]
    cases bench.selection.isCursor <;> simp
  · intro piece
    rw [parts.selectedText?, piece]
    rfl
  · have emptied := parts.replaceSelection []
    rw [List.append_nil] at emptied
    exact emptied
  · exact parts.replaceSelection

end Session

end LiveEditor
