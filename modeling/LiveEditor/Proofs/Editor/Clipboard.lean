import LiveEditor.Proofs.Editor.Reachable

/-! # Cutting, copying and pasting

The selection of an editor that can be reached takes its text into three parts.  Cutting
moves the middle one to the clipboard and leaves the cursor where it was, so that pasting
puts it back in its place.  A cursor selects nothing, and then there is nothing to cut and
nothing to copy.
-/

namespace LiveEditor

namespace Workbench

variable {bench : Workbench} {before selected after : Text}

theorem Parts.ne_nil (parts : bench.Parts before selected after)
    (selects : bench.selection.isCursor = false) : selected ≠ [] := by
  rintro rfl
  have ends : bench.selection.start = bench.selection.stop := by
    rw [← parts.start, ← parts.stop, List.append_nil]
  simp [Selection.isCursor, ends] at selects

theorem Parts.apply_cut (parts : bench.Parts before selected after) :
    bench.apply .cut =
      { bench with text := before ++ after, selection := .cursor bench.selection.start } := by
  have emptied := parts.replaceSelection []
  rwa [List.append_nil] at emptied

/-- What was before and behind the selected text is around the cursor behind a cut. -/
theorem Parts.parts_apply_cut (parts : bench.Parts before selected after) :
    (bench.apply .cut).Parts before [] after := by
  rw [parts.apply_cut]
  refine ⟨?_, parts.start, ?_⟩
  · rw [List.append_nil]
  · rw [List.append_nil]
    exact parts.start

theorem Parts.apply_cut_pasted (parts : bench.Parts before selected after) :
    (bench.apply .cut).apply (.pasted selected) =
      { bench with selection := .cursor bench.selection.stop } := by
  have ends : bench.selection.start + selected.byteLength = bench.selection.stop := by
    rw [← parts.start, ← parts.stop, Text.byteLength_append]
  calc (bench.apply .cut).apply (.pasted selected)
      = { bench.apply .cut with
          text := before ++ selected ++ after
          selection := .cursor ((bench.apply .cut).selection.start + selected.byteLength) } :=
        parts.parts_apply_cut.replaceSelection selected
    _ = { bench with selection := .cursor bench.selection.stop } := by
        rw [parts.apply_cut, ← parts.whole]
        simp only [Selection.cursor, ends]

end Workbench

/-- Cutting and pasting leave a session with what it had, but for the cursor and for the
error lines that a change of the text empties. -/
theorem Session.apply_cut_pasted {session : Session} {before selected after : Text}
    (parts : session.workbench.Parts before selected after) (filled : selected ≠ []) :
    (session.apply (.workbench .cut)).apply (.workbench (.pasted selected)) =
      { session with
        workbench :=
          { session.workbench with selection := .cursor session.workbench.selection.stop }
        errors := if session.clearErrorsOnEdit then .empty else session.errors } := by
  have shorter : (session.workbench.apply .cut).text ≠ session.workbench.text := by
    rw [parts.apply_cut, parts.whole]
    intro same
    have lengths := congrArg List.length same
    simp only [List.length_append] at lengths
    have positive := List.length_pos_iff.2 filled
    omega
  simp only [Session.apply, parts.apply_cut_pasted]
  cases session.clearErrorsOnEdit
  · simp
  · simp [shorter.symm]

namespace Editor

variable {σ : Type} {editor : Editor σ}

theorem copy_eq (editor : Editor σ) :
    editor.copy = { editor with
      clipboard := editor.session.workbench.selectedText?.or editor.clipboard } := by
  rw [copy]
  split
  · next nothing => rw [nothing]; rfl
  · next selected found => rw [found]; rfl

theorem selectedText?_of_parts {before selected after : Text}
    (parts : editor.session.workbench.Parts before selected after)
    (selects : editor.session.workbench.selection.isCursor = false) :
    editor.session.workbench.selectedText? = some selected := by
  rw [parts.selectedText?, selects]
  rfl

variable [DocumentStore σ]

theorem cut_of_isCursor (cursor : editor.session.workbench.selection.isCursor = true) :
    editor.cut = editor := by
  rw [cut, Workbench.selectedText?, if_pos cursor]

section

variable {before selected after : Text}
  (parts : editor.session.workbench.Parts before selected after)
  (selects : editor.session.workbench.selection.isCursor = false)

include parts selects

theorem cut_of_parts : editor.cut = { editor with clipboard := some selected }.act .cut := by
  rw [cut, selectedText?_of_parts parts selects]

theorem clipboard_cut : editor.cut.clipboard = some selected := by
  rw [cut_of_parts parts selects, act, clipboard_dispatch]

theorem session_cut : editor.cut.session = editor.session.apply (.workbench .cut) := by
  rw [cut_of_parts parts selects, act, session_dispatch]

theorem session_paste_cut : editor.cut.paste.session =
    (editor.session.apply (.workbench .cut)).apply (.workbench (.pasted selected)) := by
  rw [paste, act, session_dispatch, session_cut parts selects, clipboard_cut parts selects]
  rfl

end

/-- Pasting takes a cut back in every editor that can be reached: the text is the one
before the cut, with the cursor at its end, the clipboard holds what was cut, and nothing
else has changed of the session but that error lines are gone if changes of the text
empty them.  Copying changes the clipboard alone.  With a cursor neither of them changes
anything. -/
theorem paste_takes_cut_back (reachable : Reachable editor) :
    let bench := editor.session.workbench
    (bench.selection.isCursor = false → ∃ before selected after,
      bench.Parts before selected after ∧ selected ≠ [] ∧
      editor.cut.session.workbench =
        { bench with text := before ++ after, selection := .cursor bench.selection.start } ∧
      editor.cut.clipboard = some selected ∧
      editor.cut.paste.session =
        { editor.session with
          workbench := { bench with selection := .cursor bench.selection.stop }
          errors := if editor.session.clearErrorsOnEdit then .empty
            else editor.session.errors } ∧
      editor.cut.paste.clipboard = some selected ∧
      editor.copy = { editor with clipboard := some selected }) ∧
    (bench.selection.isCursor = true → editor.cut = editor ∧ editor.copy = editor) ∧
    editor.copy.session = editor.session := by
  intro bench
  rcases reachable.selectionFits.exists_parts with ⟨before, selected, after, parts⟩
  refine ⟨fun selects => ?_, fun cursor => ⟨cut_of_isCursor cursor, ?_⟩, ?_⟩
  · have filled := parts.ne_nil selects
    refine ⟨before, selected, after, parts, filled, ?_, clipboard_cut parts selects, ?_, ?_, ?_⟩
    · rw [session_cut parts selects]
      exact parts.apply_cut
    · rw [session_paste_cut parts selects]
      exact Session.apply_cut_pasted parts filled
    · rw [paste, act, clipboard_dispatch, clipboard_cut parts selects]
    · rw [copy_eq, selectedText?_of_parts parts selects]
      rfl
  · rw [copy, Workbench.selectedText?, if_pos cursor]
  · rw [copy_eq]

/-- A selection that is reported from its end to its start. -/
theorem paste_takes_cut_back_reversed :
    let editor := (initial .standard (MemoryStore.mk []) fun _ _ => none).operate
      (.user (.edit "aé€b".toList ⟨6, 1⟩))
    Reachable editor ∧ editor.session.workbench.selection.isCursor = false ∧
      editor.cut.session.workbench.text = "ab".toList ∧
      editor.cut.paste.session.workbench.text = "aé€b".toList ∧
      editor.cut.paste.session.workbench.selection = .cursor 6 ∧
      editor.cut.paste.clipboard = some "é€".toList := by
  intro editor
  have reachable : Reachable editor := .operate (.initial ..) _
  have selects : editor.session.workbench.selection.isCursor = false := by decide
  rcases (paste_takes_cut_back reachable).1 selects with
    ⟨before, selected, after, parts, _, _, _, restored, kept, _⟩
  have same : selected = "é€".toList :=
    Option.some.inj ((selectedText?_of_parts parts selects).symm.trans (by decide))
  refine ⟨reachable, selects, by decide, ?_, ?_, ?_⟩
  · rw [restored]
    decide
  · rw [restored]
    decide
  · rw [kept, same]

end Editor

end LiveEditor
