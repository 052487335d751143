import LiveEditor.Proofs.Highlight.Overlay

/-! # Overlays that are laid again

An overlay that lies on a text already has nothing to add.  Laying matches and error
lines over a composed text once more changes no run, and error lines that come one
after the other look like all of them at once, in whatever order they come.
-/

namespace LiveEditor

namespace Style

/-- Laying two styles over a style a second time has no effect. -/
theorem overlay_again (lower middle upper : Style) :
    (((lower.overlay middle).overlay upper).overlay middle).overlay upper =
      (lower.overlay middle).overlay upper := by
  calc (((lower.overlay middle).overlay upper).overlay middle).overlay upper
      = lower.overlay ((middle.overlay upper).overlay (middle.overlay upper)) := by
        simp only [overlay_assoc]
    _ = lower.overlay (middle.overlay upper) := by rw [overlay_self]
    _ = (lower.overlay middle).overlay upper := (overlay_assoc lower middle upper).symm

theorem overlayIf_eq_overlay (condition : Prop) [Decidable condition] (lower upper : Style) :
    lower.overlayIf condition upper = lower.overlay (if condition then upper else plain) := by
  rw [overlayIf]
  split
  · rfl
  · rw [overlay_plain]

theorem overlayIf_overlayIf (one other : Prop) [Decidable one] [Decidable other]
    (lower upper : Style) :
    (lower.overlayIf one upper).overlayIf other upper = lower.overlayIf (one ∨ other) upper := by
  by_cases first : one <;> by_cases second : other <;>
    simp [overlayIf, first, second, overlay_overlay_self]

end Style

namespace StyledText

/-! ## Error lines on error lines -/

theorem text_foldl_overlayErrors (base : StyledText) (sets : List ErrorLines) :
    (sets.foldl overlayErrors base).text = base.text := by
  induction sets generalizing base with
  | nil => rfl
  | cons first rest induction => exact induction (base.overlayErrors first)

/-- Sets of error lines that are laid over a text in turn show what is in any of them. -/
theorem styleAt_foldl_overlayErrors (base : StyledText) (sets : List ErrorLines) {offset : Nat}
    (inside : offset < base.text.byteLength) :
    (sets.foldl overlayErrors base).styleAt offset =
      (base.styleAt offset).overlayIf
        (∃ set ∈ sets, 1 + base.text.feedsBefore offset ∈ set.lines) Palette.errorLine := by
  induction sets generalizing base with
  | nil => simp [Style.overlayIf]
  | cons first rest induction =>
      rw [List.foldl_cons, induction (base.overlayErrors first) inside,
        styleAt_overlayErrors base first inside]
      simp only [List.exists_mem_cons_iff]
      exact Style.overlayIf_overlayIf _ _ _ _

theorem runs_foldl_overlayErrors (base : StyledText) (sets : List ErrorLines)
    (errors : ErrorLines)
    (together : ∀ number, (∃ set ∈ sets, number ∈ set.lines) ↔ number ∈ errors.lines) :
    (sets.foldl overlayErrors base).runs = (base.overlayErrors errors).runs := by
  have text : (sets.foldl overlayErrors base).text = (base.overlayErrors errors).text :=
    text_foldl_overlayErrors base sets
  refine (runs_eq_runs_iff (congrArg Text.byteLength text)).2 fun offset inside => ?_
  have within : offset < base.text.byteLength := by rwa [text] at inside
  rw [styleAt_foldl_overlayErrors base sets within, styleAt_overlayErrors base errors within]
  simp only [together]

/-! ## Composing again -/

/-- At an offset composing lays the same two styles over whatever shows there. -/
theorem exists_styleAt_compose (query : Query) (errors : ErrorLines) {text : Text}
    {offset : Nat} (inside : offset < text.byteLength) :
    ∃ matched marked : Style, ∀ base : StyledText, base.text = text →
      (base.compose query errors).styleAt offset =
        ((base.styleAt offset).overlay matched).overlay marked := by
  refine ⟨if query.isBlank = false ∧
      ∃ span ∈ query.allMatches text, span.contains offset = true
    then Palette.searchMatch else .plain,
    if 1 + text.feedsBefore offset ∈ errors.lines then Palette.errorLine else .plain, ?_⟩
  rintro base rfl
  rw [compose, styleAt_overlayErrors (base.overlaySearch query) errors inside,
    styleAt_overlaySearch, Style.overlayIf_eq_overlay, Style.overlayIf_eq_overlay]
  rfl

theorem runs_compose_compose (base : StyledText) (query : Query) (errors : ErrorLines) :
    ((base.compose query errors).compose query errors).runs =
      (base.compose query errors).runs := by
  have length : ((base.compose query errors).compose query errors).text.byteLength =
      (base.compose query errors).text.byteLength := rfl
  refine (runs_eq_runs_iff length).2 fun offset (inside : offset < base.text.byteLength) => ?_
  rcases exists_styleAt_compose query errors inside with ⟨matched, marked, shows⟩
  rw [shows (base.compose query errors) rfl, shows base rfl, Style.overlay_again]

/-- Overlays do not add up.  Composing a composed text leaves its runs as they are; two
sets of error lines have the runs of their union, whichever comes first; and error lines
that come one by one, in any order and some of them again, have the runs of their set. -/
theorem overlays_absorb_repetition (base : StyledText) (query : Query) (errors : ErrorLines) :
    ((base.compose query errors).compose query errors).runs =
        (base.compose query errors).runs ∧
    (∀ more : ErrorLines,
      ((base.overlayErrors errors).overlayErrors more).runs =
          (base.overlayErrors (errors.insertAll more.lines)).runs ∧
      ((base.overlayErrors more).overlayErrors errors).runs =
          (base.overlayErrors (errors.insertAll more.lines)).runs) ∧
    ∀ arriving : List Nat, (∀ number, number ∈ arriving ↔ number ∈ errors.lines) →
      (arriving.foldl (fun shown number => shown.overlayErrors (.ofList [number])) base).runs =
        (base.overlayErrors errors).runs := by
  refine ⟨base.runs_compose_compose query errors, fun more => ⟨?_, ?_⟩, fun arriving same => ?_⟩
  · refine base.runs_foldl_overlayErrors [errors, more] _ fun number => ?_
    simp [ErrorLines.mem_lines_insertAll]
  · refine base.runs_foldl_overlayErrors [more, errors] _ fun number => ?_
    simp [ErrorLines.mem_lines_insertAll, or_comm]
  · have singly := base.runs_foldl_overlayErrors
      (arriving.map fun number => ErrorLines.ofList [number]) errors fun number => by
        simp [ErrorLines.mem_lines_ofList, same]
    rwa [List.foldl_map] at singly

/-- The second line arrives before the first one and once more behind it. -/
theorem overlays_absorb_repetition_twoLines :
    let base := (plain "ab\na".toList).withStyles [⟨⟨0, 4⟩, { italic := some true }⟩]
    let query : Query := { text := "a".toList }
    let errors := ErrorLines.ofList [1, 2]
    let arriving := [2, 1, 2]
    (∀ number, number ∈ arriving ↔ number ∈ errors.lines) ∧
      (arriving.foldl (fun shown number => shown.overlayErrors (.ofList [number]))
        (base.overlaySearch query)).runs = (base.compose query errors).runs ∧
      (base.compose query errors).runs.map StyledRange.span = [⟨0, 1⟩, ⟨1, 3⟩, ⟨3, 4⟩] := by
  intro base query errors arriving
  have same : ∀ number, number ∈ arriving ↔ number ∈ errors.lines := by
    intro number
    rw [ErrorLines.mem_lines_ofList]
    simp only [arriving, List.mem_cons, List.not_mem_nil, or_false]
    omega
  let composed := base.compose query errors
  let drawn : List StyledRange :=
    [⟨⟨0, 1⟩, composed.styleAt 0⟩, ⟨⟨1, 3⟩, composed.styleAt 1⟩, ⟨⟨3, 4⟩, composed.styleAt 3⟩]
  have shows : ∀ run ∈ drawn, ∀ offset < run.span.stop, run.span.start ≤ offset →
      composed.styleAt offset = run.style := by
    decide +kernel
  have maximal : MaximalRuns composed.styleAt 0 4 drawn :=
    { tiles := by simp [Tiles, drawn]
      shows := fun run member offset inside =>
        have within := Span.contains_iff.1 inside
        shows run member offset within.2 within.1
      distinct := by decide +kernel }
  have runs : composed.runs = drawn := composed.maximalRuns_runs.unique maximal
  refine ⟨same, ?_, congrArg (List.map StyledRange.span) runs⟩
  exact (overlays_absorb_repetition (base.overlaySearch query) query errors).2.2 arriving same

end StyledText

end LiveEditor
