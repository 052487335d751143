import Mathlib.Data.List.Sort
import LiveEditor.Highlight.Overlay
import LiveEditor.Proofs.Search.Matches
import LiveEditor.Proofs.Style.Fitting
import LiveEditor.Proofs.Text.Lines

/-! # Composed layers

A layer of one style has the same effect on an offset however many of its spans
cover it.  So a composed text shows the style of its base, with the match style
over it inside the matches of the query, and the error style over both on the
lines with errors.
-/

namespace LiveEditor

namespace Style

def overlayIf (condition : Prop) [Decidable condition] (lower upper : Style) : Style :=
  if condition then lower.overlay upper else lower

end Style

namespace StyledText

/-! ## Layers of one style -/

abbrev layerOf (style : Style) (spans : List Span) : List StyledRange :=
  spans.map fun span => ⟨span, style⟩

theorem foldl_layerOf (base style : Style) (spans : List Span) (offset : Nat) :
    ((layerOf style spans).filter fun range => range.span.contains offset).foldl
        (fun lower range => lower.overlay range.style) base =
      base.overlayIf (∃ span ∈ spans, span.contains offset = true) style := by
  induction spans generalizing base with
  | nil => simp [Style.overlayIf]
  | cons first rest induction =>
      rw [layerOf, List.map_cons, List.filter_cons]
      by_cases covered : first.contains offset = true
      · rw [if_pos covered, List.foldl_cons, induction]
        simp [Style.overlayIf, covered, Style.overlay_overlay_self]
      · rw [if_neg covered, induction]
        simp [Style.overlayIf, covered]

theorem accepts_layerOf {text : Text} {spans : List Span} (style : Style)
    (fit : ∀ span ∈ spans, span.Fits text) : text.Accepts (layerOf style spans) :=
  List.forall_mem_map.2 fit

theorem styleAt_withStyles_layerOf {base : StyledText} {spans : List Span} (style : Style)
    (fit : ∀ span ∈ spans, span.Fits base.text) (offset : Nat) :
    (base.withStyles (layerOf style spans)).styleAt offset =
      (base.styleAt offset).overlayIf (∃ span ∈ spans, span.contains offset = true) style := by
  rw [styleAt, ranges_withStyles (accepts_layerOf style fit), List.filter_append,
    List.foldl_append, foldl_layerOf, ← styleAt]

end StyledText

/-- Sets of lines that have the same lines of a text cover the same spans. -/
theorem ErrorLines.lineSpansAt_congr {errors others : ErrorLines} {text : Text}
    (agree : ∀ number, 0 < number → number ≤ text.lineCount →
      (number ∈ others.lines ↔ number ∈ errors.lines)) :
    text.lineSpansAt others.lines = text.lineSpansAt errors.lines := by
  rw [← Text.lineSpansAt_filter, ← Text.lineSpansAt_filter text errors.lines]
  congr 1
  refine (others.ascending.filter _).eq_of_mem_iff (errors.ascending.filter _) ?_
  intro number
  rw [List.mem_filter, List.mem_filter, Text.isSome_lineSpan?_iff]
  exact and_congr_left fun bounds => agree number bounds.1 bounds.2

namespace StyledText

/-! ## The two overlays -/

theorem accepts_searchRanges (query : Query) (text : Text) :
    text.Accepts (searchRanges query text) := by
  rw [searchRanges]
  split
  · exact fun _ member => nomatch member
  · exact accepts_layerOf _ fun _ => Query.fits_of_mem_allMatches

theorem accepts_errorRanges (errors : ErrorLines) (text : Text) :
    text.Accepts (errorRanges errors text) :=
  accepts_layerOf _ fun _ => Text.fits_of_mem_lineSpansAt

theorem styleAt_overlaySearch (base : StyledText) (query : Query) (offset : Nat) :
    (base.overlaySearch query).styleAt offset =
      (base.styleAt offset).overlayIf
        (query.isBlank = false ∧
          ∃ span ∈ query.allMatches base.text, span.contains offset = true)
        Palette.searchMatch := by
  rw [overlaySearch, searchRanges]
  cases blank : query.isBlank with
  | true => simp [withStyles, styleAt, Style.overlayIf]
  | false =>
      have fit : ∀ span ∈ query.allMatches base.text, span.Fits base.text :=
        fun _ => Query.fits_of_mem_allMatches
      simpa using styleAt_withStyles_layerOf Palette.searchMatch fit offset

theorem styleAt_overlayErrors (base : StyledText) (errors : ErrorLines) {offset : Nat}
    (inside : offset < base.text.byteLength) :
    (base.overlayErrors errors).styleAt offset =
      (base.styleAt offset).overlayIf (1 + base.text.feedsBefore offset ∈ errors.lines)
        Palette.errorLine := by
  have fit : ∀ span ∈ base.text.lineSpansAt errors.lines, span.Fits base.text :=
    fun _ => Text.fits_of_mem_lineSpansAt
  rw [overlayErrors, errorRanges, styleAt_withStyles_layerOf Palette.errorLine fit]
  simp only [Style.overlayIf, Text.exists_mem_lineSpansAt_iff inside]

/-! ## Both together -/

/-- Composing keeps the text and what lies below.  It shows matches over the base
and lines with errors over both; a number that belongs to no line has no effect. -/
theorem compose_characterized (base : StyledText) (query : Query) (errors : ErrorLines) :
    (∀ offset < base.text.byteLength,
      (base.compose query errors).styleAt offset =
        ((base.styleAt offset).overlayIf
          (query.isBlank = false ∧
            ∃ span ∈ query.allMatches base.text, span.contains offset = true)
          Palette.searchMatch).overlayIf
          (1 + base.text.feedsBefore offset ∈ errors.lines)
          Palette.errorLine) ∧
    (base.compose query errors).text = base.text ∧
    base.ranges <+: (base.compose query errors).ranges ∧
    ∀ others : ErrorLines,
      (∀ number, 0 < number → number ≤ base.text.lineCount →
        (number ∈ others.lines ↔ number ∈ errors.lines)) →
      base.compose query others = base.compose query errors := by
  refine ⟨fun offset inside => ?_, rfl, ?_, fun others agree => ?_⟩
  · rw [compose, styleAt_overlayErrors (base.overlaySearch query) errors inside,
      styleAt_overlaySearch]
    rfl
  · change base.ranges <+: base.ranges ++ _ ++ _
    rw [List.append_assoc]
    exact List.prefix_append _ _
  · have same : errorRanges others base.text = errorRanges errors base.text := by
      rw [errorRanges, errorRanges, ErrorLines.lineSpansAt_congr agree]
    change (base.overlaySearch query).withStyles (errorRanges others base.text) = _
    rw [same]
    rfl

/-- Numbers that belong to no line have no effect on a match in the second line. -/
theorem compose_markedLine :
    let base := plain "ab\na".toList
    let query : Query := { text := "a".toList }
    let composed := base.compose query (.ofList [0, 2, 9])
    composed = base.compose query (.ofList [2]) ∧
      composed.styleAt 3 = Palette.searchMatch.overlay Palette.errorLine ∧
      composed.styleAt 1 = .plain := by
  intro base query composed
  rcases compose_characterized base query (.ofList [2]) with ⟨styles, _, _, unlisted⟩
  have agree : ∀ number, 0 < number → number ≤ base.text.lineCount →
      (number ∈ (ErrorLines.ofList [0, 2, 9]).lines ↔
        number ∈ (ErrorLines.ofList [2]).lines) := by
    intro number first last
    have count : base.text.lineCount = 2 := by decide
    have both : number = 1 ∨ number = 2 := by omega
    rcases both with rfl | rfl <;> decide
  have same : composed = base.compose query (.ofList [2]) := unlisted _ agree
  refine ⟨same, ?_, ?_⟩
  · rw [same, styles 3 (by decide)]
    decide +kernel
  · rw [same, styles 1 (by decide)]
    decide +kernel

end StyledText

end LiveEditor
