import LiveEditor.Proofs.Highlight.Feature
import LiveEditor.Proofs.Session.Rendering

/-! # Passes and their styles

A pass has the same effect on an offset however many matches of its features cover
it.  So the style at an offset is told by one question for each pass, and a feature
takes part in the answer by its own matches only.
-/

namespace LiveEditor

namespace Feature

def Shows (compiles : Feature → Bool) (text : Text) (offset : Nat) (feature : Feature) :
    Prop :=
  compiles feature = true ∧
    ∃ span ∈ feature.pattern.allMatches text, span.contains offset = true

instance (compiles : Feature → Bool) (text : Text) (offset : Nat) :
    DecidablePred (Shows compiles text offset) := fun _ =>
  inferInstanceAs (Decidable (_ ∧ _))

theorem staysInside_pattern (feature : Feature) : feature.pattern.StaysInside := by
  cases feature with
  | word characters =>
      intro text span member
      exact ((WordRule.mem_occurrencesOf_iff _ characters text span).1 member).fits
  | lineComment marker => exact Pattern.staysInside_toLineEnd marker
  | blockComment opening closing =>
      exact Pattern.staysInside_delimited opening closing fun _ => []
  | string delimiter =>
      exact Pattern.staysInside_delimited delimiter delimiter Pattern.lineBreaks

end Feature

namespace Pass

variable (compiles : Feature → Bool)

theorem staysInside_compile (features : List Feature) (style : Style) :
    (compile compiles features style).StaysInside := by
  intro text spans member
  rcases List.mem_map.1 member with ⟨feature, _, rfl⟩
  exact feature.staysInside_pattern text

theorem ranges_compile (features : List Feature) (style : Style) (text : Text) :
    (compile compiles features style).ranges text =
      StyledText.layerOf style
        ((features.filter compiles).flatMap fun feature =>
          feature.pattern.allMatches text) := by
  rw [ranges, compile, List.flatMap_map, StyledText.layerOf, List.map_flatMap]
  rfl

theorem foldl_ranges_compile (base : Style) (features : List Feature) (style : Style)
    (text : Text) (offset : Nat) :
    (((compile compiles features style).ranges text).filter
        fun range => range.span.contains offset).foldl
        (fun lower range => lower.overlay range.style) base =
      base.overlayIf (∃ feature ∈ features, feature.Shows compiles text offset) style := by
  have covered : (∃ span ∈ (features.filter compiles).flatMap fun feature =>
        feature.pattern.allMatches text, span.contains offset = true) ↔
      ∃ feature ∈ features, feature.Shows compiles text offset := by
    simp only [List.mem_flatMap, List.mem_filter]
    constructor
    · intro ⟨span, ⟨feature, ⟨member, compiled⟩, found⟩, contains⟩
      exact ⟨feature, member, compiled, span, found, contains⟩
    · intro ⟨feature, member, compiled, span, found, contains⟩
      exact ⟨span, ⟨feature, ⟨member, compiled⟩, found⟩, contains⟩
  rw [ranges_compile, StyledText.foldl_layerOf]
  simp only [Style.overlayIf, covered]

end Pass

namespace Grammar

theorem ranges_ofCompiled (compiles : Feature → Bool) (grammar : Grammar) (text : Text) :
    (StyledText.ofCompiled compiles (some grammar) text).ranges =
      (grammar.compile compiles).flatMap fun pass => pass.ranges text := by
  have accepted : (StyledText.plain text).text.Accepts
      ((grammar.compile compiles).flatMap fun pass => pass.ranges text) := by
    intro range member
    rcases List.mem_flatMap.1 member with ⟨pass, passMember, found⟩
    rcases List.mem_map.1 passMember with ⟨entry, _, rfl⟩
    exact (Pass.staysInside_compile compiles entry.1 entry.2).accepts_ranges text range found
  rw [StyledText.ofCompiled, StyledText.ranges_withStyles accepted]
  rfl

theorem styleAt_ofCompiled (compiles : Feature → Bool) (grammar : Grammar) (text : Text)
    (offset : Nat) :
    (StyledText.ofCompiled compiles (some grammar) text).styleAt offset =
      grammar.features.foldl (fun lower entry =>
        lower.overlayIf (∃ feature ∈ entry.1, feature.Shows compiles text offset) entry.2)
        .plain := by
  rw [StyledText.styleAt, ranges_ofCompiled, List.filter_flatMap, List.foldl_flatMap, compile,
    List.foldl_map]
  simp only [Pass.foldl_ranges_compile]

/-- The style at an offset is told by the passes in their order: each lays its style
over the ones before it where a match of one of its features is.  The matches of a
feature are the places where it stands and which no earlier match of it overlaps,
whatever other features there are; a feature whose pattern does not compile takes no
part. -/
theorem highlight_characterized (compiles : Feature → Bool) (grammar : Grammar)
    (text : Text) :
    (∀ offset, (StyledText.ofCompiled compiles (some grammar) text).styleAt offset =
      ((((Style.plain.overlayIf
        (∃ word ∈ grammar.keywords, (Feature.word word).Shows compiles text offset)
        Palette.grammarKeyword).overlayIf
        (∃ word ∈ grammar.types, (Feature.word word).Shows compiles text offset)
        Palette.grammarType).overlayIf
        (∃ marker ∈ grammar.lineComment?,
          (Feature.lineComment marker).Shows compiles text offset)
        Palette.grammarComment).overlayIf
        (∃ markers ∈ grammar.blockComment?,
          (Feature.blockComment markers.1 markers.2).Shows compiles text offset)
        Palette.grammarComment).overlayIf
        (∃ delimiter ∈ grammar.stringDelimiter,
          (Feature.string delimiter).Shows compiles text offset)
        Palette.grammarString) ∧
    (StyledText.ofCompiled compiles (some grammar) text).ranges =
      (grammar.features.flatMap fun entry => StyledText.layerOf entry.2
        ((entry.1.filter compiles).flatMap fun feature => feature.pattern.allMatches text)) ∧
    (∀ feature : Feature, feature.IsFilled → ∀ spans,
      Span.Unobstructed (feature.StandsAt text) 0 spans ↔
        spans = feature.pattern.allMatches text) ∧
    grammar.IsFilled ∧
    (∀ offset, (StyledText.ofCompiled compiles none text).styleAt offset = .plain) ∧
    ∀ given, StyledText.ofCompiled (fun _ => true) given text =
      StyledText.ofGrammar given text := by
  refine ⟨fun offset => ?_, ?_,
    fun feature filled => Feature.unobstructed_iff_eq_allMatches filled text,
    grammar.isFilled, fun offset => rfl,
    fun given => StyledText.ofCompiled_true given text⟩
  · simp only [styleAt_ofCompiled, features, List.foldl_cons, List.foldl_nil, List.mem_map,
      Option.mem_toList, Option.map_eq_some_iff, exists_exists_and_eq_and, Option.mem_def]
  · simp only [ranges_ofCompiled, compile, List.flatMap_map, Pass.ranges_compile]

end Grammar

end LiveEditor
