import LiveEditor.Highlight.Feature
import LiveEditor.Proofs.Highlight.Grammar
import LiveEditor.Proofs.Search.Delimited

/-! # Where features stand

A pattern finds its feature wherever that stands in a text, and the matches are
those places which no earlier match overlaps.  No word and no marker of a grammar
is empty, so all of its features are found this way.
-/

namespace LiveEditor

namespace Feature

def IsFilled : Feature → Prop
  | .word characters => characters ≠ []
  | .lineComment marker => marker ≠ []
  | .blockComment opening closing => opening ≠ [] ∧ closing ≠ []
  | .string delimiter => delimiter ≠ []

def wordQuery (characters : Text) : Query where
  text := characters
  caseSensitive := true
  wholeWord := true

/-- A feature stands at a span of a text: a word as it is and between word boundaries,
a comment or string from its marker to its end. -/
def StandsAt (text : Text) : Feature → Span → Prop
  | .word characters => (wordQuery characters).StandsAt text
  | .lineComment marker => text.Opens marker text.EndsLine
  | .blockComment opening closing => text.Opens opening (text.ClosesAt closing fun _ => False)
  | .string delimiter => text.Opens delimiter (text.ClosesAt delimiter text.BreaksAt)

/-! ## What the patterns find -/

theorem pattern_word {characters : Text} (filled : characters ≠ []) (text : Text) :
    (word characters).pattern text = (wordQuery characters).pattern text := by
  rw [Query.pattern, Pattern.ofWord_eq, if_neg (by simpa [wordQuery] using filled)]
  rfl

theorem mem_pattern_iff {feature : Feature} (filled : feature.IsFilled) {text : Text}
    {span : Span} : span ∈ feature.pattern text ↔ feature.StandsAt text span := by
  cases feature with
  | word characters =>
      rw [pattern_word filled, Query.mem_pattern_iff_occurs]
      exact (wordQuery characters).occurs_iff_standsAt filled text span
  | lineComment marker => exact Pattern.mem_toLineEnd_iff filled
  | blockComment opening closing =>
      have found : span ∈ Pattern.delimited opening closing (fun _ => []) text ↔
          text.Opens opening (text.ClosesAt closing (· ∈ [])) span :=
        Pattern.mem_delimited_iff filled.1 filled.2 .nil
      simp only [List.not_mem_nil] at found
      exact found
  | string delimiter =>
      have found : span ∈ Pattern.delimited delimiter delimiter Pattern.lineBreaks text ↔
          text.Opens delimiter
            (text.ClosesAt delimiter (· ∈ Pattern.lineBreaks text)) span :=
        Pattern.mem_delimited_iff filled filled (Pattern.pairwise_lineBreaks text)
      simp only [Pattern.mem_lineBreaks_iff] at found
      exact found

theorem ordered_pattern {feature : Feature} (filled : feature.IsFilled) (text : Text) :
    Span.Ordered (feature.pattern text) := by
  cases feature with
  | word characters =>
      rw [pattern_word filled]
      exact Query.ordered_pattern _ text
  | lineComment marker => exact Pattern.ordered_toLineEnd marker text
  | blockComment opening closing =>
      exact Pattern.ordered_delimited opening closing (fun _ => []) text
  | string delimiter =>
      exact Pattern.ordered_delimited delimiter delimiter Pattern.lineBreaks text

theorem unobstructed_iff_eq_allMatches {feature : Feature} (filled : feature.IsFilled)
    (text : Text) (spans : List Span) :
    Span.Unobstructed (feature.StandsAt text) 0 spans ↔
      spans = feature.pattern.allMatches text :=
  Span.unobstructed_iff_eq_chooseFrom (ordered_pattern filled text)
    (fun _ => mem_pattern_iff filled) spans

theorem unobstructed_allMatches {feature : Feature} (filled : feature.IsFilled) (text : Text) :
    Span.Unobstructed (feature.StandsAt text) 0 (feature.pattern.allMatches text) :=
  (unobstructed_iff_eq_allMatches filled text _).2 rfl

end Feature

namespace Grammar

def IsFilled (grammar : Grammar) : Prop :=
  ∀ entry ∈ grammar.features, ∀ feature ∈ entry.1, feature.IsFilled

theorem ne_nil_of_lineComment? {grammar : Grammar} {marker : Text}
    (found : grammar.lineComment? = some marker) : marker ≠ [] := by
  rcases Option.bind_eq_some_iff.1 found with ⟨markers, _, line⟩
  intro empty
  exact markers.lineFilled (empty ▸ line)

theorem ne_nil_of_blockComment? {grammar : Grammar} {opening closing : Text}
    (found : grammar.blockComment? = some (opening, closing)) :
    opening ≠ [] ∧ closing ≠ [] := by
  rcases blockComment?_eq_some_iff.1 found with ⟨markers, _, start, stop⟩
  constructor
  · intro empty
    exact markers.blockStartFilled (empty ▸ start)
  · intro empty
    exact markers.blockEndFilled (empty ▸ stop)

theorem ne_nil_of_stringDelimiter {grammar : Grammar} {delimiter : Text}
    (found : grammar.stringDelimiter = some delimiter) : delimiter ≠ [] :=
  fun empty => grammar.stringFilled (empty ▸ found)

theorem isFilled (grammar : Grammar) : grammar.IsFilled := by
  have words : ∀ {words : List Text}, IsWordSet words →
      ∀ feature ∈ words.map Feature.word, feature.IsFilled := fun set =>
    List.forall_mem_map.2 fun _ member empty => set.filled (empty ▸ member)
  simp only [IsFilled, features, List.forall_mem_cons, List.not_mem_nil, false_imp_iff,
    implies_true, and_true]
  refine ⟨words grammar.keywordSet, words grammar.typeSet, ?_, ?_, ?_⟩
  · intro feature member
    rcases Option.map_eq_some_iff.1 (Option.mem_toList.1 member) with ⟨marker, found, rfl⟩
    exact ne_nil_of_lineComment? found
  · intro feature member
    rcases Option.map_eq_some_iff.1 (Option.mem_toList.1 member) with ⟨markers, found, rfl⟩
    exact ne_nil_of_blockComment? found
  · intro feature member
    rcases Option.map_eq_some_iff.1 (Option.mem_toList.1 member) with
      ⟨delimiter, found, rfl⟩
    exact ne_nil_of_stringDelimiter found

end Grammar

end LiveEditor
