import LiveEditor.Highlight.Passes

/-! # Features of a grammar

A feature is what one pattern of a pass looks for: a word, a kind of comment or a
kind of string.  A pattern need not compile, since an engine may refuse one that is
too large; its feature is left out of the pass then, and the other ones stay.
-/

namespace LiveEditor

inductive Feature where
  | word (characters : Text)
  | lineComment (marker : Text)
  | blockComment (opening closing : Text)
  | string (delimiter : Text)
  deriving DecidableEq, Repr

def Feature.pattern : Feature → Pattern
  | .word characters => fun text =>
      (WordRule.ofOptions true true).occurrencesOf characters text.places
  | .lineComment marker => Grammar.lineCommentPattern marker
  | .blockComment opening closing => Grammar.blockCommentPattern opening closing
  | .string delimiter => Grammar.stringPattern delimiter

def Pass.compile (compiles : Feature → Bool) (features : List Feature) (style : Style) :
    Pass where
  occurrences := fun text => (features.filter compiles).map fun feature => feature.pattern text
  style := style

namespace Grammar

def features (grammar : Grammar) : List (List Feature × Style) :=
  [ (grammar.keywords.map .word, Palette.grammarKeyword),
    (grammar.types.map .word, Palette.grammarType),
    ((grammar.lineComment?.map .lineComment).toList, Palette.grammarComment),
    ((grammar.blockComment?.map fun markers => .blockComment markers.1 markers.2).toList,
      Palette.grammarComment),
    ((grammar.stringDelimiter.map .string).toList, Palette.grammarString) ]

def compile (compiles : Feature → Bool) (grammar : Grammar) : List Pass :=
  grammar.features.map fun entry => .compile compiles entry.1 entry.2

end Grammar

def StyledText.ofCompiled (compiles : Feature → Bool) (grammar : Option Grammar)
    (text : Text) : StyledText :=
  match grammar with
  | none => .plain text
  | some grammar => (StyledText.plain text).withStyles
      ((grammar.compile compiles).flatMap fun pass => pass.ranges text)

/-! ## Every pattern compiles -/

namespace Pass

theorem compile_words (words : List Text) (style : Style) :
    compile (fun _ => true) (words.map .word) style = ofWords words style := by
  have occurrences : ∀ text, words.map (fun word => Feature.pattern (.word word) text) =
      WordRule.occurrences (.ofOptions true true) words text := fun text =>
    (WordRule.occurrences_eq _ words text).symm
  simp only [compile, ofWords, List.filter_eq_self.2 (fun _ _ => rfl), List.map_map, mk.injEq, and_true]
  exact funext occurrences

theorem compile_toList (feature : Option Feature) (style : Style) :
    compile (fun _ => true) feature.toList style =
      ofPattern (feature.map Feature.pattern) style := by
  cases feature <;> rfl

end Pass

theorem Grammar.compile_eq_passes (grammar : Grammar) :
    grammar.compile (fun _ => true) = grammar.passes := by
  simp only [compile, features, List.map_cons, List.map_nil, Pass.compile_words,
    Pass.compile_toList, Option.map_map]
  rfl

/-- Highlighting as such, where every pattern compiles. -/
theorem StyledText.ofCompiled_true (grammar : Option Grammar) (text : Text) :
    ofCompiled (fun _ => true) grammar text = ofGrammar grammar text := by
  cases grammar with
  | none => rfl
  | some grammar => rw [ofCompiled, Grammar.compile_eq_passes]; rfl

end LiveEditor
