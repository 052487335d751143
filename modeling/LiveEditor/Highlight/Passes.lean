import LiveEditor.Highlight.Grammar
import LiveEditor.Search.Pattern
import LiveEditor.Style.Palette
import LiveEditor.Style.StyledText

/-! # Highlighting by a grammar

Each feature of a grammar is a pass of its own over the whole text.  The passes
come in a fixed order, keywords, types, line comments, block comments and
strings, and a later one is laid over the earlier ones.  The matches of a word
or a marker do not depend on any other word or marker.  A block comment or
string without its closing marker yields nothing.
-/

namespace LiveEditor

structure Pass where
  occurrences : (text : Text) → List (List Span)
  style : Style

namespace Pass

def ofWords (words : List Text) (style : Style) : Pass where
  occurrences := WordRule.occurrences (.ofOptions true true) words
  style := style

def ofPattern (pattern : Option Pattern) (style : Style) : Pass where
  occurrences := fun text => (pattern.map fun pattern => pattern text).toList
  style := style

def ranges (pass : Pass) (text : Text) : List StyledRange :=
  (pass.occurrences text).flatMap fun spans =>
    (Span.chooseFrom 0 spans).map fun span => ⟨span, pass.style⟩

end Pass

namespace Grammar

def lineCommentPattern (marker : Text) : Pattern :=
  .toLineEnd marker

def blockCommentPattern (opening closing : Text) : Pattern :=
  .delimited opening closing fun _ => []

def stringPattern (delimiter : Text) : Pattern :=
  .delimited delimiter delimiter Pattern.lineBreaks

def passes (grammar : Grammar) : List Pass :=
  [ .ofWords grammar.keywords Palette.grammarKeyword,
    .ofWords grammar.types Palette.grammarType,
    .ofPattern (grammar.lineComment?.map lineCommentPattern) Palette.grammarComment,
    .ofPattern
      (grammar.blockComment?.map fun markers =>
        blockCommentPattern markers.1 markers.2)
      Palette.grammarComment,
    .ofPattern (grammar.stringDelimiter.map stringPattern) Palette.grammarString ]

def ranges (grammar : Grammar) (text : Text) : List StyledRange :=
  grammar.passes.flatMap fun pass => pass.ranges text

end Grammar

def StyledText.ofGrammar (grammar : Option Grammar) (text : Text) : StyledText :=
  match grammar with
  | none => .plain text
  | some grammar => (StyledText.plain text).withStyles (grammar.ranges text)

end LiveEditor
