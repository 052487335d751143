import LiveEditor.Search.Pattern
import LiveEditor.Unicode.Blank

/-! # Queries

A query is a text that is taken literally.  It may ignore case, by simple case
folding, and it may ask for a word boundary at both ends of a match.  The empty
query matches nowhere.
-/

namespace LiveEditor

structure Query where
  text : Text := []
  caseSensitive : Bool := false
  wholeWord : Bool := false
  deriving DecidableEq, Repr, Inhabited

namespace Query

def isEmpty (query : Query) : Bool :=
  query.text.isEmpty

def isBlank (query : Query) : Bool :=
  query.text.all Unicode.isBlank

def rule (query : Query) : WordRule :=
  .ofOptions query.caseSensitive query.wholeWord

def pattern (query : Query) : Pattern :=
  .ofWord query.rule query.text

def allMatches (query : Query) (text : Text) : List Span :=
  query.pattern.allMatches text

def covers (query : Query) (text : Text) : Bool :=
  !query.isEmpty && text.length == query.text.length &&
    (query.rule.occurrenceAt? query.text text.places).isSome

example : Query.allMatches { text := "a".toList } "abA".toList =
    [⟨0, 1⟩, ⟨2, 3⟩] := by decide +kernel

end Query

end LiveEditor
