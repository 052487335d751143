import LiveEditor.Search.Query
import LiveEditor.Text.Selection

/-! # Searching and replacing

A search holds a query, the text that it looks at, and every place where the
query occurs there, so that many steps through one text cost one reading of it.
-/

namespace LiveEditor

structure Search where
  query : Query
  text : Text
  occurrences : List Span
  found : occurrences = query.pattern text

def Query.search (query : Query) (text : Text) : Search :=
  ⟨query, text, query.pattern text, rfl⟩

namespace Search

def allMatches (search : Search) : List Span :=
  Span.chooseFrom 0 search.occurrences

/-- The first occurrence at or after an offset, or else the first one of the
text.  An offset inside a character counts as the one before that character. -/
def findNext (search : Search) (offset : Nat) : Option Span :=
  let start := search.text.floorBoundary offset
  (search.occurrences.find? (start ≤ ·.start)).or search.occurrences.head?

/-- The span that replacing acts on: the selection if the selected text by
itself is one match, and otherwise the next match after the selection. -/
def replaceTarget (search : Search) (selection : Selection) : Option Span :=
  let clamped := selection.clampTo search.text
  if !clamped.isCursor &&
      (search.text.slice clamped.span).toOption.any search.query.covers then
    some clamped.span
  else
    search.findNext clamped.stop

def replaceCurrent (search : Search) (selection : Selection) (replacement : Text) :
    Option (Text × Selection) :=
  match search.replaceTarget selection with
  | none => none
  | some target =>
      match search.text.replace target replacement with
      | .error _ => none
      | .ok replaced =>
          some (replaced,
            .ofEnds target.start (target.start + replacement.byteLength))

/-- Put a replacement in the place of each of the given spans of a text that
begins at `offset`.  The spans are in order and not empty: the characters of a
span are dropped, and the replacement comes where the last of them was. -/
def replaceSpans (replacement : Text) (offset : Nat) :
    List Span → Text → Text
  | _, [] => []
  | [], rest => rest
  | span :: spans, character :: rest =>
      let next := offset + character.utf8Size
      if offset < span.start then
        character :: replaceSpans replacement next (span :: spans) rest
      else if next < span.stop then
        replaceSpans replacement next (span :: spans) rest
      else
        replacement ++ replaceSpans replacement next spans rest

def replaceAll (search : Search) (replacement : Text) : Option Text :=
  if search.query.isEmpty then none
  else some (replaceSpans replacement 0 search.allMatches search.text)

example : (Query.search { text := "aa".toList } "aaaba".toList).replaceAll
    "x".toList = some "xaba".toList := by decide +kernel

end Search

end LiveEditor
