import LiveEditor.Search.Words

/-! # Patterns and their matches

A pattern finds its occurrences in a text, in the order of their starts.  These
may overlap.  The matches are chosen among them from left to right: after a
match the choice goes on behind it, so matches never overlap.
-/

namespace LiveEditor

abbrev Pattern := (text : Text) → List Span

/-- Choose spans from left to right, each at or behind `offset` and behind the
one that was chosen before it. -/
def Span.chooseFrom (offset : Nat) : List Span → List Span
  | [] => []
  | span :: rest =>
      if offset ≤ span.start then span :: chooseFrom span.stop rest
      else chooseFrom offset rest

namespace Pattern

def allMatches (pattern : Pattern) (text : Text) : List Span :=
  Span.chooseFrom 0 (pattern text)

example : allMatches (fun _ => [⟨0, 2⟩, ⟨1, 3⟩, ⟨2, 4⟩]) [] = [⟨0, 2⟩, ⟨2, 4⟩] := by
  decide

/-! ## Building patterns -/

def ofWord (rule : WordRule) (word : Text) : Pattern := fun text =>
  if word.isEmpty then [] else (rule.occurrences [word] text).flatten

theorem ofWord_eq (rule : WordRule) (word text : Text) :
    ofWord rule word text =
      if word.isEmpty then [] else rule.occurrencesOf word text.places := by
  simp [ofWord, WordRule.occurrences_eq]

def ofMarker (marker : Text) : Pattern :=
  .ofWord .literal marker

def isLineBreak (character : Char) : Bool :=
  character == '\r' || character == '\n'

def lineBreaks (text : Text) : List Nat :=
  text.places.filterMap fun place =>
    if place.after.any isLineBreak then some place.offset else none

/-- Extend each span up to the first of the given offsets that is not inside
it, or else up to `last`.  Spans and offsets are in order. -/
def extendUpTo (last : Nat) : List Span → (offsets : List Nat) → List Span
  | [], _ => []
  | span :: rest, offsets =>
      let ahead := offsets.dropWhile (· < span.stop)
      ⟨span.start, ahead.head?.getD last⟩ :: extendUpTo last rest ahead

/-- Extend each span through the first closing span behind it.  A span without
one is left out, and so is a span with a barrier before it.  Spans, closing
spans and the offsets of barriers are in order. -/
def extendThrough :
    List Span → (closings : List Span) → (barriers : List Nat) → List Span
  | [], _, _ => []
  | span :: rest, closings, barriers =>
      let closingsAhead := closings.dropWhile (·.start < span.stop)
      let barriersAhead := barriers.dropWhile (· < span.stop)
      let more := extendThrough rest closingsAhead barriersAhead
      match closingsAhead with
      | [] => more
      | closing :: _ =>
          if barriersAhead.head?.all (closing.start ≤ ·) then
            ⟨span.start, closing.stop⟩ :: more
          else
            more

def toLineEnd (marker : Text) : Pattern := fun text =>
  extendUpTo text.byteLength (ofMarker marker text) (lineBreaks text)

def delimited (opening closing : Text) (barriers : Text → List Nat) : Pattern :=
  fun text =>
    extendThrough (ofMarker opening text) (ofMarker closing text) (barriers text)

example : delimited "/*".toList "*/".toList (fun _ => []) "/*/a*/*/".toList =
    [⟨0, 6⟩] := by decide +kernel

example : toLineEnd "#".toList "a##\n#".toList = [⟨1, 3⟩, ⟨2, 3⟩, ⟨4, 5⟩] := by
  decide +kernel

end Pattern

end LiveEditor
