import LiveEditor.Ascending
import LiveEditor.Style.StyledText

/-! # Runs

Runs cut a styled text into neighbouring pieces of one style each.  The ends of the
text and of all its ranges are its bounds, ascending and each once; a segment lies
between two neighbouring bounds.  A range covers the segments from the one that begins
where it starts to the one that ends where it stops.  They are found by two searches
among the bounds, and the style of the range is laid over theirs.  Then the segments
are drawn from left to right; one of the same style as the run before it prolongs
that run.
-/

namespace LiveEditor

abbrev Segments (bounds : Array Nat) := Vector Style (bounds.size - 1)

namespace Segments

variable {bounds : Array Nat}

def plain : Segments bounds :=
  Vector.replicate (bounds.size - 1) .plain

def overlaySlice (style : Style) (first count : Nat) (styles : Array Style) :
    Array Style :=
  (List.range' first count).foldl
    (fun styles index => styles.modify index fun lower => lower.overlay style) styles

@[simp] theorem size_overlaySlice (style : Style) (first count : Nat)
    (styles : Array Style) :
    (overlaySlice style first count styles).size = styles.size := by
  rw [overlaySlice]
  induction List.range' first count generalizing styles with
  | nil => rfl
  | cons index rest induction => rw [List.foldl_cons, induction, Array.size_modify]

def overlay (segments : Segments bounds) (range : StyledRange) : Segments bounds :=
  let first := Ascending.partitionPoint bounds range.span.start
  let last := Ascending.partitionPoint bounds range.span.stop
  ⟨overlaySlice range.style first (last - first) segments.toArray, by simp⟩

def piece (segments : Segments bounds) (index : Fin (bounds.size - 1)) : StyledRange :=
  ⟨⟨bounds[index.val], bounds[index.val + 1]⟩, segments[index]⟩

/-- Draw a piece behind the runs drawn so far, the last of which comes first. -/
def draw : List StyledRange → StyledRange → List StyledRange
  | last :: earlier, piece =>
      if last.style = piece.style then
        ⟨⟨last.span.start, piece.span.stop⟩, last.style⟩ :: earlier
      else
        piece :: last :: earlier
  | [], piece => [piece]

def runs (segments : Segments bounds) : List StyledRange :=
  ((List.ofFn segments.piece).foldl draw []).reverse

end Segments

namespace StyledText

def bounds (styled : StyledText) : Array Nat :=
  (Ascending.ofList (0 :: styled.text.byteLength ::
    styled.ranges.flatMap fun range => [range.span.start, range.span.stop])).toArray

def segments (styled : StyledText) : Segments styled.bounds :=
  (styled.ranges.filter fun range => range.span.start < range.span.stop).foldl
    Segments.overlay .plain

def runs (styled : StyledText) : List StyledRange :=
  if styled.text.byteLength = 0 then [] else styled.segments.runs

example : (plain []).runs = [] := by decide

example : ((plain "abc".toList).withStyles
    [⟨⟨0, 2⟩, { italic := some true }⟩, ⟨⟨2, 3⟩, { italic := some true }⟩]).runs =
    [⟨⟨0, 3⟩, { italic := some true }⟩] := by cbv

example : ((plain "abcd".toList).withStyles
    [⟨⟨0, 3⟩, { italic := some true }⟩, ⟨⟨1, 4⟩, { italic := some false }⟩]).runs =
    [⟨⟨0, 1⟩, { italic := some true }⟩, ⟨⟨1, 4⟩, { italic := some false }⟩] := by
  cbv

end StyledText

end LiveEditor
