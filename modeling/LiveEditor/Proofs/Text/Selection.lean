import LiveEditor.Proofs.Text.Boundary

/-! # Selections that fit a text

A selection fits a text when its ends are boundaries of the text in order.
Moving a selection onto a text makes it fit, whatever it was, and leaves one
alone that fits already.
-/

namespace LiveEditor

namespace Selection

structure Fits (selection : Selection) (text : Text) : Prop where
  ordered : selection.start ≤ selection.stop
  startsAtBoundary : text.isBoundary selection.start = true
  stopsAtBoundary : text.isBoundary selection.stop = true

theorem Fits.within {selection : Selection} {text : Text} (fits : selection.Fits text) :
    selection.stop ≤ text.byteLength :=
  Text.le_of_isBoundary fits.stopsAtBoundary

/-! ## Selections that are made -/

theorem ofEnds_of_le {one other : Nat} (ordered : one ≤ other) :
    ofEnds one other = ⟨one, other⟩ := by
  rw [ofEnds, Nat.min_eq_left ordered, Nat.max_eq_right ordered]

theorem fits_ofEnds {text : Text} {one other : Nat}
    (oneBoundary : text.isBoundary one = true)
    (otherBoundary : text.isBoundary other = true) :
    (ofEnds one other).Fits text := by
  rcases Nat.le_total one other with ordered | ordered
  · rw [ofEnds_of_le ordered]
    exact ⟨ordered, oneBoundary, otherBoundary⟩
  · rw [ofEnds, Nat.min_eq_right ordered, Nat.max_eq_left ordered]
    exact ⟨ordered, otherBoundary, oneBoundary⟩

theorem fits_ofSpan {text : Text} {span : Span} (fits : span.Fits text) :
    (ofSpan span).Fits text :=
  fits_ofEnds fits.startsAtBoundary fits.stopsAtBoundary

theorem fits_cursor {text : Text} {offset : Nat}
    (boundary : text.isBoundary offset = true) : (cursor offset).Fits text :=
  ⟨Nat.le_refl offset, boundary, boundary⟩

theorem fits_of_cut {text : Text} {selection : Selection} {pieces : Text.Pieces}
    (cut : text.cut selection.span = .ok pieces) : selection.Fits text := by
  have fits := Span.fits_of_cut cut
  exact ⟨fits.ordered, fits.startsAtBoundary, fits.stopsAtBoundary⟩

theorem fits_clampTo (selection : Selection) (text : Text) :
    (selection.clampTo text).Fits text :=
  fits_ofEnds (Text.isBoundary_floorBoundary text selection.start)
    (Text.isBoundary_floorBoundary text selection.stop)

theorem clampTo_of_fits {selection : Selection} {text : Text}
    (fits : selection.Fits text) : selection.clampTo text = selection := by
  rw [clampTo, Text.floorBoundary_of_isBoundary fits.startsAtBoundary,
    Text.floorBoundary_of_isBoundary fits.stopsAtBoundary, ofEnds_of_le fits.ordered]

end Selection

end LiveEditor
