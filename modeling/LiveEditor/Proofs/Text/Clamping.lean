import LiveEditor.Proofs.Text.Selection
import Mathlib.Order.Bounds.Basic
import Mathlib.Order.MinMax

/-! # Moving a selection onto a text

An end of a selection may point anywhere.  It comes in from behind the text and then goes
back, one byte a turn, until it stands at a boundary.  The start of a text is a boundary,
so no way back goes below it, and the boundary that it ends at is the greatest one that
is not above the offset.  That boundary grows with the offset, so it does not matter that
the ends are put in order only after they have been moved.
-/

namespace LiveEditor

namespace Text

/-! ## The greatest boundary below an offset -/

theorem isGreatest_floorBoundary (text : Text) (offset : Nat) :
    IsGreatest {boundary | text.isBoundary boundary = true ∧ boundary ≤ offset}
      (text.floorBoundary offset) := by
  constructor
  · exact ⟨isBoundary_floorBoundary text offset, floorBoundary_le text offset⟩
  · intro boundary member
    exact le_floorBoundary member.1 member.2

theorem monotone_floorBoundary (text : Text) : Monotone text.floorBoundary := by
  intro offset further ordered
  apply le_floorBoundary (isBoundary_floorBoundary text offset)
  exact (floorBoundary_le text offset).trans ordered

theorem floorBoundary_min_byteLength (text : Text) (offset : Nat) :
    text.floorBoundary (min offset text.byteLength) = text.floorBoundary offset := by
  have within := le_of_isBoundary (isBoundary_floorBoundary text offset)
  rw [(monotone_floorBoundary text).map_min,
    floorBoundary_of_isBoundary (isBoundary_byteLength text), Nat.min_eq_left within]

theorem floorBoundary_succ {text : Text} {offset : Nat}
    (inside : text.isBoundary (offset + 1) = false) :
    text.floorBoundary (offset + 1) = text.floorBoundary offset := by
  apply Nat.le_antisymm
  · have boundary := isBoundary_floorBoundary text (offset + 1)
    have different : text.floorBoundary (offset + 1) ≠ offset + 1 := by
      intro equal
      rw [equal, inside] at boundary
      cases boundary
    have below := floorBoundary_le text (offset + 1)
    exact le_floorBoundary boundary (by omega)
  · exact monotone_floorBoundary text (Nat.le_succ offset)

/-- Inside a text a boundary is never far, as no character has more than four bytes. -/
theorem min_byteLength_le_floorBoundary_add (text : Text) (offset : Nat) :
    min offset text.byteLength ≤ text.floorBoundary offset + 3 := by
  rcases floorBoundaryFrom_spec 0 text offset with ⟨before, after, whole, floor, _, least⟩
  rw [floorBoundary, floor, Nat.zero_add, whole]
  cases after with
  | nil =>
      rw [List.append_nil]
      omega
  | cons next after =>
      have above := least next (by simp)
      have size := next.utf8Size_le_four
      omega

/-! ## Going back byte by byte -/

/-- The way back from an offset takes so many turns.  It arrives at a boundary, and nowhere
if it comes to an offset that is no boundary and has no byte before it.  No turn leads to
a greater offset, so words of any width that hold the offset hold all of the way. -/
inductive GoesBack (text : Text) : (offset turns : Nat) → (arrival : Option Nat) → Prop
  | arrives {offset : Nat} (boundary : text.isBoundary offset = true) :
      GoesBack text offset 0 (some offset)
  | underflows (inside : text.isBoundary 0 = false) : GoesBack text 0 0 none
  | turns {offset turns : Nat} {arrival : Option Nat}
      (inside : text.isBoundary (offset + 1) = false)
      (goesBack : GoesBack text offset turns arrival) :
      GoesBack text (offset + 1) (turns + 1) arrival

theorem goesBack_floorBoundary (text : Text) (offset : Nat) :
    text.GoesBack offset (offset - text.floorBoundary offset)
      (some (text.floorBoundary offset)) := by
  induction offset with
  | zero =>
      rw [floorBoundary_of_isBoundary (isBoundary_zero text)]
      exact .arrives (isBoundary_zero text)
  | succ offset hypothesis =>
      cases boundary : text.isBoundary (offset + 1) with
      | true =>
          rw [floorBoundary_of_isBoundary boundary, Nat.sub_self]
          exact .arrives boundary
      | false =>
          rw [floorBoundary_succ boundary, Nat.succ_sub (floorBoundary_le text offset)]
          exact .turns boundary hypothesis

theorem goesBack_iff {text : Text} {offset turns : Nat} {arrival : Option Nat} :
    text.GoesBack offset turns arrival ↔
      turns = offset - text.floorBoundary offset ∧
        arrival = some (text.floorBoundary offset) := by
  constructor
  · intro goesBack
    induction goesBack with
    | arrives boundary =>
        rw [floorBoundary_of_isBoundary boundary, Nat.sub_self]
        exact ⟨rfl, rfl⟩
    | underflows inside =>
        rw [isBoundary_zero] at inside
        cases inside
    | @turns offset turns arrival inside goesBack hypothesis =>
        rcases hypothesis with ⟨rfl, rfl⟩
        rw [floorBoundary_succ inside, Nat.succ_sub (floorBoundary_le text offset)]
        exact ⟨rfl, rfl⟩
  · intro equal
    rcases equal with ⟨rfl, rfl⟩
    exact goesBack_floorBoundary text offset

/-- From inside the text there are at most three turns. -/
theorem exists_goesBack_min_iff (text : Text) (offset : Nat) :
    ∃ needed ≤ 3, ∀ turns arrival,
      text.GoesBack (min offset text.byteLength) turns arrival ↔
        turns = needed ∧ arrival = some (text.floorBoundary offset) := by
  have near := min_byteLength_le_floorBoundary_add text offset
  refine ⟨min offset text.byteLength - text.floorBoundary offset, by omega, ?_⟩
  intro turns arrival
  rw [goesBack_iff, floorBoundary_min_byteLength]

end Text

namespace Selection

/-! ## Both ends of a selection -/

/-- Both ends come in from behind the text and go back from there; where both arrive,
they are put in order. -/
inductive MovesOnto (text : Text) (selection : Selection) :
    (turns : Nat) → (moved : Option Selection) → Prop
  | ends {startTurns stopTurns : Nat} {start stop : Option Nat}
      (startGoesBack :
        text.GoesBack (min selection.start text.byteLength) startTurns start)
      (stopGoesBack : text.GoesBack (min selection.stop text.byteLength) stopTurns stop) :
      MovesOnto text selection (startTurns + stopTurns)
        (start.bind fun one => stop.map fun other => ofEnds one other)

theorem exists_movesOnto_iff (selection : Selection) (text : Text) :
    ∃ needed ≤ 6, ∀ turns moved, selection.MovesOnto text turns moved ↔
      turns = needed ∧ moved = some (selection.clampTo text) := by
  rcases Text.exists_goesBack_min_iff text selection.start with
    ⟨startTurns, startFew, startGoesBack⟩
  rcases Text.exists_goesBack_min_iff text selection.stop with
    ⟨stopTurns, stopFew, stopGoesBack⟩
  refine ⟨startTurns + stopTurns, Nat.add_le_add startFew stopFew, ?_⟩
  intro turns moved
  constructor
  · intro moves
    cases moves with
    | ends start stop =>
        rcases (startGoesBack _ _).1 start with ⟨rfl, rfl⟩
        rcases (stopGoesBack _ _).1 stop with ⟨rfl, rfl⟩
        exact ⟨rfl, rfl⟩
  · intro equal
    rcases equal with ⟨rfl, rfl⟩
    exact .ends ((startGoesBack _ _).2 ⟨rfl, rfl⟩) ((stopGoesBack _ _).2 ⟨rfl, rfl⟩)

/-- The ends may be put in order before they are moved as well as after. -/
theorem clampTo_eq (selection : Selection) (text : Text) :
    selection.clampTo text =
      ⟨text.floorBoundary (min selection.start selection.stop),
        text.floorBoundary (max selection.start selection.stop)⟩ := by
  have monotone := text.monotone_floorBoundary
  rw [clampTo, ofEnds, monotone.map_min, monotone.map_max]

/-- Going back byte by byte with both ends of any selection takes at most six turns, never
comes below the start of the text, and yields what `clampTo` yields.  The ends of that are
boundaries in order, namely the greatest ones that are not above the smaller and the larger
of the given offsets, whichever of them came first.  So exactly the selections that fit
stay as they are, moving twice is moving once, and ends further on do not come to stand
before those of the selection. -/
theorem clampTo_characterized (selection : Selection) (text : Text) :
    let clamped := selection.clampTo text
    (∃ needed ≤ 6, ∀ turns moved, selection.MovesOnto text turns moved ↔
      turns = needed ∧ moved = some clamped) ∧
    (clamped.start ≤ clamped.stop ∧ clamped.stop ≤ text.byteLength ∧
      text.isBoundary clamped.start = true ∧ text.isBoundary clamped.stop = true) ∧
    IsGreatest {boundary | text.isBoundary boundary = true ∧
      boundary ≤ min selection.start selection.stop} clamped.start ∧
    IsGreatest {boundary | text.isBoundary boundary = true ∧
      boundary ≤ max selection.start selection.stop} clamped.stop ∧
    (clamped = selection ↔ selection.Fits text) ∧
    clamped.clampTo text = clamped ∧
    ∀ further : Selection, selection.start ≤ further.start →
      selection.stop ≤ further.stop →
      clamped.start ≤ (further.clampTo text).start ∧
        clamped.stop ≤ (further.clampTo text).stop := by
  intro clamped
  have fits : clamped.Fits text := fits_clampTo selection text
  have ends : clamped = ⟨_, _⟩ := clampTo_eq selection text
  refine ⟨exists_movesOnto_iff selection text,
    ⟨fits.ordered, fits.within, fits.startsAtBoundary, fits.stopsAtBoundary⟩,
    ?_, ?_, ⟨?_, clampTo_of_fits⟩, clampTo_of_fits fits, ?_⟩
  · rw [ends]
    exact text.isGreatest_floorBoundary (min selection.start selection.stop)
  · rw [ends]
    exact text.isGreatest_floorBoundary (max selection.start selection.stop)
  · intro same
    rwa [same] at fits
  · intro further startOrdered stopOrdered
    rw [ends, clampTo_eq]
    constructor
    · exact text.monotone_floorBoundary (min_le_min startOrdered stopOrdered)
    · exact text.monotone_floorBoundary (max_le_max startOrdered stopOrdered)

/-- The ends come the wrong way round, one of them as far behind the text as a word of
64 bits reaches and the other inside a character of three bytes; one byte further on it
is behind that character. -/
theorem clampTo_characterized_reversed :
    let text : Text := "n€b".toList
    let selection : Selection := ⟨0xFFFFFFFFFFFFFFFF, 3⟩
    let further : Selection := ⟨0xFFFFFFFFFFFFFFFF, 4⟩
    selection.clampTo text = ⟨1, 5⟩ ∧ further.clampTo text = ⟨4, 5⟩ ∧
      (selection.start ≤ further.start ∧ selection.stop ≤ further.stop) ∧
      (selection.clampTo text).start ≤ (further.clampTo text).start ∧
      (selection.clampTo text).stop ≤ (further.clampTo text).stop := by
  intro text selection further
  have ordered : selection.start ≤ further.start ∧ selection.stop ≤ further.stop := by
    decide
  rcases clampTo_characterized selection text with ⟨_, _, _, _, _, _, monotone⟩
  exact ⟨by decide, by decide, ordered, monotone further ordered.1 ordered.2⟩

end Selection

end LiveEditor
