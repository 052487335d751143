/-! # Texts and byte offsets

A text is a list of characters.  Everything that points into a text, such as a
selection, a style range or a search result, counts the bytes of its UTF-8
form, so that one character takes one to four units.  An offset between two
characters is a *boundary*; `splitAt?` is the one operation that turns an
offset into a place between characters, and slicing and replacing are built
from it.
-/

namespace LiveEditor

abbrev Text := List Char

structure Span where
  start : Nat
  stop : Nat
  deriving DecidableEq, Repr, Inhabited

namespace Span

def contains (span : Span) (offset : Nat) : Bool :=
  span.start ≤ offset && offset < span.stop

theorem contains_iff {span : Span} {offset : Nat} :
    span.contains offset = true ↔ span.start ≤ offset ∧ offset < span.stop := by
  simp [contains]

def shift (span : Span) (distance : Nat) : Span :=
  ⟨span.start + distance, span.stop + distance⟩

end Span

inductive RangeError where
  | outOfBounds (span : Span) (length : Nat)
  | notOnBoundary (offset : Nat)
  deriving DecidableEq, Repr

def RangeError.message : RangeError → String
  | .outOfBounds span length =>
      s!"Range {span.start}..{span.stop} is out of bounds for text of length {length}"
  | .notOnBoundary offset => s!"Offset {offset} is not on a character boundary"

namespace Text

/-! ## Length and boundaries -/

def byteLength : Text → Nat
  | [] => 0
  | character :: rest => character.utf8Size + byteLength rest

@[simp] theorem byteLength_nil : byteLength [] = 0 := rfl

@[simp] theorem byteLength_cons (character : Char) (rest : Text) :
    byteLength (character :: rest) = character.utf8Size + byteLength rest := rfl

@[simp] theorem byteLength_append (before after : Text) :
    byteLength (before ++ after) = byteLength before + byteLength after := by
  induction before with
  | nil => simp
  | cons character rest hypothesis => simp [hypothesis, Nat.add_assoc]

def splitFrom? (passed : Text) : Text → Nat → Option (Text × Text)
  | text, 0 => some (passed.reverse, text)
  | [], _ + 1 => none
  | character :: rest, offset + 1 =>
      if character.utf8Size ≤ offset + 1 then
        splitFrom? (character :: passed) rest (offset + 1 - character.utf8Size)
      else
        none

def splitAt? (text : Text) (offset : Nat) : Option (Text × Text) :=
  splitFrom? [] text offset

example : splitAt? "aé".toList 1 = some (['a'], ['é']) := by decide
example : splitAt? "aé".toList 2 = none := by decide
example : splitAt? "aé".toList 3 = some (['a', 'é'], []) := by decide

theorem splitFrom?_eq_some_iff (passed text before after : Text) (offset : Nat) :
    splitFrom? passed text offset = some (before, after) ↔
      ∃ piece, before = passed.reverse ++ piece ∧ text = piece ++ after ∧
        byteLength piece = offset := by
  have empty : ∀ piece : Text, byteLength piece = 0 ↔ piece = [] := by
    intro piece
    cases piece with
    | nil => simp
    | cons first more =>
        have positive := first.utf8Size_pos
        simp only [byteLength_cons, reduceCtorEq, iff_false]
        omega
  induction text generalizing passed offset with
  | nil =>
      cases offset with
      | zero => simp [splitFrom?, empty, eq_comm]
      | succ offset => simp +contextual [splitFrom?]
  | cons character rest hypothesis =>
      have positive := character.utf8Size_pos
      cases offset with
      | zero => simp [splitFrom?, empty, eq_comm]
      | succ offset =>
          have longer : ∀ piece, character :: rest = piece ++ after →
              byteLength piece = offset + 1 →
              ∃ more, piece = character :: more ∧ rest = more ++ after := by
            intro piece whole length
            cases piece with
            | nil => simp at length
            | cons first more => simp_all
          by_cases fits : character.utf8Size ≤ offset + 1
          · rw [splitFrom?, if_pos fits]
            refine (hypothesis _ _).trans ?_
            constructor
            · rintro ⟨more, rfl, rfl, length⟩
              refine ⟨character :: more, by simp, rfl, ?_⟩
              simp [length]; omega
            · rintro ⟨piece, rfl, whole, length⟩
              obtain ⟨more, rfl, rfl⟩ := longer piece whole length
              refine ⟨more, by simp, rfl, ?_⟩
              simp only [byteLength_cons] at length
              omega
          · rw [splitFrom?, if_neg fits]
            simp only [reduceCtorEq, false_iff, not_exists, not_and]
            intro piece _ whole length
            obtain ⟨more, rfl, rfl⟩ := longer piece whole length
            simp only [byteLength_cons] at length
            omega

/-- Splitting finds exactly the decomposition whose first part has the given
length. -/
theorem splitAt?_eq_some_iff (text before after : Text) (offset : Nat) :
    splitAt? text offset = some (before, after) ↔
      text = before ++ after ∧ byteLength before = offset := by
  simp [splitAt?, splitFrom?_eq_some_iff]

def isBoundary (text : Text) (offset : Nat) : Bool :=
  (splitAt? text offset).isSome

/-- The greatest boundary that is not above an offset, in a text that begins at
`position`. -/
def floorBoundaryFrom (position : Nat) : Text → (offset : Nat) → Nat
  | [], _ => position
  | character :: rest, offset =>
      let next := position + character.utf8Size
      if next ≤ offset then floorBoundaryFrom next rest offset else position

def floorBoundary (text : Text) (offset : Nat) : Nat :=
  floorBoundaryFrom 0 text offset

example : floorBoundary "aé".toList 2 = 1 := by decide
example : floorBoundary "aé".toList (2 ^ 64 - 1) = 3 := by decide

/-! ## Slicing and replacing -/

structure Pieces where
  before : Text
  covered : Text
  after : Text
  deriving DecidableEq, Repr

/-- Take a text apart around a span.  Bounds are checked before boundaries, and
the start before the stop. -/
def cut (text : Text) (span : Span) : Except RangeError Pieces :=
  if span.start ≤ span.stop ∧ span.stop ≤ text.byteLength then
    match text.splitAt? span.start with
    | none => .error (.notOnBoundary span.start)
    | some (before, rest) =>
        match rest.splitAt? (span.stop - span.start) with
        | none => .error (.notOnBoundary span.stop)
        | some (covered, after) => .ok ⟨before, covered, after⟩
  else
    .error (.outOfBounds span text.byteLength)

def slice (text : Text) (span : Span) : Except RangeError Text :=
  (text.cut span).map Pieces.covered

def replace (text : Text) (span : Span) (replacement : Text) :
    Except RangeError Text :=
  (text.cut span).map fun pieces =>
    pieces.before ++ replacement ++ pieces.after

end Text

end LiveEditor
