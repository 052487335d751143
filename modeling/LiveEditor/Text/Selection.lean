import LiveEditor.Text.Basic

/-! # Selections

A selection is a pair of byte offsets; when the two are equal it is a cursor.
A selection that arrives from outside may be reversed or point anywhere, and
`clampTo` moves it onto the text.
-/

namespace LiveEditor

structure Selection where
  start : Nat
  stop : Nat
  deriving DecidableEq, Repr, Inhabited

namespace Selection

def ofEnds (one other : Nat) : Selection :=
  ⟨min one other, max one other⟩

def cursor (offset : Nat) : Selection :=
  ⟨offset, offset⟩

def ofSpan (span : Span) : Selection :=
  ofEnds span.start span.stop

def isCursor (selection : Selection) : Bool :=
  selection.start == selection.stop

def span (selection : Selection) : Span :=
  ⟨selection.start, selection.stop⟩

def clampTo (selection : Selection) (text : Text) : Selection :=
  ofEnds (text.floorBoundary selection.start) (text.floorBoundary selection.stop)

example : (Selection.mk 9 2).clampTo "aéb".toList = ⟨1, 4⟩ := by decide

end Selection

end LiveEditor
