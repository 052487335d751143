import LiveEditor.Text.Basic

/-! # Places of a text

A place lies before a character of a text or behind the last one, so a text has
one place more than it has characters.  A place knows its offset and the
characters on its two sides, which is all that decides whether a word may begin
or end there.
-/

namespace LiveEditor

structure Place where
  offset : Nat
  before : Option Char
  after : Option Char
  deriving DecidableEq, Repr

namespace Text

def placesFrom (offset : Nat) (before : Option Char) : Text → List Place
  | [] => [⟨offset, before, none⟩]
  | character :: rest =>
      let after := some character
      ⟨offset, before, after⟩ :: placesFrom (offset + character.utf8Size) after rest

def places (text : Text) : List Place :=
  placesFrom 0 none text

example : places "é".toList = [⟨0, none, some 'é'⟩, ⟨2, some 'é', none⟩] := by decide

end Text

end LiveEditor
