import LiveEditor.Style.Color

/-! # Style attributes

A style sets some attributes and leaves the others open.  Laying one style over
another keeps what the upper one sets and lets the lower one show through
elsewhere; an attribute set to `false` is set.
-/

namespace LiveEditor

inductive FontWeight where
  | normal
  | semibold
  | bold
  deriving DecidableEq, Repr

def FontWeight.name : FontWeight → String
  | .normal => "normal"
  | .semibold => "semibold"
  | .bold => "bold"

structure Style where
  foreground : Option Color := none
  background : Option Color := none
  weight : Option FontWeight := none
  italic : Option Bool := none
  underline : Option Bool := none
  strikethrough : Option Bool := none
  deriving DecidableEq, Repr, Inhabited

namespace Style

def plain : Style := {}

def isPlain (style : Style) : Bool :=
  style == plain

def overlay (lower upper : Style) : Style where
  foreground := upper.foreground.or lower.foreground
  background := upper.background.or lower.background
  weight := upper.weight.or lower.weight
  italic := upper.italic.or lower.italic
  underline := upper.underline.or lower.underline
  strikethrough := upper.strikethrough.or lower.strikethrough

@[simp] theorem overlay_plain (style : Style) : style.overlay plain = style := by
  cases style; simp [overlay, plain]

@[simp] theorem plain_overlay (style : Style) : plain.overlay style = style := by
  cases style; simp [overlay, plain]

theorem overlay_assoc (lower middle upper : Style) :
    (lower.overlay middle).overlay upper =
      lower.overlay (middle.overlay upper) := by
  simp [overlay, Option.or_assoc]

theorem overlay_self (style : Style) : style.overlay style = style := by
  simp [overlay]

theorem overlay_overlay_self (lower upper : Style) :
    (lower.overlay upper).overlay upper = lower.overlay upper := by
  rw [overlay_assoc, overlay_self]

end Style

end LiveEditor
