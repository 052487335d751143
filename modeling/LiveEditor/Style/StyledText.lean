import LiveEditor.Text.Basic
import LiveEditor.Style.Attributes

/-! # Styled texts

A styled text carries style ranges in the order in which they were applied.
At an offset the ranges that cover it are laid over each other from the first
to the last, so a later range wins every attribute that it sets.  A range that
does not fit the text is dropped when it is added.
-/

namespace LiveEditor

structure StyledRange where
  span : Span
  style : Style
  deriving DecidableEq, Repr

def Span.within (length : Nat) (span : Span) : Bool :=
  span.start ≤ span.stop && span.stop ≤ length

theorem Span.within_iff {length : Nat} {span : Span} :
    span.within length = true ↔ span.start ≤ span.stop ∧ span.stop ≤ length := by
  simp [within]

structure StyledText where
  text : Text
  ranges : List StyledRange
  fits : ∀ range ∈ ranges, range.span.within text.byteLength = true
  deriving DecidableEq

namespace StyledText

def plain (text : Text) : StyledText where
  text := text
  ranges := []
  fits := by simp

def withStyles (base : StyledText) (layer : List StyledRange) : StyledText where
  text := base.text
  ranges :=
    let length := base.text.byteLength
    base.ranges ++ layer.filter fun range => range.span.within length
  fits := by
    intro range member
    rcases List.mem_append.1 member with member | member
    · exact base.fits range member
    · exact (List.mem_filter.1 member).2

def addStyle (base : StyledText) (range : StyledRange) : Bool × StyledText :=
  (range.span.within base.text.byteLength, base.withStyles [range])

def isEmpty (styled : StyledText) : Bool :=
  styled.text.isEmpty && styled.ranges.isEmpty

def styleAt (styled : StyledText) (offset : Nat) : Style :=
  (styled.ranges.filter fun range => range.span.contains offset).foldl
    (fun lower range => lower.overlay range.style) .plain

end StyledText

end LiveEditor
