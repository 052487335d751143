import LiveEditor.Style.StyledText

/-! # Stacks of layers

Laying styles over each other is associative, so a list of ranges acts on a styled
text as one layer, however it was put together.  Its ranges may be applied at once,
in several lists or one by one, and at every offset a list shows over what lies below
it what it shows on a plain text.
-/

namespace LiveEditor.StyledText

/-! ## Applying ranges in parts -/

theorem withStyles_nil (base : StyledText) : base.withStyles [] = base := by
  simp [withStyles]

theorem withStyles_append (base : StyledText) (lower upper : List StyledRange) :
    base.withStyles (lower ++ upper) = (base.withStyles lower).withStyles upper := by
  simp [withStyles]

theorem foldl_withStyles (base : StyledText) (layers : List (List StyledRange)) :
    layers.foldl withStyles base = base.withStyles layers.flatten := by
  induction layers generalizing base with
  | nil => exact (withStyles_nil base).symm
  | cons layer rest induction =>
      rw [List.foldl_cons, induction, List.flatten_cons, withStyles_append]

theorem foldl_addStyle (base : StyledText) (ranges : List StyledRange) :
    ranges.foldl (fun styled range => (styled.addStyle range).2) base =
      base.withStyles ranges := by
  have singly := base.foldl_withStyles (ranges.map fun range => [range])
  rw [List.foldl_map, ← List.flatMap_def, List.flatMap_singleton'] at singly
  exact singly

/-! ## The style of a layer -/

/-- What lies below a row of ranges comes in below all of them. -/
theorem foldl_overlay (base : Style) (ranges : List StyledRange) :
    ranges.foldl (fun lower range => lower.overlay range.style) base =
      base.overlay
        (ranges.foldl (fun lower range => lower.overlay range.style) .plain) := by
  induction ranges generalizing base with
  | nil => exact (base.overlay_plain).symm
  | cons range rest induction =>
      rw [List.foldl_cons, List.foldl_cons, induction, induction (Style.plain.overlay _),
        Style.plain_overlay, Style.overlay_assoc]

theorem styleAt_withStyles (base : StyledText) (layer : List StyledRange) (offset : Nat) :
    (base.withStyles layer).styleAt offset =
      (base.styleAt offset).overlay (((plain base.text).withStyles layer).styleAt offset) := by
  simp only [styleAt, withStyles, plain, List.nil_append]
  rw [List.filter_append, List.foldl_append, foldl_overlay]

theorem styleAt_foldl_withStyles (base : StyledText) (layers : List (List StyledRange))
    (offset : Nat) :
    (layers.foldl withStyles base).styleAt offset =
      layers.foldl (fun lower layer =>
        lower.overlay (((plain base.text).withStyles layer).styleAt offset))
        (base.styleAt offset) := by
  induction layers generalizing base with
  | nil => rfl
  | cons layer rest induction =>
      rw [List.foldl_cons, List.foldl_cons, induction (base.withStyles layer),
        styleAt_withStyles]
      rfl

/-- Overlaying is associative, has the plain style as its identity and adds nothing to
itself.  So two lists of ranges may be applied at once or one after the other, and at
every offset each shows over the one before it what it shows on a plain text; ranges
that do not fit the text make no difference.  The same holds of any number of lists,
down to one for each range. -/
theorem layers_compose :
    (∀ lower middle upper : Style,
      (lower.overlay middle).overlay upper = lower.overlay (middle.overlay upper)) ∧
    (∀ style : Style, style.overlay .plain = style ∧ Style.plain.overlay style = style ∧
      style.overlay style = style) ∧
    ∀ base : StyledText,
      (∀ lower upper : List StyledRange,
        base.withStyles (lower ++ upper) = (base.withStyles lower).withStyles upper ∧
        ∀ offset, (base.withStyles (lower ++ upper)).styleAt offset =
          ((base.styleAt offset).overlay
            (((plain base.text).withStyles lower).styleAt offset)).overlay
            (((plain base.text).withStyles upper).styleAt offset)) ∧
      (∀ layers : List (List StyledRange),
        layers.foldl withStyles base = base.withStyles layers.flatten ∧
        ∀ offset, (layers.foldl withStyles base).styleAt offset =
          layers.foldl (fun below layer =>
            below.overlay (((plain base.text).withStyles layer).styleAt offset))
            (base.styleAt offset)) ∧
      ∀ ranges : List StyledRange,
        ranges.foldl (fun styled range => (styled.addStyle range).2) base =
          base.withStyles ranges := by
  refine ⟨Style.overlay_assoc,
    fun style => ⟨style.overlay_plain, style.plain_overlay, style.overlay_self⟩,
    fun base => ⟨fun lower upper => ⟨base.withStyles_append lower upper, fun offset => ?_⟩,
      fun layers => ⟨base.foldl_withStyles layers, base.styleAt_foldl_withStyles layers⟩,
      base.foldl_addStyle⟩⟩
  rw [withStyles_append, styleAt_withStyles, styleAt_withStyles base]
  rfl

/-- Of two ranges in one list and one in another, a reversed one is dropped and an attribute
that the upper list leaves open shows through. -/
example :
    let base := plain "aé".toList
    let lower : List StyledRange :=
      [⟨⟨0, 3⟩, { italic := some true }⟩, ⟨⟨2, 1⟩, { underline := some true }⟩]
    let upper : List StyledRange := [⟨⟨1, 3⟩, { weight := some .bold }⟩]
    (base.withStyles (lower ++ upper)).styleAt 1 =
      { weight := some .bold, italic := some true } := by
  decide

end LiveEditor.StyledText
