import LiveEditor.Proofs.Style.Runs
import LiveEditor.Proofs.Text.Boundary

/-! # Ranges that fit their text

A text keeps all ranges whose ends are boundaries in order.  Styles then change
at boundaries only, so the runs of such a text fit it as well.
-/

namespace LiveEditor

theorem Span.Fits.within {span : Span} {text : Text} (fits : span.Fits text) :
    span.within text.byteLength = true :=
  Span.within_iff.2 ⟨fits.ordered, fits.stop_le⟩

def Text.Accepts (text : Text) (ranges : List StyledRange) : Prop :=
  ∀ range ∈ ranges, range.span.Fits text

theorem Text.Accepts.append {text : Text} {lower upper : List StyledRange}
    (lowerFits : text.Accepts lower) (upperFits : text.Accepts upper) :
    text.Accepts (lower ++ upper) :=
  List.forall_mem_append.2 ⟨lowerFits, upperFits⟩

/-! ## Where runs end -/

/-- Runs end at the ends of the whole stretch and where the style changes. -/
theorem MaximalRuns.ends {style : Nat → Style} {start stop : Nat}
    {runs : List StyledRange} (maximal : MaximalRuns style start stop runs)
    (isEnd : Nat → Prop) (first : isEnd start) (last : isEnd stop)
    (constant : ∀ offset, ¬ isEnd (offset + 1) → style offset = style (offset + 1)) :
    ∀ run ∈ runs, isEnd run.span.start ∧ isEnd run.span.stop := by
  induction runs generalizing start with
  | nil => simp
  | cons run rest induction =>
      rcases maximal.tiles with ⟨begins, nonempty, restTiles⟩
      have ends : isEnd run.span.stop := by
        cases rest with
        | nil =>
            have whole : run.span.stop = stop := restTiles
            rwa [whole]
        | cons next more =>
            -- Were it no end, the two neighbours would have one style.
            by_contra inside
            have before : run.span.stop - 1 + 1 = run.span.stop := by omega
            have same := constant (run.span.stop - 1) (by rwa [before])
            have lastStyle := maximal.shows run List.mem_cons_self (run.span.stop - 1)
              (Span.contains_iff.2 (by omega))
            rw [before, lastStyle, maximal.tail.style_start] at same
            exact maximal.distinct.rel same
      intro other member
      rcases List.mem_cons.1 member with rfl | member
      · exact ⟨by rwa [begins], ends⟩
      · exact induction maximal.tail ends other member

namespace StyledText

theorem ranges_withStyles {base : StyledText} {layer : List StyledRange}
    (accepted : base.text.Accepts layer) :
    (base.withStyles layer).ranges = base.ranges ++ layer := by
  have kept : layer.filter (fun range => range.span.within base.text.byteLength) = layer :=
    List.filter_eq_self.2 fun range member => (accepted range member).within
  change base.ranges ++ _ = _
  rw [kept]

/-- Inside a character no range begins or ends. -/
theorem styleAt_succ {styled : StyledText} (accepted : styled.text.Accepts styled.ranges)
    {offset : Nat} (inside : ¬ styled.text.isBoundary (offset + 1) = true) :
    styled.styleAt offset = styled.styleAt (offset + 1) := by
  rw [styleAt, styleAt]
  congr 1
  refine List.filter_congr fun range member => ?_
  have fits := accepted range member
  have start : range.span.start ≠ offset + 1 := fun equal =>
    inside (equal ▸ fits.startsAtBoundary)
  have stop : range.span.stop ≠ offset + 1 := fun equal =>
    inside (equal ▸ fits.stopsAtBoundary)
  rw [Bool.eq_iff_iff, Span.contains_iff, Span.contains_iff]
  omega

theorem accepts_runs {styled : StyledText}
    (accepted : styled.text.Accepts styled.ranges) : styled.text.Accepts styled.runs := by
  have maximal := styled.maximalRuns_runs
  have ends := maximal.ends (fun offset => styled.text.isBoundary offset = true)
    styled.text.isBoundary_zero styled.text.isBoundary_byteLength
    fun _ => styleAt_succ accepted
  intro run member
  have ordered := Nat.le_of_lt (maximal.tiles.nonempty_of_mem run member)
  exact ⟨ordered, (ends run member).1, (ends run member).2⟩

end StyledText

end LiveEditor
