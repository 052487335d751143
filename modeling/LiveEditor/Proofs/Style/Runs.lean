import LiveEditor.Style.Runs
import Mathlib.Data.List.Chain
import Mathlib.Tactic.ByContra

/-! # Runs are maximal

A function from offsets to styles cuts a stretch of offsets into runs in
exactly one way, when the runs have to tile the stretch, show one style each
and differ from their neighbours.  The runs of a styled text are this cut of
its styles: each segment has the style of its first offset, which is that of all its
offsets since no range ends within it, and drawing a segment keeps what is drawn
maximal.  The runs depend on nothing else: not on the ranges that make the styles,
nor on their order.
-/

namespace LiveEditor

/-! ## Tilings -/

/-- Runs tile the offsets from `start` to `stop`: none is empty, and each
begins where the one before it ends. -/
def Tiles (start stop : Nat) : List StyledRange → Prop
  | [] => start = stop
  | run :: rest =>
      run.span.start = start ∧ start < run.span.stop ∧
        Tiles run.span.stop stop rest

theorem Tiles.le {start stop : Nat} {runs : List StyledRange}
    (tiles : Tiles start stop runs) : start ≤ stop := by
  induction runs generalizing start with
  | nil => exact Nat.le_of_eq tiles
  | cons run rest hypothesis =>
      rcases tiles with ⟨_, nonempty, restTiles⟩
      have further := hypothesis restTiles
      omega

theorem Tiles.exists_mem_contains {start stop offset : Nat}
    {runs : List StyledRange} (tiles : Tiles start stop runs)
    (behind : start ≤ offset) (ahead : offset < stop) :
    ∃ run ∈ runs, run.span.contains offset = true := by
  induction runs generalizing start with
  | nil => exact absurd ahead (tiles ▸ Nat.not_lt.2 behind)
  | cons run rest hypothesis =>
      rcases tiles with ⟨begins, _, restTiles⟩
      by_cases here : offset < run.span.stop
      · exact ⟨run, List.mem_cons_self, by simp [Span.contains, begins, behind, here]⟩
      · rcases hypothesis restTiles (Nat.not_lt.1 here) with ⟨other, member, inside⟩
        exact ⟨other, List.mem_cons_of_mem run member, inside⟩

theorem Tiles.stop_le_of_mem {start stop : Nat} {runs : List StyledRange}
    (tiles : Tiles start stop runs) :
    ∀ run ∈ runs, start ≤ run.span.start ∧ run.span.stop ≤ stop := by
  induction runs generalizing start with
  | nil => simp
  | cons first rest hypothesis =>
      rcases tiles with ⟨begins, nonempty, restTiles⟩
      intro run member
      rcases List.mem_cons.1 member with rfl | member
      · exact ⟨Nat.le_of_eq begins.symm, restTiles.le⟩
      · have inside := hypothesis restTiles run member
        omega

theorem Tiles.nonempty_of_mem {start stop : Nat} {runs : List StyledRange}
    (tiles : Tiles start stop runs) : ∀ run ∈ runs, run.span.start < run.span.stop := by
  induction runs generalizing start with
  | nil => simp
  | cons first rest hypothesis =>
      rcases tiles with ⟨begins, nonempty, restTiles⟩
      exact List.forall_mem_cons.2 ⟨begins ▸ nonempty, hypothesis restTiles⟩

/-- An offset lies in one run of a tiling only. -/
theorem Tiles.filter_contains {start stop offset : Nat} {runs : List StyledRange}
    (tiles : Tiles start stop runs) {run : StyledRange} (member : run ∈ runs)
    (inside : run.span.contains offset = true) :
    (runs.filter fun other => other.span.contains offset) = [run] := by
  rw [Span.contains_iff] at inside
  induction runs generalizing start with
  | nil => cases member
  | cons first rest hypothesis =>
      rcases tiles with ⟨begins, nonempty, restTiles⟩
      have later := restTiles.stop_le_of_mem
      rcases List.mem_cons.1 member with rfl | member
      · have outside : ∀ other ∈ rest, ¬ other.span.contains offset = true := by
          intro other otherMember
          have behind := (later other otherMember).1
          rw [Span.contains_iff]
          omega
        rw [List.filter_cons_of_pos (by simp [Span.contains, inside]),
          List.filter_eq_nil_iff.2 outside]
      · have behind := (later run member).1
        have outside : ¬ first.span.contains offset = true := by
          rw [Span.contains_iff]
          omega
        rw [List.filter_cons, if_neg outside]
        exact hypothesis restTiles member

/-! ## Maximal runs -/

def Shows (style : Nat → Style) (runs : List StyledRange) : Prop :=
  ∀ run ∈ runs, ∀ offset, run.span.contains offset = true →
    style offset = run.style

/-- Runs cut the offsets from `start` to `stop` into the longest pieces on which
a style is constant. -/
structure MaximalRuns (style : Nat → Style) (start stop : Nat)
    (runs : List StyledRange) : Prop where
  tiles : Tiles start stop runs
  shows : Shows style runs
  distinct : runs.IsChain fun run next => run.style ≠ next.style

namespace MaximalRuns

variable {style : Nat → Style} {start stop : Nat}

theorem tail {run : StyledRange} {rest : List StyledRange}
    (runs : MaximalRuns style start stop (run :: rest)) :
    MaximalRuns style run.span.stop stop rest where
  tiles := runs.tiles.2.2
  shows := fun other member => runs.shows other (List.mem_cons_of_mem run member)
  distinct := runs.distinct.tail

theorem singleton {run : StyledRange} (begins : run.span.start = start)
    (nonempty : start < run.span.stop)
    (shows : ∀ offset, run.span.contains offset = true → style offset = run.style) :
    MaximalRuns style start run.span.stop [run] where
  tiles := ⟨begins, nonempty, rfl⟩
  shows := List.forall_mem_singleton.2 shows
  distinct := .singleton run

/-- Let the only run end later. -/
theorem prolong {run : StyledRange} (runs : MaximalRuns style start stop [run])
    {limit : Nat} (further : stop ≤ limit)
    (constant : ∀ offset, stop ≤ offset → offset < limit →
      style offset = run.style) :
    MaximalRuns style start limit [⟨⟨run.span.start, limit⟩, run.style⟩] := by
  rcases runs.tiles with ⟨begins, nonempty, ends⟩
  have ends : run.span.stop = stop := ends
  have longer : start < limit := by omega
  refine @singleton style start ⟨⟨run.span.start, limit⟩, run.style⟩ begins longer ?_
  intro offset inside
  have inside : run.span.start ≤ offset ∧ offset < limit := Span.contains_iff.1 inside
  by_cases added : stop ≤ offset
  · exact constant offset added inside.2
  · exact runs.shows run List.mem_cons_self offset (Span.contains_iff.2 (by omega))

theorem congr {other : Nat → Style} {runs : List StyledRange}
    (maximal : MaximalRuns style start stop runs)
    (agree : ∀ offset, start ≤ offset → offset < stop →
      style offset = other offset) :
    MaximalRuns other start stop runs where
  tiles := maximal.tiles
  shows := by
    intro run member offset inside
    have bounds := maximal.tiles.stop_le_of_mem run member
    have shown := maximal.shows run member offset inside
    rw [Span.contains_iff] at inside
    rw [← agree offset (by omega) (by omega), shown]
  distinct := maximal.distinct

theorem style_start {run : StyledRange} {rest : List StyledRange}
    (runs : MaximalRuns style start stop (run :: rest)) :
    style start = run.style := by
  rcases runs.tiles with ⟨begins, nonempty, _⟩
  exact runs.shows run List.mem_cons_self start
    (by simp [Span.contains, begins, nonempty])

/-- The first run reaches as far as its style does. -/
theorem stop_le_of_constant {run : StyledRange} {rest : List StyledRange}
    (runs : MaximalRuns style start stop (run :: rest)) {limit : Nat}
    (within : limit ≤ stop)
    (constant : ∀ offset, start ≤ offset → offset < limit →
      style offset = run.style) :
    limit ≤ run.span.stop := by
  cases rest with
  | nil =>
      have ends : run.span.stop = stop := runs.tiles.2.2
      omega
  | cons next rest =>
      have different : run.style ≠ next.style := runs.distinct.rel
      have nextStyle : style run.span.stop = next.style := runs.tail.style_start
      have nonempty := runs.tiles.2.1
      by_contra longer
      apply different
      rw [← nextStyle, constant run.span.stop (by omega) (by omega)]

/-- Of two cuts of a stretch none begins with the longer run. -/
theorem stop_le_stop {leftRun rightRun : StyledRange}
    {leftRest rightRest : List StyledRange}
    (leftRuns : MaximalRuns style start stop (leftRun :: leftRest))
    (rightRuns : MaximalRuns style start stop (rightRun :: rightRest)) :
    leftRun.span.stop ≤ rightRun.span.stop := by
  apply rightRuns.stop_le_of_constant leftRuns.tail.tiles.le
  intro offset behind ahead
  have sameStyle : leftRun.style = rightRun.style :=
    leftRuns.style_start.symm.trans rightRuns.style_start
  rw [← sameStyle]
  exact leftRuns.shows leftRun List.mem_cons_self offset
    (by simp [Span.contains, leftRuns.tiles.1, behind, ahead])

/-- There is only one way to cut a stretch into maximal runs. -/
theorem unique {left right : List StyledRange}
    (leftRuns : MaximalRuns style start stop left)
    (rightRuns : MaximalRuns style start stop right) :
    left = right := by
  induction left generalizing start right with
  | nil =>
      cases right with
      | nil => rfl
      | cons run rest =>
          have empty : start = stop := leftRuns.tiles
          have nonempty := rightRuns.tiles.2.1
          have further := rightRuns.tail.tiles.le
          omega
  | cons leftRun leftRest hypothesis =>
      cases right with
      | nil =>
          have empty : start = stop := rightRuns.tiles
          have nonempty := leftRuns.tiles.2.1
          have further := leftRuns.tail.tiles.le
          omega
      | cons rightRun rightRest =>
          have sameStyle : leftRun.style = rightRun.style :=
            leftRuns.style_start.symm.trans rightRuns.style_start
          have sameStart : leftRun.span.start = rightRun.span.start :=
            leftRuns.tiles.1.trans rightRuns.tiles.1.symm
          have sameStop : leftRun.span.stop = rightRun.span.stop :=
            Nat.le_antisymm (stop_le_stop leftRuns rightRuns)
              (stop_le_stop rightRuns leftRuns)
          have sameRun : leftRun = rightRun := by
            rcases leftRun with ⟨⟨_, _⟩, _⟩
            rcases rightRun with ⟨⟨_, _⟩, _⟩
            simp_all
          subst sameRun
          rw [hypothesis leftRuns.tail rightRuns.tail]

end MaximalRuns

/-! ## Rows of runs -/

theorem tiles_append_iff {start stop : Nat} {left right : List StyledRange} :
    Tiles start stop (left ++ right) ↔
      ∃ middle, Tiles start middle left ∧ Tiles middle stop right := by
  induction left generalizing start with
  | nil => simp [Tiles]
  | cons first rest hypothesis => simp [Tiles, hypothesis, and_assoc]

theorem maximalRuns_append_iff {style : Nat → Style} {start stop : Nat}
    {left right : List StyledRange} :
    MaximalRuns style start stop (left ++ right) ↔
      (∃ middle, MaximalRuns style start middle left ∧
        MaximalRuns style middle stop right) ∧
      ∀ run ∈ left.getLast?, ∀ next ∈ right.head?, run.style ≠ next.style := by
  constructor
  · intro runs
    rcases tiles_append_iff.1 runs.tiles with ⟨middle, leftTiles, rightTiles⟩
    rcases List.forall_mem_append.1 runs.shows with ⟨leftShows, rightShows⟩
    rcases List.isChain_append.1 runs.distinct with
      ⟨leftDistinct, rightDistinct, different⟩
    exact ⟨⟨middle, ⟨leftTiles, leftShows, leftDistinct⟩,
      ⟨rightTiles, rightShows, rightDistinct⟩⟩, different⟩
  · intro ⟨⟨middle, leftRuns, rightRuns⟩, different⟩
    exact ⟨tiles_append_iff.2 ⟨middle, leftRuns.tiles, rightRuns.tiles⟩,
      List.forall_mem_append.2 ⟨leftRuns.shows, rightRuns.shows⟩,
      List.isChain_append.2 ⟨leftRuns.distinct, rightRuns.distinct, different⟩⟩

/-! ## Drawing -/

namespace Segments

/-- Drawing a piece keeps the runs maximal: the last of them is prolonged or a new
one begins. -/
theorem maximalRuns_draw {style : Nat → Style} {start middle : Nat}
    {drawn : List StyledRange} {piece : StyledRange}
    (runs : MaximalRuns style start middle drawn.reverse)
    (begins : piece.span.start = middle) (nonempty : middle < piece.span.stop)
    (shows : ∀ offset, piece.span.contains offset = true →
      style offset = piece.style) :
    MaximalRuns style start piece.span.stop (draw drawn piece).reverse := by
  cases drawn with
  | nil =>
      have empty : start = middle := runs.tiles
      subst empty
      exact .singleton begins nonempty shows
  | cons last earlier =>
      rw [List.reverse_cons] at runs
      rw [draw]
      split
      · next equal =>
          rcases maximalRuns_append_iff.1 runs with
            ⟨⟨before, earlierRuns, lastRuns⟩, different⟩
          have prolonged := lastRuns.prolong (Nat.le_of_lt nonempty)
            fun offset behind ahead =>
              (shows offset (Span.contains_iff.2 ⟨begins ▸ behind, ahead⟩)).trans
                equal.symm
          rw [List.reverse_cons]
          exact maximalRuns_append_iff.2
            ⟨⟨before, earlierRuns, prolonged⟩, by simpa using different⟩
      · next different =>
          rw [List.reverse_cons, List.reverse_cons]
          refine maximalRuns_append_iff.2
            ⟨⟨middle, runs, .singleton begins nonempty shows⟩, ?_⟩
          simpa using different

variable {bounds : Array Nat}

/-- After any number of segments the runs are maximal up to the bound that has been
reached. -/
theorem maximalRuns_draw_take (ascending : bounds.toList.Pairwise (· < ·))
    {style : Nat → Style} {segments : Segments bounds}
    (shows : ∀ index offset, (segments.piece index).span.contains offset = true →
      style offset = (segments.piece index).style)
    (count : Nat) (within : count < bounds.size) :
    MaximalRuns style bounds[0] bounds[count]
      (((List.ofFn segments.piece).take count).foldl draw []).reverse := by
  induction count with
  | zero => exact ⟨rfl, by simp [Shows], .nil⟩
  | succ count induction =>
      have drawn := induction (by omega)
      have inside : count < bounds.size - 1 := by omega
      let index : Fin (bounds.size - 1) := ⟨count, inside⟩
      have next : (List.ofFn segments.piece).take (count + 1) =
          (List.ofFn segments.piece).take count ++ [segments.piece index] := by
        rw [List.take_succ_eq_append_getElem (by simpa using inside),
          List.getElem_ofFn]
      rw [next, List.foldl_append]
      exact maximalRuns_draw drawn rfl
        (Ascending.getElem_lt_getElem ascending (Nat.lt_succ_self count) within)
        (shows index)

theorem maximalRuns_runs (ascending : bounds.toList.Pairwise (· < ·))
    (nonempty : 0 < bounds.size) {style : Nat → Style} {segments : Segments bounds}
    (shows : ∀ index offset, (segments.piece index).span.contains offset = true →
      style offset = (segments.piece index).style) :
    MaximalRuns style bounds[0] (bounds.back nonempty) segments.runs := by
  have drawn := maximalRuns_draw_take ascending shows (bounds.size - 1) (by omega)
  rwa [List.take_of_length_le (by simp)] at drawn

/-! ## Laying ranges over segments -/

theorem getElem?_overlaySlice (style : Style) (first count : Nat)
    (styles : Array Style) (index : Nat) :
    (overlaySlice style first count styles)[index]? =
      styles[index]?.map fun lower =>
        if first ≤ index ∧ index < first + count then lower.overlay style
        else lower := by
  induction count generalizing first styles with
  | zero =>
      have outside : ¬ (first ≤ index ∧ index < first + 0) := by omega
      simp only [outside, if_false, Option.map_id_fun', id_eq]
      rfl
  | succ count induction =>
      have unfolded : overlaySlice style first (count + 1) styles =
          overlaySlice style (first + 1) count
            (styles.modify first fun lower => lower.overlay style) := rfl
      rw [unfolded, induction, Array.getElem?_modify]
      by_cases here : first = index
      · have passed : ¬ (first + 1 ≤ index ∧ index < first + 1 + count) := by omega
        have covered : first ≤ index ∧ index < first + (count + 1) := by omega
        rw [if_pos here, Option.map_map]
        simp only [passed, covered, and_self, if_true, if_false, Function.comp_def]
      · have same : (first + 1 ≤ index ∧ index < first + 1 + count) ↔
            first ≤ index ∧ index < first + (count + 1) := by omega
        simp only [here, same, if_false]

/-- A range is laid over the segments that begin in it. -/
theorem getElem_overlay (ascending : bounds.toList.Pairwise (· < ·))
    (segments : Segments bounds) (range : StyledRange)
    {index : Nat} (within : index < bounds.size - 1) :
    (segments.overlay range)[index] =
      if range.span.contains bounds[index] then segments[index].overlay range.style
      else segments[index] := by
  have inside : index < bounds.size := by omega
  -- Either search counts the bounds in front of an end of the range.
  have starts := Ascending.lt_partitionPoint_iff ascending range.span.start inside
  have stops := Ascending.lt_partitionPoint_iff ascending range.span.stop inside
  have laid := getElem?_overlaySlice range.style
    (Ascending.partitionPoint bounds range.span.start)
    (Ascending.partitionPoint bounds range.span.stop -
      Ascending.partitionPoint bounds range.span.start) segments.toArray index
  rw [Array.getElem?_eq_getElem (by simpa using within),
    Array.getElem?_eq_getElem (by simpa using within), Option.map_some,
    Option.some_inj] at laid
  refine laid.trans (if_congr ?_ rfl rfl)
  rw [Span.contains_iff]
  omega

theorem getElem_foldl_overlay (ascending : bounds.toList.Pairwise (· < ·))
    (segments : Segments bounds) (ranges : List StyledRange)
    {index : Nat} (within : index < bounds.size - 1) :
    (ranges.foldl overlay segments)[index] =
      (ranges.filter fun range => range.span.contains bounds[index]).foldl
        (fun lower range => lower.overlay range.style) segments[index] := by
  induction ranges generalizing segments with
  | nil => rfl
  | cons range rest induction =>
      rw [List.foldl_cons, induction, getElem_overlay ascending]
      by_cases covered : range.span.contains bounds[index] = true
      · simp [covered]
      · simp [covered]

end Segments

namespace StyledText

/-! ## Bounds -/

theorem pairwise_bounds (styled : StyledText) :
    styled.bounds.toList.Pairwise (· < ·) :=
  Ascending.pairwise_ofList _

theorem mem_bounds_iff {styled : StyledText} {offset : Nat} :
    offset ∈ styled.bounds ↔
      offset = 0 ∨ offset = styled.text.byteLength ∨
        ∃ range ∈ styled.ranges, offset = range.span.start ∨ offset = range.span.stop := by
  simp [bounds]

theorem le_of_mem_bounds {styled : StyledText} {offset : Nat}
    (member : offset ∈ styled.bounds) : offset ≤ styled.text.byteLength := by
  rcases mem_bounds_iff.1 member with rfl | rfl | ⟨range, rangeMember, ends⟩
  · exact Nat.zero_le _
  · exact Nat.le_refl _
  · have within := Span.within_iff.1 (styled.fits range rangeMember)
    omega

theorem size_bounds_pos (styled : StyledText) : 0 < styled.bounds.size :=
  Array.size_pos_of_mem (mem_bounds_iff.2 (.inl rfl))

theorem getElem_bounds_zero {styled : StyledText} (nonempty : 0 < styled.bounds.size) :
    styled.bounds[0] = 0 :=
  Nat.le_zero.1 (Ascending.getElem_zero_le styled.pairwise_bounds
    (mem_bounds_iff.2 (.inl rfl)) nonempty)

theorem back_bounds {styled : StyledText} (nonempty : 0 < styled.bounds.size) :
    styled.bounds.back nonempty = styled.text.byteLength :=
  Nat.le_antisymm (le_of_mem_bounds (Array.back_mem nonempty))
    (Ascending.le_back styled.pairwise_bounds (mem_bounds_iff.2 (.inr (.inl rfl)))
      nonempty)

/-- The slice of segments that a range covers is in order and lies within them. -/
theorem slice_within {styled : StyledText} {range : StyledRange}
    (member : range ∈ styled.ranges) :
    Ascending.partitionPoint styled.bounds range.span.start ≤
        Ascending.partitionPoint styled.bounds range.span.stop ∧
      Ascending.partitionPoint styled.bounds range.span.stop ≤
        styled.bounds.size - 1 := by
  have within := Span.within_iff.1 (styled.fits range member)
  have nonempty := styled.size_bounds_pos
  constructor
  · exact Ascending.partitionPoint_le_partitionPoint styled.pairwise_bounds within.1
  · apply Ascending.partitionPoint_le_of_le styled.pairwise_bounds (by omega)
    exact within.2.trans_eq (back_bounds nonempty).symm

/-- From one bound to the next the same ranges cover every offset. -/
theorem contains_of_between {styled : StyledText} {range : StyledRange}
    (member : range ∈ styled.ranges) {index offset : Nat}
    (within : index + 1 < styled.bounds.size) (behind : styled.bounds[index] ≤ offset)
    (ahead : offset < styled.bounds[index + 1]) :
    range.span.contains offset = range.span.contains styled.bounds[index] := by
  have start : range.span.start < styled.bounds[index + 1] →
      range.span.start ≤ styled.bounds[index] :=
    Ascending.le_getElem_of_lt styled.pairwise_bounds
      (mem_bounds_iff.2 (.inr (.inr ⟨range, member, .inl rfl⟩))) within
  have stop : range.span.stop < styled.bounds[index + 1] →
      range.span.stop ≤ styled.bounds[index] :=
    Ascending.le_getElem_of_lt styled.pairwise_bounds
      (mem_bounds_iff.2 (.inr (.inr ⟨range, member, .inr rfl⟩))) within
  rw [Bool.eq_iff_iff, Span.contains_iff, Span.contains_iff]
  omega

theorem getElem_segments {styled : StyledText} {index : Nat}
    (within : index < styled.bounds.size - 1) :
    styled.segments[index] = styled.styleAt styled.bounds[index] := by
  have nonempty : ∀ range ∈ styled.ranges,
      (range.span.contains styled.bounds[index] &&
        decide (range.span.start < range.span.stop)) =
      range.span.contains styled.bounds[index] := by
    intro range _
    rw [Bool.eq_iff_iff, Bool.and_eq_true, decide_eq_true_iff, Span.contains_iff]
    omega
  rw [segments, Segments.getElem_foldl_overlay styled.pairwise_bounds, List.filter_filter,
    List.filter_congr nonempty, styleAt, Segments.plain, Vector.getElem_replicate]

/-! ## The runs of a styled text -/

/-- The runs of a styled text cut its styles into maximal runs. -/
theorem maximalRuns_runs (styled : StyledText) :
    MaximalRuns styled.styleAt 0 styled.text.byteLength styled.runs := by
  rw [runs]
  split
  · next empty => exact empty ▸ ⟨rfl, by simp [Shows], .nil⟩
  · have nonempty := styled.size_bounds_pos
    have shows : ∀ index offset,
        (styled.segments.piece index).span.contains offset = true →
          styled.styleAt offset = (styled.segments.piece index).style := by
      intro index offset inside
      have within := index.isLt
      rcases Span.contains_iff.1 inside with ⟨behind, ahead⟩
      refine Eq.trans ?_ (getElem_segments within).symm
      -- The ranges around an offset are those around the bound in front of it.
      rw [styleAt, styleAt]
      congr 1
      exact List.filter_congr fun range member =>
        contains_of_between member (by omega) behind ahead
    have maximal := Segments.maximalRuns_runs styled.pairwise_bounds nonempty shows
    rwa [getElem_bounds_zero nonempty, back_bounds nonempty] at maximal

/-- Texts of one length have the same runs when they have the same styles. -/
theorem runs_eq_runs_iff {left right : StyledText}
    (length : left.text.byteLength = right.text.byteLength) :
    left.runs = right.runs ↔
      ∀ offset < left.text.byteLength, left.styleAt offset = right.styleAt offset := by
  have leftRuns := left.maximalRuns_runs
  have rightRuns := right.maximalRuns_runs
  rw [← length] at rightRuns
  constructor
  · intro equal offset inside
    rcases leftRuns.tiles.exists_mem_contains (Nat.zero_le offset) inside with
      ⟨run, member, covered⟩
    rw [leftRuns.shows run member offset covered,
      rightRuns.shows run (equal ▸ member) offset covered]
  · intro agree
    exact (leftRuns.congr fun offset _ inside => agree offset inside).unique rightRuns

/-- The runs of a styled text are the only list of runs that cuts its styles
into maximal runs; there is none for the empty text.  So two texts of one length
have the same runs when, and only when, they show the same styles.  No slice of
segments that is taken on the way leaves them. -/
theorem runs_characterized (styled : StyledText) :
    (∀ runs, MaximalRuns styled.styleAt 0 styled.text.byteLength runs ↔
      runs = styled.runs) ∧
    (styled.text = [] → styled.runs = []) ∧
    (∀ other : StyledText, other.text.byteLength = styled.text.byteLength →
      (other.runs = styled.runs ↔
        ∀ offset < styled.text.byteLength,
          other.styleAt offset = styled.styleAt offset)) ∧
    ∀ range ∈ styled.ranges,
      Ascending.partitionPoint styled.bounds range.span.start ≤
          Ascending.partitionPoint styled.bounds range.span.stop ∧
        Ascending.partitionPoint styled.bounds range.span.stop ≤
          styled.bounds.size - 1 := by
  refine ⟨?_, ?_, ?_, fun range => slice_within⟩
  · intro runs
    constructor
    · intro maximal
      exact maximal.unique styled.maximalRuns_runs
    · intro equal
      exact equal ▸ styled.maximalRuns_runs
  · intro empty
    have maximal := styled.maximalRuns_runs
    rw [empty] at maximal
    exact maximal.unique ⟨rfl, by simp [Shows], .nil⟩
  · intro other length
    rw [← length]
    exact runs_eq_runs_iff length

end StyledText

end LiveEditor
