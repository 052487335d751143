import LiveEditor.Text.Selection

/-! # Boundaries of a text

An offset is a boundary when a front of the text has so many bytes.  Taking a
text apart succeeds exactly between two boundaries in order, and the greatest
boundary that is not above an offset is a boundary that already is one.
-/

namespace LiveEditor.Text

/-! ## Boundaries -/

theorem byteLength_eq_zero_iff {text : Text} : byteLength text = 0 ↔ text = [] := by
  cases text with
  | nil => simp
  | cons character rest =>
      have positive := character.utf8Size_pos
      simp only [byteLength_cons, reduceCtorEq, iff_false]
      omega

theorem isBoundary_iff {text : Text} {offset : Nat} :
    text.isBoundary offset = true ↔
      ∃ before after, text = before ++ after ∧ byteLength before = offset := by
  rw [isBoundary, Option.isSome_iff_exists]
  constructor
  · rintro ⟨⟨before, after⟩, split⟩
    exact ⟨before, after, (splitAt?_eq_some_iff text before after offset).1 split⟩
  · rintro ⟨before, after, split⟩
    exact ⟨(before, after), (splitAt?_eq_some_iff text before after offset).2 split⟩

theorem isBoundary_append (before after : Text) :
    isBoundary (before ++ after) (byteLength before) = true :=
  isBoundary_iff.2 ⟨before, after, rfl, rfl⟩

theorem isBoundary_zero (text : Text) : text.isBoundary 0 = true :=
  isBoundary_append [] text

theorem isBoundary_byteLength (text : Text) : text.isBoundary text.byteLength = true := by
  have whole := isBoundary_append text []
  rwa [List.append_nil] at whole

theorem le_of_isBoundary {text : Text} {offset : Nat}
    (boundary : text.isBoundary offset = true) : offset ≤ byteLength text := by
  rcases isBoundary_iff.1 boundary with ⟨before, after, rfl, rfl⟩
  simp

theorem append_inj_of_byteLength {before after otherBefore otherAfter : Text}
    (whole : before ++ after = otherBefore ++ otherAfter)
    (length : byteLength before = byteLength otherBefore) :
    before = otherBefore ∧ after = otherAfter := by
  have one := (splitAt?_eq_some_iff (before ++ after) before after _).2 ⟨rfl, rfl⟩
  have other := (splitAt?_eq_some_iff (before ++ after) otherBefore otherAfter
    (byteLength before)).2 ⟨whole, length.symm⟩
  rw [one] at other
  simpa using other

/-- Of two cuts of a text, the one that lies behind takes in all that is before the
other. -/
theorem exists_append_of_byteLength_le {before behind front after : Text}
    (whole : before ++ behind = front ++ after)
    (ordered : byteLength before ≤ byteLength front) :
    ∃ covered, front = before ++ covered ∧ behind = covered ++ after := by
  rcases List.append_eq_append_iff.1 whole with
    ⟨covered, longer, rest⟩ | ⟨missing, shorter, rest⟩
  · exact ⟨covered, longer, rest⟩
  · have length : byteLength before = byteLength front := by
      rw [shorter, byteLength_append] at ordered ⊢
      omega
    rcases append_inj_of_byteLength whole length with ⟨rfl, rfl⟩
    exact ⟨[], (List.append_nil _).symm, rfl⟩

/-- Two boundaries in order cut a text into three. -/
theorem exists_pieces_of_isBoundary {text : Text} {start stop : Nat}
    (startBoundary : text.isBoundary start = true)
    (stopBoundary : text.isBoundary stop = true) (ordered : start ≤ stop) :
    ∃ before covered after, text = before ++ covered ++ after ∧
      byteLength before = start ∧ byteLength (before ++ covered) = stop := by
  rcases isBoundary_iff.1 startBoundary with ⟨before, behind, whole, startLength⟩
  rcases isBoundary_iff.1 stopBoundary with ⟨front, after, split, stopLength⟩
  rcases exists_append_of_byteLength_le (whole.symm.trans split)
    (by rwa [startLength, stopLength]) with ⟨covered, rfl, _⟩
  exact ⟨before, covered, after, split, startLength, stopLength⟩

/-! ## The boundary below an offset -/

theorem floorBoundaryFrom_spec (position : Nat) (text : Text) (offset : Nat) :
    ∃ before after, text = before ++ after ∧
      floorBoundaryFrom position text offset = position + byteLength before ∧
      (position ≤ offset → position + byteLength before ≤ offset) ∧
      ∀ next ∈ after.head?, offset < position + byteLength before + next.utf8Size := by
  induction text generalizing position with
  | nil => exact ⟨[], [], rfl, rfl, id, by simp⟩
  | cons character rest hypothesis =>
      rw [floorBoundaryFrom]
      split
      · next fits =>
          rcases hypothesis (position + character.utf8Size) with
            ⟨before, after, whole, floor, below, least⟩
          refine ⟨character :: before, after, by rw [whole, List.cons_append], ?_, ?_, ?_⟩
          · rw [floor, byteLength_cons, Nat.add_assoc]
          · intro _
            have within := below fits
            rw [byteLength_cons]
            omega
          · intro next member
            have above := least next member
            rw [byteLength_cons]
            omega
      · next tooLong =>
          refine ⟨[], character :: rest, rfl, rfl, id, ?_⟩
          intro next member
          simp only [List.head?_cons, Option.mem_def, Option.some.injEq] at member
          subst member
          simp only [byteLength_nil]
          omega

theorem isBoundary_floorBoundary (text : Text) (offset : Nat) :
    text.isBoundary (text.floorBoundary offset) = true := by
  rcases floorBoundaryFrom_spec 0 text offset with ⟨before, after, rfl, floor, _⟩
  rw [floorBoundary, floor, Nat.zero_add]
  exact isBoundary_append before after

theorem floorBoundary_le (text : Text) (offset : Nat) :
    text.floorBoundary offset ≤ offset := by
  rcases floorBoundaryFrom_spec 0 text offset with ⟨before, after, _, floor, below, _⟩
  rw [floorBoundary, floor]
  exact below (Nat.zero_le offset)

/-- No boundary lies between an offset and the greatest boundary below it. -/
theorem le_floorBoundary {text : Text} {boundary offset : Nat}
    (isBoundary : text.isBoundary boundary = true) (below : boundary ≤ offset) :
    boundary ≤ text.floorBoundary offset := by
  rcases isBoundary_iff.1 isBoundary with ⟨front, back, whole, rfl⟩
  rcases floorBoundaryFrom_spec 0 text offset with ⟨before, after, split, floor, _, least⟩
  rw [floorBoundary, floor, Nat.zero_add]
  rcases List.append_eq_append_iff.1 (whole.symm.trans split) with
    ⟨between, rfl, _⟩ | ⟨between, rfl, equal⟩
  · simp
  · cases between with
    | nil => simp
    | cons next between =>
        have above := least next (by simp [equal])
        simp only [byteLength_append, byteLength_cons] at below above ⊢
        omega

theorem floorBoundary_of_isBoundary {text : Text} {offset : Nat}
    (boundary : text.isBoundary offset = true) : text.floorBoundary offset = offset :=
  Nat.le_antisymm (floorBoundary_le text offset)
    (le_floorBoundary boundary (Nat.le_refl offset))

/-! ## Taking a text apart -/

/-- A text is taken apart around a span exactly when its ends are boundaries in
order. -/
theorem cut_eq_ok_iff {text : Text} {span : Span} {pieces : Pieces} :
    text.cut span = .ok pieces ↔
      text = pieces.before ++ pieces.covered ++ pieces.after ∧
        byteLength pieces.before = span.start ∧
        byteLength (pieces.before ++ pieces.covered) = span.stop := by
  constructor
  · intro succeeds
    rw [cut] at succeeds
    split at succeeds
    · next bounds =>
        split at succeeds
        · cases succeeds
        · next before rest atStart =>
            split at succeeds
            · cases succeeds
            · next covered after atStop =>
                cases succeeds
                rcases (splitAt?_eq_some_iff _ _ _ _).1 atStart with ⟨rfl, start⟩
                rcases (splitAt?_eq_some_iff _ _ _ _).1 atStop with ⟨rfl, stop⟩
                refine ⟨(List.append_assoc _ _ _).symm, start, ?_⟩
                change byteLength (before ++ covered) = span.stop
                rw [byteLength_append]
                omega
    · cases succeeds
  · rintro ⟨whole, start, stop⟩
    rw [byteLength_append] at stop
    have bounds : span.start ≤ span.stop ∧ span.stop ≤ byteLength text := by
      rw [whole, byteLength_append, byteLength_append]
      omega
    have atStart : text.splitAt? span.start =
        some (pieces.before, pieces.covered ++ pieces.after) :=
      (splitAt?_eq_some_iff _ _ _ _).2 ⟨by rw [whole, List.append_assoc], start⟩
    have atStop : (pieces.covered ++ pieces.after).splitAt? (span.stop - span.start) =
        some (pieces.covered, pieces.after) :=
      (splitAt?_eq_some_iff _ _ _ _).2 ⟨rfl, by omega⟩
    rw [cut, if_pos bounds]
    simp only [atStart, atStop]

theorem slice_of_cut {text : Text} {span : Span} {pieces : Pieces}
    (cut : text.cut span = .ok pieces) : text.slice span = .ok pieces.covered := by
  rw [slice, cut]
  rfl

theorem cut_append (before covered after : Text) :
    (before ++ covered ++ after).cut ⟨before.byteLength, (before ++ covered).byteLength⟩ =
      .ok ⟨before, covered, after⟩ :=
  cut_eq_ok_iff.2 ⟨rfl, rfl, rfl⟩

theorem slice_append (before covered after : Text) :
    (before ++ covered ++ after).slice ⟨before.byteLength, (before ++ covered).byteLength⟩ =
      .ok covered :=
  slice_of_cut (cut_append before covered after)

theorem slice_eq_ok_iff {text piece : Text} {span : Span} :
    text.slice span = .ok piece ↔ ∃ before after, text = before ++ piece ++ after ∧
      span = ⟨before.byteLength, (before ++ piece).byteLength⟩ := by
  constructor
  · intro succeeds
    cases cut : text.cut span with
    | error error =>
        rw [slice, cut] at succeeds
        cases succeeds
    | ok pieces =>
        cases (slice_of_cut cut).symm.trans succeeds
        rcases span with ⟨start, stop⟩
        rcases cut_eq_ok_iff.1 cut with ⟨whole, rfl, rfl⟩
        exact ⟨pieces.before, pieces.after, whole, rfl⟩
  · rintro ⟨before, after, rfl, rfl⟩
    exact slice_append before piece after

end LiveEditor.Text

namespace LiveEditor.Span

/-! ## Spans that fit a text -/

structure Fits (span : Span) (text : Text) : Prop where
  ordered : span.start ≤ span.stop
  startsAtBoundary : text.isBoundary span.start = true
  stopsAtBoundary : text.isBoundary span.stop = true

theorem Fits.stop_le {span : Span} {text : Text} (fits : span.Fits text) :
    span.stop ≤ text.byteLength :=
  Text.le_of_isBoundary fits.stopsAtBoundary

theorem fits_of_append (before covered after : Text) :
    Fits ⟨before.byteLength, (before ++ covered).byteLength⟩ (before ++ covered ++ after) where
  ordered := by simp
  startsAtBoundary := by
    rw [List.append_assoc]
    exact Text.isBoundary_append before (covered ++ after)
  stopsAtBoundary := Text.isBoundary_append (before ++ covered) after

theorem fits_of_cut {span : Span} {text : Text} {pieces : Text.Pieces}
    (cut : text.cut span = .ok pieces) : span.Fits text := by
  rcases Text.cut_eq_ok_iff.1 cut with ⟨rfl, start, stop⟩
  have fits := fits_of_append pieces.before pieces.covered pieces.after
  rwa [start, stop] at fits

theorem Fits.exists_cut {span : Span} {text : Text} (fits : span.Fits text) :
    ∃ pieces, text.cut span = .ok pieces := by
  rcases Text.exists_pieces_of_isBoundary fits.startsAtBoundary fits.stopsAtBoundary
    fits.ordered with ⟨before, covered, after, whole, start, stop⟩
  exact ⟨⟨before, covered, after⟩, Text.cut_eq_ok_iff.2 ⟨whole, start, stop⟩⟩

theorem Fits.exists_slice {span : Span} {text : Text} (fits : span.Fits text) :
    ∃ piece, text.slice span = .ok piece := by
  rcases fits.exists_cut with ⟨pieces, cut⟩
  exact ⟨pieces.covered, Text.slice_of_cut cut⟩

end LiveEditor.Span
