import LiveEditor.Proofs.Text.Encoding
import LiveEditor.Proofs.Text.LineTiling
import LiveEditor.Text.Statistics

/-! # Putting a text in the place of another

Slicing and replacing accept the same spans, those whose ends are boundaries of the text
in order, and say of any other span what is first wrong with it.  A replacement takes the
place of one piece in the bytes of the text and leaves what is before and behind it as it
was, so that putting the piece back gives the old text.
-/

namespace LiveEditor

/-- What is first wrong with a span that names no piece of a text. -/
inductive Span.Misfits (span : Span) (text : Text) : RangeError → Prop
  | bounds (outside : ¬ (span.start ≤ span.stop ∧ span.stop ≤ text.byteLength)) :
      Misfits span text (.outOfBounds span text.byteLength)
  | start (inBounds : span.start ≤ span.stop ∧ span.stop ≤ text.byteLength)
      (inside : text.isBoundary span.start = false) :
      Misfits span text (.notOnBoundary span.start)
  | stop (inBounds : span.start ≤ span.stop ∧ span.stop ≤ text.byteLength)
      (boundary : text.isBoundary span.start = true)
      (inside : text.isBoundary span.stop = false) :
      Misfits span text (.notOnBoundary span.stop)

namespace Utf8

/-! ## Bytes around an offset -/

theorem encode_append (before after : Text) :
    encode (before ++ after) = encode before ++ encode after :=
  List.flatMap_append

theorem take_encode_append (before after : Text) :
    (encode (before ++ after)).take before.byteLength = encode before := by
  rw [encode_append, ← length_encode, List.take_left]

theorem drop_encode_append (before after : Text) :
    (encode (before ++ after)).drop before.byteLength = encode after := by
  rw [encode_append, ← length_encode, List.drop_left]

end Utf8

namespace Text

/-! ## Spans that name no piece -/

theorem map_eq_error_iff {α β ε : Type} {transform : α → β} {result : Except ε α} {error : ε} :
    result.map transform = .error error ↔ result = .error error := by
  cases result <;> simp [Except.map]

theorem exists_map_eq_ok_iff {α β ε : Type} {transform : α → β} {result : Except ε α} :
    (∃ image, result.map transform = .ok image) ↔ ∃ value, result = .ok value := by
  cases result <;> simp [Except.map]

theorem exists_cut_iff {text : Text} {span : Span} :
    (∃ pieces, text.cut span = .ok pieces) ↔ span.Fits text :=
  ⟨fun ⟨_, cut⟩ => Span.fits_of_cut cut, Span.Fits.exists_cut⟩

theorem misfits_of_cut {text : Text} {span : Span} {error : RangeError}
    (fails : text.cut span = .error error) : span.Misfits text error := by
  have unfit : ¬ span.Fits text := fun fits => by
    rcases fits.exists_cut with ⟨pieces, succeeds⟩
    rw [fails] at succeeds
    cases succeeds
  rw [cut] at fails
  split at fails
  · next inBounds =>
      split at fails
      · next nowhere =>
          cases fails
          exact .start inBounds (by rw [isBoundary, nowhere]; rfl)
      · next before rest atStart =>
          have boundary : text.isBoundary span.start = true := by rw [isBoundary, atStart]; rfl
          split at fails
          · cases fails
            refine .stop inBounds boundary ?_
            rw [← Bool.not_eq_true]
            exact fun stops => unfit ⟨inBounds.1, boundary, stops⟩
          · cases fails
  · next outside =>
      cases fails
      exact .bounds outside

end Text

theorem Span.Misfits.not_fits {span : Span} {text : Text} {error : RangeError}
    (misfits : span.Misfits text error) : ¬ span.Fits text := by
  intro fits
  cases misfits with
  | bounds outside => exact outside ⟨fits.ordered, fits.stop_le⟩
  | start _ inside => exact Bool.false_ne_true (inside.symm.trans fits.startsAtBoundary)
  | stop _ _ inside => exact Bool.false_ne_true (inside.symm.trans fits.stopsAtBoundary)

/-- Only one thing is wrong with a span first. -/
theorem Span.Misfits.unique {span : Span} {text : Text} {one other : RangeError}
    (oneMisfits : span.Misfits text one) (otherMisfits : span.Misfits text other) :
    one = other := by
  cases oneMisfits <;> cases otherMisfits <;> simp_all

namespace Text

theorem cut_eq_error_iff {text : Text} {span : Span} {error : RangeError} :
    text.cut span = .error error ↔ span.Misfits text error := by
  refine ⟨misfits_of_cut, fun misfits => ?_⟩
  cases result : text.cut span with
  | ok pieces => exact absurd (Span.fits_of_cut result) misfits.not_fits
  | error found => rw [(misfits_of_cut result).unique misfits]

/-! ## Slices of texts that were put together -/

theorem slice_front (before after : Text) :
    (before ++ after).slice ⟨0, before.byteLength⟩ = .ok before :=
  slice_append [] before after

theorem slice_back (before after : Text) :
    (before ++ after).slice ⟨before.byteLength, (before ++ after).byteLength⟩ = .ok after := by
  have whole := slice_append before after []
  rwa [List.append_nil] at whole

theorem replace_append (before covered after replacement : Text) :
    (before ++ covered ++ after).replace
        ⟨before.byteLength, (before ++ covered).byteLength⟩ replacement =
      .ok (before ++ replacement ++ after) := by
  rw [replace, cut_append]
  rfl

/-! ## The text that comes of a replacement -/

/-- What a replacement that has come in the place of a piece has changed of a text, and
what it has left. -/
structure Spliced (text : Text) (span : Span) (pieces : Pieces)
    (replacement result : Text) : Prop where
  before : text.slice ⟨0, span.start⟩ = .ok pieces.before
  covered : text.slice span = .ok pieces.covered
  after : text.slice ⟨span.stop, text.byteLength⟩ = .ok pieces.after
  keptBefore : result.slice ⟨0, span.start⟩ = .ok pieces.before
  inserted : result.slice ⟨span.start, span.start + replacement.byteLength⟩ = .ok replacement
  keptAfter :
    result.slice ⟨span.start + replacement.byteLength, result.byteLength⟩ = .ok pieces.after
  bytes : Utf8.decode? ((Utf8.encode text).take span.start ++ Utf8.encode replacement ++
    (Utf8.encode text).drop span.stop) = some result
  length : result.byteLength =
    text.byteLength - (span.stop - span.start) + replacement.byteLength
  characters : (result.statistics.characters : Int) - text.statistics.characters =
    replacement.statistics.characters - pieces.covered.statistics.characters
  lines : (result.statistics.lines : Int) - text.statistics.lines =
    replacement.count '\n' - pieces.covered.count '\n'
  restored : result.replace ⟨span.start, span.start + replacement.byteLength⟩ pieces.covered =
    .ok text

theorem spliced_append (before covered after replacement : Text) :
    Spliced (before ++ covered ++ after) ⟨before.byteLength, (before ++ covered).byteLength⟩
      ⟨before, covered, after⟩ replacement (before ++ replacement ++ after) where
  before := by
    rw [List.append_assoc]
    exact slice_front before (covered ++ after)
  covered := slice_append before covered after
  after := slice_back (before ++ covered) after
  keptBefore := by
    rw [List.append_assoc]
    exact slice_front before (replacement ++ after)
  inserted := by
    rw [← byteLength_append]
    exact slice_append before replacement after
  keptAfter := by
    rw [← byteLength_append]
    exact slice_back (before ++ replacement) after
  bytes := by
    rw [Utf8.drop_encode_append, List.append_assoc before, Utf8.take_encode_append,
      ← Utf8.encode_append, ← Utf8.encode_append]
    exact Utf8.decode?_encode _
  length := by
    simp only [byteLength_append]
    omega
  characters := by
    simp only [statistics, List.length_append]
    omega
  lines := by
    simp only [statistics, lineCount_eq, List.count_append]
    omega
  restored := by
    rw [← byteLength_append]
    exact replace_append before replacement after covered

theorem exists_spliced_of_replace {text replacement result : Text} {span : Span}
    (succeeds : text.replace span replacement = .ok result) :
    ∃ pieces, Spliced text span pieces replacement result := by
  cases cut : text.cut span with
  | error error =>
      rw [replace, cut] at succeeds
      cases succeeds
  | ok pieces =>
      rw [replace, cut] at succeeds
      cases succeeds
      rcases span with ⟨start, stop⟩
      rcases cut_eq_ok_iff.1 cut with ⟨rfl, rfl, rfl⟩
      exact ⟨pieces, spliced_append pieces.before pieces.covered pieces.after replacement⟩

/-- Slicing and replacing succeed at the spans between two boundaries in order, and at all
others they say what is first wrong, the bounds before the start and the start before the
stop.  A replacement that succeeds changes nothing but the piece at its span: before it and
behind it the text is the same, length and counts differ as the two pieces do, and with
the piece in its old place the text is the old one. -/
theorem replace_splices (text replacement : Text) (span : Span) :
    let accepted := (span.start ≤ span.stop ∧ span.stop ≤ text.byteLength) ∧
      text.isBoundary span.start = true ∧ text.isBoundary span.stop = true
    ((∃ piece, text.slice span = .ok piece) ↔ accepted) ∧
    ((∃ result, text.replace span replacement = .ok result) ↔ accepted) ∧
    (∀ error, text.slice span = .error error ↔ span.Misfits text error) ∧
    (∀ error, text.replace span replacement = .error error ↔ span.Misfits text error) ∧
    ∀ result, text.replace span replacement = .ok result →
      ∃ pieces, Spliced text span pieces replacement result := by
  intro accepted
  have fits : span.Fits text ↔ accepted :=
    ⟨fun fits => ⟨⟨fits.ordered, fits.stop_le⟩, fits.startsAtBoundary, fits.stopsAtBoundary⟩,
      fun accepted => ⟨accepted.1.1, accepted.2.1, accepted.2.2⟩⟩
  refine ⟨?_, ?_, fun error => ?_, fun error => ?_, fun result => exists_spliced_of_replace⟩
  · rw [← fits, ← exists_cut_iff, slice, exists_map_eq_ok_iff]
  · rw [← fits, ← exists_cut_iff, replace, exists_map_eq_ok_iff]
  · rw [← cut_eq_error_iff, slice, map_eq_error_iff]
  · rw [← cut_eq_error_iff, replace, map_eq_error_iff]

/-- Two line feeds behind a character of three bytes come for one behind a character of
two. -/
theorem replace_splices_lineFeeds :
    let text : Text := "né\nx".toList
    let replacement : Text := "€\n\n".toList
    let result : Text := "n€\n\nx".toList
    text.replace ⟨1, 4⟩ replacement = .ok result ∧
      ∃ pieces, Spliced text ⟨1, 4⟩ pieces replacement result := by
  intro text replacement result
  have succeeds : text.replace ⟨1, 4⟩ replacement = .ok result := rfl
  rcases replace_splices text replacement ⟨1, 4⟩ with ⟨_, _, _, _, spliced⟩
  exact ⟨succeeds, spliced result succeeds⟩

end Text

end LiveEditor
