import LiveEditor.Proofs.Search.Choice
import LiveEditor.Proofs.Search.Extent
import LiveEditor.Proofs.Search.ReplaceAll
import Mathlib.Order.Bounds.Basic
import Mathlib.Order.WellFounded

/-! # What a marker opens

A marker opens a piece of a text that stops at the end of its line, or behind the
first closing marker that follows it.  The patterns look for all openings at
once and pass over line breaks and closing markers that are behind the next
opening; what they find for an opening is nevertheless what that opening has by
itself, as the openings come in the order of their ends.
-/

namespace LiveEditor

namespace Text

/-! ## Openings and their ends -/

def HasAt (text piece : Text) (span : Span) : Prop :=
  ∃ before after, text = before ++ piece ++ after ∧
    span = ⟨before.byteLength, (before ++ piece).byteLength⟩

def BreaksAt (text : Text) (offset : Nat) : Prop :=
  ∃ before character after, text = before ++ character :: after ∧
    offset = byteLength before ∧ (character = '\r' ∨ character = '\n')

/-- The line of an opening stops at the first line break at or behind its end, or else
with the text. -/
def EndsLine (text : Text) (opening : Span) (stop : Nat) : Prop :=
  IsLeast {offset | opening.stop ≤ offset ∧
    (text.BreaksAt offset ∨ offset = text.byteLength)} stop

/-- A closing marker begins behind an opening, and no barrier is in between. -/
structure ClosedBy (text closing : Text) (barred : Nat → Prop) (opening last : Span) :
    Prop where
  stands : text.HasAt closing last
  behind : opening.stop ≤ last.start
  unbarred : ∀ offset, barred offset → opening.stop ≤ offset → last.start ≤ offset

def ClosesAt (text closing : Text) (barred : Nat → Prop) (opening : Span) (stop : Nat) :
    Prop :=
  ∃ last, text.ClosedBy closing barred opening last ∧ last.stop = stop ∧
    ∀ other, text.HasAt closing other → opening.stop ≤ other.start →
      last.start ≤ other.start

def Opens (text marker : Text) (ends : (opening : Span) → (stop : Nat) → Prop)
    (span : Span) : Prop :=
  ∃ opening, text.HasAt marker opening ∧ opening.start = span.start ∧
    ends opening span.stop

theorem HasAt.nonempty {text marker : Text} (filled : marker ≠ []) {span : Span}
    (stands : text.HasAt marker span) : span.start < span.stop := by
  rcases stands with ⟨before, after, _, rfl⟩
  have positive : marker.byteLength ≠ 0 := mt byteLength_eq_zero_iff.1 filled
  simp only [byteLength_append]
  omega

theorem HasAt.start_le_stop {text marker : Text} {span : Span}
    (stands : text.HasAt marker span) : span.start ≤ span.stop := by
  rcases stands with ⟨before, after, _, rfl⟩
  rw [byteLength_append]
  exact Nat.le_add_right _ _

theorem HasAt.stop_le {text marker : Text} {span : Span}
    (stands : text.HasAt marker span) : span.stop ≤ text.byteLength := by
  rcases stands with ⟨before, after, rfl, rfl⟩
  rw [byteLength_append (before ++ marker)]
  exact Nat.le_add_right _ _

theorem EndsLine.le {text : Text} {opening : Span} {stop : Nat}
    (ends : text.EndsLine opening stop) : opening.stop ≤ stop :=
  ends.1.1

/-- If closing markers are behind an opening, then one of them is the first. -/
theorem ClosedBy.exists_closesAt {text closing : Text} {barred : Nat → Prop}
    {opening last : Span} (closed : text.ClosedBy closing barred opening last) :
    ∃ stop, opening.stop ≤ stop ∧ text.ClosesAt closing barred opening stop := by
  let behind : Set Span := {span | text.HasAt closing span ∧ opening.stop ≤ span.start}
  rcases WellFounded.has_min (measure Span.start).wf behind
    ⟨last, closed.stands, closed.behind⟩ with ⟨first, ⟨stands, firstBehind⟩, least⟩
  have least : ∀ other, text.HasAt closing other → opening.stop ≤ other.start →
      first.start ≤ other.start := fun other otherStands otherBehind =>
    Nat.le_of_not_lt (least other ⟨otherStands, otherBehind⟩)
  refine ⟨first.stop, Nat.le_trans firstBehind stands.start_le_stop, first,
    ⟨stands, firstBehind, ?_⟩, rfl, least⟩
  intro offset bars barredBehind
  exact Nat.le_trans (least last closed.stands closed.behind)
    (closed.unbarred offset bars barredBehind)

theorem BreaksAt.le {text : Text} {offset : Nat} (breaks : text.BreaksAt offset) :
    offset ≤ text.byteLength := by
  rcases breaks with ⟨before, character, after, rfl, rfl, _⟩
  rw [byteLength_append]
  exact Nat.le_add_right _ _

/-! ## Places with line breaks -/

theorem between_mem_placesBehind (passed between behind : Text) :
    Place.between (passed ++ between) behind ∈ passed.placesBehind (between ++ behind) := by
  induction between generalizing passed with
  | nil =>
      rcases exists_placesBehind_eq_cons passed behind with ⟨later, places⟩
      rw [List.append_nil, List.nil_append, places]
      exact List.mem_cons_self
  | cons character between induction =>
      have later := induction (passed ++ [character])
      rw [List.append_assoc, List.singleton_append] at later
      rw [List.cons_append, placesBehind_cons]
      exact List.mem_cons_of_mem _ later

theorem pairwise_placesBehind (passed text : Text) :
    (passed.placesBehind text).Pairwise fun one other => one.offset < other.offset := by
  induction text generalizing passed with
  | nil => exact List.pairwise_singleton _ _
  | cons character rest induction =>
      rw [placesBehind_cons]
      refine .cons (fun place member => ?_) (induction (passed ++ [character]))
      rcases exists_of_mem_placesBehind member with ⟨between, behind, _, rfl⟩
      have size := character.utf8Size_pos
      simp only [Place.between, byteLength_append, byteLength_cons, byteLength_nil]
      omega

end Text

namespace Pattern

theorem mem_lineBreaks_iff {text : Text} {offset : Nat} :
    offset ∈ lineBreaks text ↔ text.BreaksAt offset := by
  rw [lineBreaks, List.mem_filterMap]
  constructor
  · intro found
    rcases found with ⟨place, member, found⟩
    rw [Text.places_eq_placesBehind] at member
    rcases Text.exists_of_mem_placesBehind member with ⟨before, behind, rfl, rfl⟩
    cases behind with
    | nil => cases found
    | cons character after =>
        rw [Option.ite_none_right_eq_some] at found
        rcases found with ⟨breaks, place⟩
        refine ⟨before, character, after, rfl, (Option.some.inj place).symm, ?_⟩
        simpa [Place.between, isLineBreak] using breaks
  · intro breaks
    rcases breaks with ⟨before, character, after, whole, place, breaks⟩
    refine ⟨.between before (character :: after), ?_, ?_⟩
    · rw [whole]
      exact Text.between_mem_placesBehind [] before (character :: after)
    · rw [Option.ite_none_right_eq_some]
      exact ⟨by simpa [Place.between, isLineBreak] using breaks, by rw [place]; rfl⟩

theorem pairwise_lineBreaks (text : Text) : (lineBreaks text).Pairwise (· < ·) := by
  rw [lineBreaks, List.pairwise_filterMap]
  refine (Text.pairwise_placesBehind [] text).imp fun before => ?_
  intro one found other otherFound
  rw [Option.ite_none_right_eq_some] at found otherFound
  rw [← Option.some.inj found.2, ← Option.some.inj otherFound.2]
  exact before

/-! ## Looking from a bound on -/

theorem find?_dropWhile {α : Type} {skips wants : α → Bool}
    (unwanted : ∀ item, skips item = true → wants item = false) (items : List α) :
    (items.dropWhile skips).find? wants = items.find? wants := by
  induction items with
  | nil => rfl
  | cons item rest induction =>
      by_cases skipped : skips item = true
      · rw [List.dropWhile_cons_of_pos skipped, induction,
          List.find?_cons_of_neg (by simp [unwanted item skipped])]
      · rw [List.dropWhile_cons_of_neg skipped]

theorem head?_dropWhile_lt {α : Type} (key : α → Nat) (bound : Nat) (items : List α) :
    (items.dropWhile (key · < bound)).head? = items.find? (bound ≤ key ·) := by
  induction items with
  | nil => rfl
  | cons item rest induction =>
      by_cases passed : key item < bound
      · rw [List.dropWhile_cons_of_pos (by simpa using passed), induction,
          List.find?_cons_of_neg (by simpa using passed)]
      · rw [List.dropWhile_cons_of_neg (by simpa using passed), List.head?_cons,
          List.find?_cons_of_pos (by simpa using passed)]

theorem find?_dropWhile_lt {α : Type} (key : α → Nat) {bound further : Nat}
    (within : bound ≤ further) (items : List α) :
    (items.dropWhile (key · < bound)).find? (further ≤ key ·) =
      items.find? (further ≤ key ·) := by
  refine find?_dropWhile (fun item passed => ?_) items
  simp only [decide_eq_true_eq, decide_eq_false_iff_not] at passed ⊢
  omega

theorem isLeast_of_find? {offsets : List Nat} (ascending : offsets.Pairwise (· < ·))
    {bound first : Nat} (found : offsets.find? (bound ≤ ·) = some first) :
    IsLeast {offset | offset ∈ offsets ∧ bound ≤ offset} first := by
  rcases List.find?_eq_some_iff_append.1 found with ⟨behind, earlier, later, rfl, passed⟩
  refine ⟨⟨List.mem_of_find?_eq_some found, by simpa using behind⟩, ?_⟩
  intro offset ⟨member, offsetBehind⟩
  rcases List.mem_append.1 member with before | member
  · have notBehind := passed offset before
    simp [offsetBehind] at notBehind
  · rcases List.mem_cons.1 member with rfl | after
    · exact Nat.le_refl _
    · have ordered := (List.pairwise_append.1 ascending).2.1
      exact Nat.le_of_lt (List.rel_of_pairwise_cons ordered after)

/-! ## Openings one by one -/

def closed? (closings : List Span) (barriers : List Nat) (opening : Span) : Option Span :=
  ((closings.find? (opening.stop ≤ ·.start)).filter fun closing =>
    (barriers.find? (opening.stop ≤ ·)).all (closing.start ≤ ·)).map
      fun closing => ⟨opening.start, closing.stop⟩

theorem extendUpTo_eq_map {spans : List Span}
    (inOrder : spans.Pairwise fun one other => one.stop ≤ other.stop) (last : Nat)
    (offsets : List Nat) :
    extendUpTo last spans offsets = spans.map fun opening =>
      ⟨opening.start, (offsets.find? (opening.stop ≤ ·)).getD last⟩ := by
  induction spans generalizing offsets with
  | nil => rfl
  | cons first rest induction =>
      rcases List.pairwise_cons.1 inOrder with ⟨before, restInOrder⟩
      rw [extendUpTo, head?_dropWhile_lt (fun offset => offset), induction restInOrder,
        List.map_cons]
      congr 1
      refine List.map_congr_left fun opening member => ?_
      rw [find?_dropWhile_lt (fun offset => offset) (before opening member)]

theorem extendThrough_eq_filterMap {spans : List Span}
    (inOrder : spans.Pairwise fun one other => one.stop ≤ other.stop)
    (closings : List Span) (barriers : List Nat) :
    extendThrough spans closings barriers = spans.filterMap (closed? closings barriers) := by
  induction spans generalizing closings barriers with
  | nil => rfl
  | cons first rest induction =>
      rcases List.pairwise_cons.1 inOrder with ⟨before, restInOrder⟩
      have further : rest.filterMap (closed? (closings.dropWhile (·.start < first.stop))
          (barriers.dropWhile (· < first.stop))) =
            rest.filterMap (closed? closings barriers) := by
        refine List.filterMap_congr fun opening member => ?_
        rw [closed?, closed?, find?_dropWhile_lt Span.start (before opening member),
          find?_dropWhile_lt (fun offset => offset) (before opening member)]
      rw [extendThrough, induction restInOrder, further, List.filterMap_cons, closed?,
        ← head?_dropWhile_lt Span.start, ← head?_dropWhile_lt (fun offset => offset)]
      cases closings.dropWhile (·.start < first.stop) with
      | nil => rfl
      | cons closing more =>
          simp only [List.head?_cons, Option.filter_some]
          split <;> rfl

end Pattern

/-- Spans that begin as others do and end no earlier are in order as they are. -/
theorem Span.Ordered.filterMap {spans : List Span} (ordered : Ordered spans)
    {extend : Span → Option Span}
    (lengthens : ∀ span ∈ spans, ∀ longer, extend span = some longer →
      longer.start = span.start ∧ span.stop ≤ longer.stop) :
    Ordered (spans.filterMap extend) where
  ascending := by
    rw [List.pairwise_filterMap]
    refine ordered.ascending.imp_of_mem ?_
    intro one other oneMember otherMember before longer found otherLonger otherFound
    rw [(lengthens one oneMember longer found).1,
      (lengthens other otherMember otherLonger otherFound).1]
    exact before
  nonempty := by
    intro longer member
    rcases List.mem_filterMap.1 member with ⟨span, spanMember, found⟩
    rcases lengthens span spanMember longer found with ⟨start, stop⟩
    have filled := ordered.nonempty span spanMember
    omega

namespace Pattern

/-! ## Markers -/

theorem ofMarker_eq_pattern (marker : Text) :
    ofMarker marker = ({ text := marker, caseSensitive := true } : Query).pattern := rfl

theorem ordered_ofMarker (marker text : Text) : Span.Ordered (ofMarker marker text) :=
  Query.ordered_pattern { text := marker, caseSensitive := true } text

theorem mem_ofMarker_iff {marker : Text} (filled : marker ≠ []) {text : Text} {span : Span} :
    span ∈ ofMarker marker text ↔ text.HasAt marker span := by
  rw [ofMarker_eq_pattern, Query.mem_pattern_iff_occurs]
  constructor
  · intro occurs
    exact occurs.exists_copy rfl
  · intro ⟨before, after, whole, ends⟩
    refine (Query.occurs_iff_standsAt filled text span).2
      ⟨before, marker, after, whole, ends, ?_, fun wholeWord => nomatch wholeWord⟩
    exact List.forall₂_same.2 fun _ _ => rfl

theorem pairwise_stop_ofMarker (marker text : Text) :
    (ofMarker marker text).Pairwise fun one other => one.stop ≤ other.stop := by
  refine (ordered_ofMarker marker text).ascending.imp_of_mem ?_
  intro one other oneMember otherMember before
  rw [ofMarker_eq_pattern, Query.mem_pattern_iff_occurs] at oneMember otherMember
  exact oneMember.2.stop_le_stop otherMember.2 (Nat.le_of_lt before)

theorem stop_le_of_mem_ofMarker {marker text : Text} {span : Span}
    (member : span ∈ ofMarker marker text) : span.stop ≤ text.byteLength :=
  (staysInside_ofWord .literal marker text span member).stop_le

/-! ## To the end of the line -/

theorem endsLine_iff {text : Text} {opening : Span}
    (inside : opening.stop ≤ text.byteLength) {stop : Nat} :
    text.EndsLine opening stop ↔
      stop = ((lineBreaks text).find? (opening.stop ≤ ·)).getD text.byteLength := by
  have ends : text.EndsLine opening
      (((lineBreaks text).find? (opening.stop ≤ ·)).getD text.byteLength) := by
    cases found : (lineBreaks text).find? (opening.stop ≤ ·) with
    | none =>
        refine ⟨⟨inside, .inr rfl⟩, ?_⟩
        intro offset ⟨behind, ends⟩
        rcases ends with breaks | atEnd
        · have missed := List.find?_eq_none.1 found offset (mem_lineBreaks_iff.2 breaks)
          exact absurd behind (by simpa using missed)
        · exact Nat.le_of_eq atEnd.symm
    | some first =>
        have least := isLeast_of_find? (pairwise_lineBreaks text) found
        have breaks := mem_lineBreaks_iff.1 least.1.1
        refine ⟨⟨least.1.2, .inl breaks⟩, ?_⟩
        intro offset ⟨behind, ends⟩
        rcases ends with otherBreaks | atEnd
        · exact least.2 ⟨mem_lineBreaks_iff.2 otherBreaks, behind⟩
        · exact atEnd ▸ breaks.le
  constructor
  · intro other
    exact other.unique ends
  · intro same
    exact same ▸ ends

theorem toLineEnd_eq (marker text : Text) :
    toLineEnd marker text = (ofMarker marker text).map fun opening =>
      ⟨opening.start,
        ((lineBreaks text).find? (opening.stop ≤ ·)).getD text.byteLength⟩ :=
  extendUpTo_eq_map (pairwise_stop_ofMarker marker text) _ _

theorem mem_toLineEnd_iff {marker : Text} (filled : marker ≠ []) {text : Text}
    {span : Span} :
    span ∈ toLineEnd marker text ↔ text.Opens marker text.EndsLine span := by
  rw [toLineEnd_eq, List.mem_map]
  constructor
  · intro ⟨opening, member, found⟩
    have ends := (endsLine_iff (stop_le_of_mem_ofMarker member)).2 rfl
    subst found
    exact ⟨opening, (mem_ofMarker_iff filled).1 member, rfl, ends⟩
  · intro ⟨opening, stands, start, ends⟩
    refine ⟨opening, (mem_ofMarker_iff filled).2 stands, ?_⟩
    rw [← (endsLine_iff stands.stop_le).1 ends, start]

theorem ordered_toLineEnd (marker text : Text) : Span.Ordered (toLineEnd marker text) := by
  rw [toLineEnd_eq, ← List.filterMap_eq_map]
  refine (ordered_ofMarker marker text).filterMap fun opening member longer found => ?_
  have ends := (endsLine_iff (stop_le_of_mem_ofMarker member)).2 rfl
  rcases Option.some.inj found with rfl
  exact ⟨rfl, ends.1.1⟩

/-! ## Through the closing marker -/

theorem all_find?_iff {barriers : List Nat} (ascending : barriers.Pairwise (· < ·))
    (bound start : Nat) :
    (barriers.find? (bound ≤ ·)).all (start ≤ ·) = true ↔
      ∀ offset, offset ∈ barriers → bound ≤ offset → start ≤ offset := by
  cases found : barriers.find? (bound ≤ ·) with
  | none =>
      have missed := List.find?_eq_none.1 found
      simp only [Option.all_none, true_iff]
      intro offset member behind
      exact absurd behind (by simpa using missed offset member)
  | some first =>
      have least := isLeast_of_find? ascending found
      simp only [Option.all_some, decide_eq_true_eq]
      constructor
      · intro before offset member behind
        exact Nat.le_trans before (least.2 ⟨member, behind⟩)
      · intro before
        exact before first least.1.1 least.1.2

theorem closed?_eq_some_iff {closing : Text} (filled : closing ≠ []) (text : Text)
    {barriers : List Nat} (ascending : barriers.Pairwise (· < ·)) (opening span : Span) :
    closed? (ofMarker closing text) barriers opening = some span ↔
      opening.start = span.start ∧
        text.ClosesAt closing (· ∈ barriers) opening span.stop := by
  have counted : (· ∈ ofMarker closing text) = text.HasAt closing :=
    funext fun _ => propext (mem_ofMarker_iff filled)
  rw [closed?, Option.map_eq_some_iff]
  simp only [Option.filter_eq_some_iff, all_find?_iff ascending,
    Span.find?_eq_some_iff (ordered_ofMarker closing text), counted]
  constructor
  · intro ⟨last, ⟨first, unbarred⟩, whole⟩
    subst whole
    exact ⟨rfl, last, ⟨first.counted, first.behind, unbarred⟩, rfl, first.least⟩
  · intro ⟨start, last, closed, stop, least⟩
    exact ⟨last, ⟨⟨closed.stands, closed.behind, least⟩, closed.unbarred⟩,
      by rw [start, stop]⟩

theorem delimited_eq (opening closing : Text) (barriers : Text → List Nat) (text : Text) :
    delimited opening closing barriers text =
      (ofMarker opening text).filterMap
        (closed? (ofMarker closing text) (barriers text)) :=
  extendThrough_eq_filterMap (pairwise_stop_ofMarker opening text) _ _

theorem mem_delimited_iff {opening closing : Text} (openingFilled : opening ≠ [])
    (closingFilled : closing ≠ []) {barriers : Text → List Nat} {text : Text}
    (ascending : (barriers text).Pairwise (· < ·)) {span : Span} :
    span ∈ delimited opening closing barriers text ↔
      text.Opens opening (text.ClosesAt closing (· ∈ barriers text)) span := by
  rw [delimited_eq, List.mem_filterMap]
  simp only [closed?_eq_some_iff closingFilled text ascending,
    mem_ofMarker_iff openingFilled, Text.Opens]

theorem ordered_delimited (opening closing : Text) (barriers : Text → List Nat)
    (text : Text) : Span.Ordered (delimited opening closing barriers text) := by
  rw [delimited_eq]
  refine (ordered_ofMarker opening text).filterMap fun first _ longer found => ?_
  rcases Option.map_eq_some_iff.1 found with ⟨last, kept, rfl⟩
  have ahead := List.find?_some (Option.filter_eq_some_iff.1 kept).1
  have behind : first.stop ≤ last.start := by simpa using ahead
  have member := List.mem_of_find?_eq_some (Option.filter_eq_some_iff.1 kept).1
  have filled := (ordered_ofMarker closing text).nonempty last member
  exact ⟨rfl, Nat.le_trans behind (Nat.le_of_lt filled)⟩

end Pattern

end LiveEditor
