import LiveEditor.Highlight.Passes
import LiveEditor.Proofs.Search.Matches

/-! # The extent of patterns

A pattern that is built from words and line breaks begins where a word begins,
and ends where a word ends, at a line break or with the text.  These are
boundaries of the text, so what a pattern finds fits the text.
-/

namespace LiveEditor

namespace Text

theorem exists_of_mem_placesBehind {passed text : Text} {place : Place}
    (member : place ∈ passed.placesBehind text) :
    ∃ between behind, text = between ++ behind ∧
      place = .between (passed ++ between) behind := by
  induction text generalizing passed with
  | nil =>
      rw [placesBehind_nil, List.mem_singleton] at member
      exact ⟨[], [], rfl, by rw [member, List.append_nil]⟩
  | cons character rest induction =>
      rw [placesBehind_cons, List.mem_cons] at member
      rcases member with here | later
      · exact ⟨[], character :: rest, rfl, by rw [here, List.append_nil]⟩
      · rcases induction later with ⟨between, behind, rfl, place⟩
        refine ⟨character :: between, behind, rfl, ?_⟩
        rw [place, List.append_assoc]
        rfl

theorem isBoundary_of_mem_places {text : Text} {place : Place}
    (member : place ∈ text.places) : text.isBoundary place.offset = true := by
  rw [places_eq_placesBehind] at member
  rcases exists_of_mem_placesBehind member with ⟨before, behind, rfl, rfl⟩
  exact isBoundary_append before behind

end Text

namespace Pattern

def StaysInside (pattern : Pattern) : Prop :=
  ∀ text, ∀ span ∈ pattern text, span.Fits text

/-! ## Words and line breaks -/

theorem staysInside_ofWord (rule : WordRule) (word : Text) :
    (ofWord rule word).StaysInside := by
  intro text span member
  rw [ofWord_eq] at member
  split at member
  · cases member
  · exact ((rule.mem_occurrencesOf_iff word text span).1 member).fits

theorem isBoundary_of_mem_lineBreaks {text : Text} {offset : Nat}
    (member : offset ∈ lineBreaks text) : text.isBoundary offset = true := by
  rcases List.mem_filterMap.1 member with ⟨place, placeMember, breaks⟩
  split at breaks
  · rcases Option.some.inj breaks with rfl
    exact Text.isBoundary_of_mem_places placeMember
  · cases breaks

/-! ## Extending spans -/

theorem of_head?_dropWhile_lt {offsets : List Nat} {bound first : Nat}
    (found : (offsets.dropWhile (· < bound)).head? = some first) :
    bound ≤ first ∧ first ∈ offsets := by
  have ahead := List.head?_dropWhile_not (· < bound) offsets
  rw [found] at ahead
  refine ⟨by simpa using ahead, ?_⟩
  exact (List.dropWhile_sublist _).subset (List.mem_of_head? found)

theorem fits_of_mem_extendUpTo {text : Text} {last : Nat} {spans : List Span}
    {offsets : List Nat} (inside : ∀ span ∈ spans, span.Fits text)
    (boundaries : ∀ offset ∈ offsets, text.isBoundary offset = true)
    (lastBoundary : text.isBoundary last = true)
    (behind : ∀ span ∈ spans, span.stop ≤ last) :
    ∀ span ∈ extendUpTo last spans offsets, span.Fits text := by
  induction spans generalizing offsets with
  | nil => simp [extendUpTo]
  | cons first rest induction =>
      have fits := inside first List.mem_cons_self
      intro span member
      rw [extendUpTo] at member
      rcases List.mem_cons.1 member with rfl | member
      · cases ahead : (offsets.dropWhile (· < first.stop)).head? with
        | none =>
            have ordered := behind first List.mem_cons_self
            exact ⟨Nat.le_trans fits.ordered ordered, fits.startsAtBoundary, lastBoundary⟩
        | some next =>
            rcases of_head?_dropWhile_lt ahead with ⟨ordered, offsetMember⟩
            exact ⟨Nat.le_trans fits.ordered ordered, fits.startsAtBoundary,
              boundaries next offsetMember⟩
      · refine induction (fun other otherMember =>
          inside other (List.mem_cons_of_mem first otherMember)) ?_ (fun other otherMember =>
          behind other (List.mem_cons_of_mem first otherMember)) span member
        exact fun offset offsetMember =>
          boundaries offset ((List.dropWhile_sublist _).subset offsetMember)

/-- What is extended through a closing span begins where a span begins and ends
where a closing span behind it ends. -/
theorem exists_of_mem_extendThrough {spans closings : List Span} {barriers : List Nat}
    {span : Span} (member : span ∈ extendThrough spans closings barriers) :
    ∃ opening ∈ spans, ∃ closing ∈ closings, opening.stop ≤ closing.start ∧
      span = ⟨opening.start, closing.stop⟩ := by
  induction spans generalizing closings barriers with
  | nil => cases member
  | cons first rest induction =>
      have later : span ∈ extendThrough rest (closings.dropWhile (·.start < first.stop))
            (barriers.dropWhile (· < first.stop)) →
          ∃ opening ∈ first :: rest, ∃ closing ∈ closings,
            opening.stop ≤ closing.start ∧ span = ⟨opening.start, closing.stop⟩ := by
        intro rests
        rcases induction rests with ⟨opening, openingMember, closing, closingMember, ends⟩
        exact ⟨opening, List.mem_cons_of_mem first openingMember, closing,
          (List.dropWhile_sublist _).subset closingMember, ends⟩
      rw [extendThrough] at member
      split at member
      · exact later member
      · next closing more ahead =>
          split at member
          · rcases List.mem_cons.1 member with rfl | member
            · have behind := List.head?_dropWhile_not (·.start < first.stop) closings
              rw [ahead] at behind
              have closingMember : closing ∈ closings.dropWhile (·.start < first.stop) := by
                rw [ahead]
                exact List.mem_cons_self
              exact ⟨first, List.mem_cons_self, closing,
                (List.dropWhile_sublist _).subset closingMember, by simpa using behind, rfl⟩
            · exact later member
          · exact later member

/-! ## Markers and what they enclose -/

theorem staysInside_toLineEnd (marker : Text) : (toLineEnd marker).StaysInside := by
  intro text
  have inside := staysInside_ofWord .literal marker text
  exact fits_of_mem_extendUpTo inside (fun _ => isBoundary_of_mem_lineBreaks)
    text.isBoundary_byteLength fun span member => (inside span member).stop_le

theorem staysInside_delimited (opening closing : Text) (barriers : Text → List Nat) :
    (delimited opening closing barriers).StaysInside := by
  intro text span member
  rcases exists_of_mem_extendThrough member with
    ⟨first, firstMember, last, lastMember, behind, rfl⟩
  have firstFits := staysInside_ofWord .literal opening text first firstMember
  have lastFits := staysInside_ofWord .literal closing text last lastMember
  have ordered : first.start ≤ last.stop :=
    calc first.start ≤ first.stop := firstFits.ordered
      _ ≤ last.start := behind
      _ ≤ last.stop := lastFits.ordered
  exact ⟨ordered, firstFits.startsAtBoundary, lastFits.stopsAtBoundary⟩

end Pattern

/-! ## Passes -/

namespace Pass

def StaysInside (pass : Pass) : Prop :=
  ∀ text, ∀ spans ∈ pass.occurrences text, ∀ span ∈ spans, span.Fits text

theorem staysInside_ofWords (words : List Text) (style : Style) :
    (ofWords words style).StaysInside := by
  intro text spans spansMember span member
  change spans ∈ WordRule.occurrences _ words text at spansMember
  rw [WordRule.occurrences_eq] at spansMember
  rcases List.mem_map.1 spansMember with ⟨word, _, rfl⟩
  exact ((WordRule.mem_occurrencesOf_iff _ word text span).1 member).fits

theorem staysInside_ofPattern {pattern : Option Pattern} (style : Style)
    (inside : ∀ found ∈ pattern, found.StaysInside) :
    (ofPattern pattern style).StaysInside := by
  intro text spans spansMember
  rw [ofPattern, Option.mem_toList] at spansMember
  rcases Option.map_eq_some_iff.1 spansMember with ⟨found, some, rfl⟩
  exact inside found some text

end Pass

theorem Grammar.staysInside_passes (grammar : Grammar) :
    ∀ pass ∈ grammar.passes, pass.StaysInside := by
  simp only [passes, List.forall_mem_cons, List.not_mem_nil, false_imp_iff, implies_true,
    and_true]
  refine ⟨Pass.staysInside_ofWords _ _, Pass.staysInside_ofWords _ _,
    Pass.staysInside_ofPattern _ ?_, Pass.staysInside_ofPattern _ ?_,
    Pass.staysInside_ofPattern _ ?_⟩
  · intro found some
    rcases Option.map_eq_some_iff.1 some with ⟨marker, _, rfl⟩
    exact Pattern.staysInside_toLineEnd marker
  · intro found some
    rcases Option.map_eq_some_iff.1 some with ⟨markers, _, rfl⟩
    exact Pattern.staysInside_delimited markers.1 markers.2 _
  · intro found some
    rcases Option.map_eq_some_iff.1 some with ⟨delimiter, _, rfl⟩
    exact Pattern.staysInside_delimited delimiter delimiter _

end LiveEditor
