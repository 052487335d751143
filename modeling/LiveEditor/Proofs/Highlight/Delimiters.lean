import LiveEditor.Proofs.Highlight.Feature

/-! # Comments and strings

Markers are any texts that are not empty.  They may overlap themselves or each other,
and the marker that closes a comment may be the one that opens it.  In each of these
passes the first opening that no earlier span overlaps begins the next span, as soon
as it has an end; so an opening outside of all spans is one that has none.
-/

namespace LiveEditor

/-- The spans that a marker opens, in order and apart from each other.  Every opening
that has an end overlaps one of them. -/
structure Text.Delimits (text marker : Text) (ends : (opening : Span) → (stop : Nat) → Prop)
    (ended : (opening : Span) → Prop) (spans : List Span) : Prop where
  disjoint : spans.Pairwise fun one other => one.stop ≤ other.start
  nonempty : ∀ span ∈ spans, span.start < span.stop
  opens : ∀ span ∈ spans, text.Opens marker ends span
  complete : ∀ opening, text.HasAt marker opening → ended opening →
    ∃ span ∈ spans, opening.Overlaps span

def Pass.spans (pass : Pass) (text : Text) : List Span :=
  (pass.ranges text).map StyledRange.span

theorem Pass.spans_ofPattern (pattern : Option Pattern) (style : Style) (text : Text) :
    (ofPattern pattern style).spans text =
      (pattern.map fun found => found.allMatches text).getD [] := by
  cases pattern with
  | none => rfl
  | some found =>
      simp only [spans, ranges, ofPattern, Option.map_some, Option.toList_some,
        List.flatMap_singleton, List.map_map, Option.getD_some]
      exact List.map_id _

namespace Span

theorem Unobstructed.delimits {text marker : Text} {ends : Span → Nat → Prop}
    {ended : Span → Prop} {spans : List Span}
    (unobstructed : Unobstructed (text.Opens marker ends) 0 spans) (filled : marker ≠ [])
    (found : ∀ opening, text.HasAt marker opening → ended opening →
      ∃ stop, opening.stop ≤ stop ∧ ends opening stop) :
    text.Delimits marker ends ended spans where
  disjoint := unobstructed.disjoint
  nonempty := unobstructed.nonempty
  opens := fun span member => ((unobstructed.mem_iff span).1 member).1.1
  complete := by
    intro opening stands isEnded
    rcases found opening stands isEnded with ⟨stop, behind, stops⟩
    have nonempty := stands.nonempty filled
    have opens : text.Opens marker ends ⟨opening.start, stop⟩ := ⟨opening, stands, rfl, stops⟩
    rcases unobstructed.exists_contains_start opens (Nat.zero_le _)
      (Nat.lt_of_lt_of_le nonempty behind) with ⟨span, member, contains⟩
    exact ⟨span, member, overlaps_of_contains_start nonempty contains⟩

end Span

namespace Grammar

/-! ## The three passes -/

def lineComments (grammar : Grammar) : Pass :=
  .ofPattern (grammar.lineComment?.map lineCommentPattern) Palette.grammarComment

def blockComments (grammar : Grammar) : Pass :=
  .ofPattern
    (grammar.blockComment?.map fun markers => blockCommentPattern markers.1 markers.2)
    Palette.grammarComment

def strings (grammar : Grammar) : Pass :=
  .ofPattern (grammar.stringDelimiter.map stringPattern) Palette.grammarString

variable {grammar : Grammar}

theorem delimits_lineComments {marker : Text}
    (found : grammar.lineComment? = some marker) (text : Text) :
    text.Delimits marker text.EndsLine (fun _ => True) (grammar.lineComments.spans text) := by
  have marked := ne_nil_of_lineComment? found
  have unobstructed : Span.Unobstructed (text.Opens marker text.EndsLine) 0
      ((lineCommentPattern marker).allMatches text) :=
    @Feature.unobstructed_allMatches (.lineComment marker) marked text
  rw [lineComments, Pass.spans_ofPattern, found]
  refine unobstructed.delimits marked fun opening stands _ => ?_
  have ends := (Pattern.endsLine_iff stands.stop_le).2 rfl
  exact ⟨_, ends.le, ends⟩

theorem delimits_blockComments {opening closing : Text}
    (found : grammar.blockComment? = some (opening, closing)) (text : Text) :
    text.Delimits opening (text.ClosesAt closing fun _ => False)
      (fun first => ∃ last, text.ClosedBy closing (fun _ => False) first last)
      (grammar.blockComments.spans text) := by
  have marked := ne_nil_of_blockComment? found
  have unobstructed : Span.Unobstructed
      (text.Opens opening (text.ClosesAt closing fun _ => False)) 0
      ((blockCommentPattern opening closing).allMatches text) :=
    @Feature.unobstructed_allMatches (.blockComment opening closing) marked text
  rw [blockComments, Pass.spans_ofPattern, found]
  exact unobstructed.delimits marked.1 fun _ _ ⟨_, closed⟩ => closed.exists_closesAt

theorem delimits_strings {delimiter : Text}
    (found : grammar.stringDelimiter = some delimiter) (text : Text) :
    text.Delimits delimiter (text.ClosesAt delimiter text.BreaksAt)
      (fun first => ∃ last, text.ClosedBy delimiter text.BreaksAt first last)
      (grammar.strings.spans text) := by
  have marked := ne_nil_of_stringDelimiter found
  have unobstructed : Span.Unobstructed
      (text.Opens delimiter (text.ClosesAt delimiter text.BreaksAt)) 0
      ((stringPattern delimiter).allMatches text) :=
    @Feature.unobstructed_allMatches (.string delimiter) marked text
  rw [strings, Pass.spans_ofPattern, found]
  exact unobstructed.delimits marked fun _ _ ⟨_, closed⟩ => closed.exists_closesAt

/-! ## Delimited passes -/

/-- A line comment goes on to the end of its line, and no marker is outside of all of
them.  A block comment or string goes on through the first closing marker behind its
opening, a string with no line break before that; an opening outside of all of them
has none.  Without its markers a pass gives nothing. -/
theorem passes_delimit (grammar : Grammar) (text : Text) :
    grammar.passes.drop 2 = [grammar.lineComments, grammar.blockComments, grammar.strings] ∧
    (∀ marker, grammar.lineComment? = some marker →
      text.Delimits marker text.EndsLine (fun _ => True) (grammar.lineComments.spans text)) ∧
    (∀ opening closing, grammar.blockComment? = some (opening, closing) →
      text.Delimits opening (text.ClosesAt closing fun _ => False)
        (fun first => ∃ last, text.ClosedBy closing (fun _ => False) first last)
        (grammar.blockComments.spans text)) ∧
    (∀ delimiter, grammar.stringDelimiter = some delimiter →
      text.Delimits delimiter (text.ClosesAt delimiter text.BreaksAt)
        (fun first => ∃ last, text.ClosedBy delimiter text.BreaksAt first last)
        (grammar.strings.spans text)) ∧
    (grammar.lineComment? = none → grammar.lineComments.spans text = []) ∧
    (grammar.blockComment? = none → grammar.blockComments.spans text = []) ∧
    (grammar.stringDelimiter = none → grammar.strings.spans text = []) := by
  refine ⟨rfl, fun _ found => delimits_lineComments found text,
    fun _ _ found => delimits_blockComments found text,
    fun _ found => delimits_strings found text, ?_, ?_, ?_⟩
  · intro absent
    rw [lineComments, Pass.spans_ofPattern, absent]
    rfl
  · intro absent
    rw [blockComments, Pass.spans_ofPattern, absent]
    rfl
  · intro absent
    rw [strings, Pass.spans_ofPattern, absent]
    rfl

/-- The markers of a comment share a character, and the string delimiter overlaps itself.
Behind the first comment and the first string there are openings without an end. -/
theorem passes_delimit_sharedCharacters :
    let document : Text := ("\x7b\"comments\":\x7b\"line\":\"#\",\"blockStart\":\"/*\"," ++
      "\"blockEnd\":\"*/\"\x7d,\"strings\":\"''\"\x7d").toList
    let text : Text := "/*/*/ '''x''#\n# ''y\n''/*/".toList
    ∃ grammar, ofJson document = .ok grammar ∧
      grammar.lineComments.spans text = [⟨12, 13⟩, ⟨14, 19⟩] ∧
      grammar.blockComments.spans text = [⟨0, 5⟩] ∧
      grammar.strings.spans text = [⟨6, 12⟩] ∧
      text.Delimits "''".toList (text.ClosesAt "''".toList text.BreaksAt)
        (fun first => ∃ last, text.ClosedBy "''".toList text.BreaksAt first last)
        [⟨6, 12⟩] := by
  intro document text
  let markers : CommentMarkers :=
    { line := some "#".toList, blockStart := some "/*".toList, blockEnd := some "*/".toList }
  let grammar : Grammar := { comments := some markers, stringDelimiter := some "''".toList }
  have read : ofJson document = .ok grammar := rfl
  have strings : grammar.strings.spans text = [⟨6, 12⟩] := by decide +kernel
  refine ⟨grammar, read, by decide +kernel, by decide +kernel, strings, ?_⟩
  have ⟨_, _, _, delimits, _⟩ := passes_delimit grammar text
  rw [← strings]
  exact delimits _ rfl

end Grammar

end LiveEditor
