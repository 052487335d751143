import LiveEditor.Proofs.Highlight.Overlay
import LiveEditor.Proofs.Highlight.Tokenization
import LiveEditor.Proofs.Search.Extent
import LiveEditor.Session.Basic

/-! # What is drawn

Tokens, the passes of a grammar, search matches and lines with errors all give
ranges that fit the text, so none of them is dropped, and neither a range nor a
run of the rendered document cuts a character.
-/

namespace LiveEditor

/-- A range lies in a text, begins and ends between characters, is kept when it
is applied, and cuts a piece out of the text. -/
structure StyledRange.Usable (range : StyledRange) (text : Text) : Prop where
  ordered : range.span.start ≤ range.span.stop
  inside : range.span.stop ≤ text.byteLength
  startsAtBoundary : text.isBoundary range.span.start = true
  stopsAtBoundary : text.isBoundary range.span.stop = true
  kept : ∀ base : StyledText, base.text = text →
    (base.addStyle range).1 = true ∧ (base.addStyle range).2.ranges = base.ranges ++ [range]
  slices : ∃ piece, text.slice range.span = .ok piece

theorem Text.Accepts.usable {text : Text} {ranges : List StyledRange}
    (accepted : text.Accepts ranges) : ∀ range ∈ ranges, range.Usable text := by
  intro range member
  have fits := accepted range member
  refine ⟨fits.ordered, fits.stop_le, fits.startsAtBoundary, fits.stopsAtBoundary, ?_,
    fits.exists_slice⟩
  rintro base rfl
  have alone : base.text.Accepts [range] := fun _ only => List.mem_singleton.1 only ▸ fits
  exact ⟨fits.within, StyledText.ranges_withStyles alone⟩

/-! ## Layers of highlighting -/

theorem Token.accepts_scan (lexicon : Lexicon) (text : Text) :
    text.Accepts ((scan lexicon text).filterMap styledRange?) := by
  intro range member
  rcases List.mem_filterMap.1 member with ⟨token, tokenMember, styled⟩
  rcases Option.map_eq_some_iff.1 styled with ⟨style, _, rfl⟩
  have boundaries := (tokenizes_iff_eq_scan.2 rfl).boundaries token tokenMember
  have within := Span.within_iff.1 (within_of_mem_scan tokenMember)
  exact ⟨within.1, boundaries.1, boundaries.2⟩

theorem Pass.StaysInside.accepts_ranges {pass : Pass} (inside : pass.StaysInside)
    (text : Text) : text.Accepts (pass.ranges text) := by
  intro range member
  rcases List.mem_flatMap.1 member with ⟨spans, spansMember, chosen⟩
  rcases List.mem_map.1 chosen with ⟨span, spanMember, rfl⟩
  exact inside text spans spansMember span ((Span.chooseFrom_sublist 0 spans).subset spanMember)

theorem Grammar.accepts_ranges (grammar : Grammar) (text : Text) :
    text.Accepts (grammar.ranges text) := by
  intro range member
  rcases List.mem_flatMap.1 member with ⟨pass, passMember, found⟩
  exact (grammar.staysInside_passes pass passMember).accepts_ranges text range found

namespace StyledText

theorem ranges_ofTokens (lexicon : Lexicon) (text : Text) :
    (ofTokens lexicon text).ranges =
      (Token.scan lexicon text).filterMap Token.styledRange? := by
  have accepted : (plain text).text.Accepts _ := Token.accepts_scan lexicon text
  rw [ofTokens, ranges_withStyles accepted, plain, List.nil_append]

theorem ranges_ofGrammar (grammar : Grammar) (text : Text) :
    (ofGrammar (some grammar) text).ranges = grammar.ranges text := by
  have accepted : (plain text).text.Accepts _ := grammar.accepts_ranges text
  rw [ofGrammar, ranges_withStyles accepted, plain, List.nil_append]

theorem ranges_overlaySearch (base : StyledText) (query : Query) :
    (base.overlaySearch query).ranges = base.ranges ++ searchRanges query base.text :=
  ranges_withStyles (accepts_searchRanges query base.text)

theorem ranges_overlayErrors (base : StyledText) (errors : ErrorLines) :
    (base.overlayErrors errors).ranges = base.ranges ++ errorRanges errors base.text :=
  ranges_withStyles (accepts_errorRanges errors base.text)

theorem accepts_compose {base : StyledText} (accepted : base.text.Accepts base.ranges)
    (query : Query) (errors : ErrorLines) :
    base.text.Accepts (base.compose query errors).ranges := by
  rw [compose, ranges_overlayErrors, ranges_overlaySearch]
  exact (accepted.append (accepts_searchRanges query base.text)).append
    (accepts_errorRanges errors base.text)

end StyledText

/-! ## The rendered document -/

namespace Session

theorem text_render (session : Session) : session.render.text = session.workbench.text := by
  rw [render]
  cases session.workbench.language with
  | builtIn => rfl
  | configured _ _ _ => cases session.workbench.grammar <;> rfl

theorem accepts_render (session : Session) :
    session.render.text.Accepts session.render.ranges := by
  rw [render]
  cases session.workbench.language with
  | builtIn =>
      refine StyledText.accepts_compose ?_ _ _
      rw [StyledText.ranges_ofTokens]
      exact Token.accepts_scan _ _
  | configured _ _ _ =>
      refine StyledText.accepts_compose ?_ _ _
      cases session.workbench.grammar with
      | none => exact fun _ member => nomatch member
      | some grammar =>
          rw [StyledText.ranges_ofGrammar]
          exact grammar.accepts_ranges _

theorem exists_ranges_render (session : Session) :
    ∃ below, session.render.ranges =
      below ++ StyledText.errorRanges session.errors session.workbench.text := by
  have drawn := session.text_render
  rw [render] at drawn ⊢
  rw [StyledText.compose, StyledText.ranges_overlayErrors]
  exact ⟨_, congrArg (_ ++ StyledText.errorRanges _ ·) drawn⟩

/-- All layers of a document consist of usable ranges, and none is dropped; nor does
a range or a run of what is rendered cut a character. -/
theorem layers_usable :
    (∀ (lexicon : Lexicon) (text : Text),
      let layer := (Token.scan lexicon text).filterMap Token.styledRange?
      (∀ range ∈ layer, range.Usable text) ∧
        (StyledText.ofTokens lexicon text).ranges = layer) ∧
    (∀ (grammar : Grammar) (text : Text),
      (∀ pass ∈ grammar.passes, ∀ range ∈ pass.ranges text, range.Usable text) ∧
        (StyledText.ofGrammar (some grammar) text).ranges =
          grammar.passes.flatMap fun pass => pass.ranges text) ∧
    (∀ (base : StyledText) (query : Query),
      let layer := StyledText.searchRanges query base.text
      (∀ range ∈ layer, range.Usable base.text) ∧
        (base.overlaySearch query).ranges = base.ranges ++ layer) ∧
    (∀ (base : StyledText) (errors : ErrorLines),
      let layer := StyledText.errorRanges errors base.text
      (∀ range ∈ layer, range.Usable base.text) ∧
        (base.overlayErrors errors).ranges = base.ranges ++ layer) ∧
    ∀ session : Session, session.render.text = session.workbench.text ∧
      (∀ range ∈ session.render.ranges, range.Usable session.workbench.text) ∧
      ∀ run ∈ session.render.runs, run.Usable session.workbench.text := by
  refine ⟨fun lexicon text => ?_, fun grammar text => ?_, fun base query => ?_,
    fun base errors => ?_, fun session => ?_⟩
  · exact ⟨(Token.accepts_scan lexicon text).usable, StyledText.ranges_ofTokens lexicon text⟩
  · refine ⟨fun pass member => ?_, StyledText.ranges_ofGrammar grammar text⟩
    exact ((grammar.staysInside_passes pass member).accepts_ranges text).usable
  · exact ⟨(StyledText.accepts_searchRanges query base.text).usable,
      StyledText.ranges_overlaySearch base query⟩
  · exact ⟨(StyledText.accepts_errorRanges errors base.text).usable,
      StyledText.ranges_overlayErrors base errors⟩
  · have accepted := session.accepts_render
    have runs := StyledText.accepts_runs accepted
    rw [text_render] at accepted runs
    exact ⟨session.text_render, accepted.usable, runs.usable⟩

end Session

end LiveEditor
