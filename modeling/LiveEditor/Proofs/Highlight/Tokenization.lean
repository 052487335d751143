import LiveEditor.Proofs.Highlight.TokenRule
import LiveEditor.Proofs.Style.Runs
import LiveEditor.Proofs.Text.Boundary

/-! # The tokens of a text

A tokenization cuts a text between characters into pieces that are not empty
and leave no gap, and each piece is a token by the first rule that applies at
its start.  Every text has exactly one, and the scan finds it.  An offset of
the text therefore lies in one token, whose kind alone decides the style there.
-/

namespace LiveEditor

namespace Token

open Text (byteLength)

def run (token : Token) : StyledRange :=
  ⟨token.span, token.kind.style?.getD .plain⟩

structure Tokenizes (lexicon : Lexicon) (text : Text) (tokens : List Token) : Prop where
  tiles : Tiles 0 text.byteLength (tokens.map run)
  boundaries : ∀ token ∈ tokens,
    text.isBoundary token.span.start = true ∧ text.isBoundary token.span.stop = true
  obeys : ∀ token ∈ tokens, ∀ before piece after, text = before ++ piece ++ after →
    token.span = ⟨byteLength before, byteLength (before ++ piece)⟩ →
    Obeys lexicon token.kind piece after

/-! ## Tokens one after another -/

inductive Consecutive (lexicon : Lexicon) : (start : Nat) → Text → List Token → Prop
  | nil {start : Nat} : Consecutive lexicon start [] []
  | cons {start : Nat} {kind : TokenKind} {piece after : Text} {tokens : List Token}
      (obeys : Obeys lexicon kind piece after)
      (further : Consecutive lexicon (start + byteLength piece) after tokens) :
      Consecutive lexicon start (piece ++ after)
        (⟨⟨start, start + byteLength piece⟩, kind⟩ :: tokens)

theorem scanFrom_skip (lexicon : Lexicon) (offset : Nat) (passed text : Text) :
    scanFrom lexicon offset passed.length (passed ++ text) =
      scanFrom lexicon (offset + byteLength passed) 0 text := by
  induction passed generalizing offset with
  | nil => rfl
  | cons character passed hypothesis =>
      rw [List.length_cons, List.cons_append, scanFrom, hypothesis, Text.byteLength_cons,
        Nat.add_assoc]

theorem scanFrom_append {lexicon : Lexicon} {kind : TokenKind} {piece after : Text}
    (obeys : Obeys lexicon kind piece after) (start : Nat) :
    scanFrom lexicon start 0 (piece ++ after) =
      ⟨⟨start, start + byteLength piece⟩, kind⟩ ::
        scanFrom lexicon (start + byteLength piece) 0 after := by
  cases piece with
  | nil => cases obeys
  | cons first more =>
      rw [List.cons_append, scanFrom, obeys_iff.1 obeys]
      simp only [List.take_left, scanFrom_skip, Text.byteLength_cons, Nat.add_assoc]

theorem Consecutive.eq_scanFrom {lexicon : Lexicon} {start : Nat} {text : Text}
    {tokens : List Token} (consecutive : Consecutive lexicon start text tokens) :
    tokens = scanFrom lexicon start 0 text := by
  induction consecutive with
  | nil => rfl
  | cons obeys _ hypothesis => rw [scanFrom_append obeys, ← hypothesis]

theorem consecutive_scanFrom (lexicon : Lexicon) (start : Nat) (text : Text) :
    Consecutive lexicon start text (scanFrom lexicon start 0 text) := by
  -- What follows the first token is shorter than the text, but not by one character.
  induction length : text.length using Nat.strong_induction_on generalizing start text with
  | _ bound hypothesis =>
      cases text with
      | nil => exact .nil
      | cons first rest =>
          rcases exists_obeys lexicon first rest with ⟨kind, more, after, rfl, obeys⟩
          rw [← List.cons_append, scanFrom_append obeys]
          refine .cons obeys (hypothesis after.length ?_ _ after rfl)
          rw [← length, List.length_cons, List.length_append]
          omega

/-! ## Consecutive tokens are tokenizations -/

theorem Obeys.byteLength_pos {lexicon : Lexicon} {kind : TokenKind} {piece after : Text}
    (obeys : Obeys lexicon kind piece after) : 0 < byteLength piece := by
  cases piece with
  | nil => cases obeys
  | cons first more => exact Nat.add_pos_left first.utf8Size_pos _

/-- A token is the piece between two parts of a text that begins at `start`. -/
def IsPiece (lexicon : Lexicon) (start : Nat) (text : Text) (token : Token) : Prop :=
  ∃ before piece after, text = before ++ piece ++ after ∧
    token.span = ⟨start + byteLength before, start + byteLength (before ++ piece)⟩ ∧
    Obeys lexicon token.kind piece after

/-- A token behind the front of a text is a token of what follows. -/
theorem IsPiece.behind {lexicon : Lexicon} {start : Nat} {front text : Text} {token : Token}
    (isPiece : IsPiece lexicon start (front ++ text) token)
    (behind : start + byteLength front ≤ token.span.start) :
    IsPiece lexicon (start + byteLength front) text token := by
  rcases isPiece with ⟨before, piece, after, whole, span, obeys⟩
  simp only [span] at behind
  rw [List.append_assoc] at whole
  rcases Text.exists_append_of_byteLength_le whole (by omega) with ⟨gap, rfl, rest⟩
  refine ⟨gap, piece, after, by rw [rest, List.append_assoc], ?_, obeys⟩
  rw [span]
  simp [Nat.add_assoc]

theorem Consecutive.tiles {lexicon : Lexicon} {start : Nat} {text : Text}
    {tokens : List Token} (consecutive : Consecutive lexicon start text tokens) :
    Tiles start (start + byteLength text) (tokens.map run) := by
  induction consecutive with
  | nil => rfl
  | @cons start kind piece after tokens obeys _ hypothesis =>
      refine ⟨rfl, Nat.lt_add_of_pos_right obeys.byteLength_pos, ?_⟩
      rw [Text.byteLength_append, ← Nat.add_assoc]
      exact hypothesis

theorem Consecutive.isPiece {lexicon : Lexicon} {start : Nat} {text : Text}
    {tokens : List Token} (consecutive : Consecutive lexicon start text tokens) :
    ∀ token ∈ tokens, IsPiece lexicon start text token := by
  induction consecutive with
  | nil => simp
  | @cons start kind piece after tokens obeys _ hypothesis =>
      intro token member
      rcases List.mem_cons.1 member with rfl | member
      · exact ⟨[], piece, after, rfl, rfl, obeys⟩
      · rcases hypothesis token member with ⟨before, later, rest, rfl, span, laterObeys⟩
        refine ⟨piece ++ before, later, rest, by simp, ?_, laterObeys⟩
        rw [span]
        simp [Nat.add_assoc]

theorem consecutive_of_isPiece {lexicon : Lexicon} {start : Nat} {text : Text}
    {tokens : List Token} (tiles : Tiles start (start + byteLength text) (tokens.map run))
    (pieces : ∀ token ∈ tokens, IsPiece lexicon start text token) :
    Consecutive lexicon start text tokens := by
  induction tokens generalizing start text with
  | nil =>
      have empty : byteLength text = 0 := Nat.left_eq_add.1 tiles
      rw [Text.byteLength_eq_zero_iff.1 empty]
      exact .nil
  | cons token rest hypothesis =>
      rcases token with ⟨span, kind⟩
      rcases tiles with ⟨begins, _, restTiles⟩
      rcases pieces _ List.mem_cons_self with ⟨before, piece, after, rfl, place, obeys⟩
      simp only [run] at begins place restTiles
      subst place
      -- The first token begins where the text does, so nothing is before it.
      rw [Nat.add_eq_left, Text.byteLength_eq_zero_iff] at begins
      subst begins
      rw [List.nil_append] at restTiles pieces ⊢
      have same : start + byteLength (piece ++ after) =
          start + byteLength piece + byteLength after := by
        rw [Text.byteLength_append, Nat.add_assoc]
      rw [same] at restTiles
      refine .cons obeys (hypothesis restTiles fun token member => ?_)
      have later := restTiles.stop_le_of_mem token.run (List.mem_map_of_mem member)
      exact (pieces token (List.mem_cons_of_mem _ member)).behind later.1

theorem tokenizes_iff {lexicon : Lexicon} {text : Text} {tokens : List Token} :
    Tokenizes lexicon text tokens ↔ Consecutive lexicon 0 text tokens := by
  constructor
  · intro tokenizes
    refine consecutive_of_isPiece (by rw [Nat.zero_add]; exact tokenizes.tiles) ?_
    intro token member
    have ordered : token.span.start ≤ token.span.stop :=
      Nat.le_of_lt (tokenizes.tiles.nonempty_of_mem token.run (List.mem_map_of_mem member))
    rcases tokenizes.boundaries token member with ⟨startBoundary, stopBoundary⟩
    rcases Text.exists_pieces_of_isBoundary startBoundary stopBoundary ordered with
      ⟨before, piece, after, whole, start, stop⟩
    have span : token.span = ⟨byteLength before, byteLength (before ++ piece)⟩ := by
      rw [start, stop]
    refine ⟨before, piece, after, whole, by rw [Nat.zero_add, Nat.zero_add, span], ?_⟩
    exact tokenizes.obeys token member before piece after whole span
  · intro consecutive
    have pieces := consecutive.isPiece
    simp only [IsPiece, Nat.zero_add] at pieces
    refine ⟨by simpa using consecutive.tiles, ?_, ?_⟩
    · intro token member
      rcases pieces token member with ⟨before, piece, after, rfl, span, _⟩
      rw [span]
      refine ⟨?_, Text.isBoundary_append (before ++ piece) after⟩
      rw [List.append_assoc]
      exact Text.isBoundary_append before (piece ++ after)
    · intro token member before piece after whole span
      rcases pieces token member with ⟨front, covered, back, split, sameSpan, obeys⟩
      rw [span, Span.mk.injEq] at sameSpan
      rcases Text.append_inj_of_byteLength (whole.symm.trans split) sameSpan.2 with
        ⟨together, rfl⟩
      rcases Text.append_inj_of_byteLength together sameSpan.1 with ⟨_, rfl⟩
      exact obeys

theorem tokenizes_iff_eq_scan {lexicon : Lexicon} {text : Text} {tokens : List Token} :
    Tokenizes lexicon text tokens ↔ tokens = scan lexicon text := by
  rw [tokenizes_iff]
  constructor
  · exact Consecutive.eq_scanFrom
  · rintro rfl
    exact consecutive_scanFrom lexicon 0 text

theorem tiles_scan (lexicon : Lexicon) (text : Text) :
    Tiles 0 text.byteLength ((scan lexicon text).map run) :=
  (tokenizes_iff_eq_scan.2 rfl).tiles

theorem within_of_mem_scan {lexicon : Lexicon} {text : Text} {token : Token}
    (member : token ∈ scan lexicon text) : token.span.within text.byteLength = true := by
  have tiles := tiles_scan lexicon text
  have runMember : token.run ∈ (scan lexicon text).map run := List.mem_map_of_mem member
  have nonempty := tiles.nonempty_of_mem token.run runMember
  have inside := (tiles.stop_le_of_mem token.run runMember).2
  exact Span.within_iff.2 ⟨Nat.le_of_lt nonempty, inside⟩

/-! ## The style at an offset -/

theorem filter_contains_eq_singleton {start stop offset : Nat} {tokens : List Token}
    (tiles : Tiles start stop (tokens.map run)) {token : Token} (member : token ∈ tokens)
    (inside : token.span.contains offset = true) :
    (tokens.filter fun other => other.span.contains offset) = [token] := by
  have runs := tiles.filter_contains (List.mem_map_of_mem member) inside
  rw [List.filter_map] at runs
  rcases List.map_eq_singleton_iff.1 runs with ⟨only, alone, _⟩
  have found : token ∈ tokens.filter fun other => other.span.contains offset :=
    List.mem_filter.2 ⟨member, inside⟩
  change tokens.filter (fun other => other.span.contains offset) = [only] at alone
  rw [alone, List.mem_singleton] at found
  rw [alone, found]

/-- No token is dropped when its style is applied, so the styles at an offset are those
of the tokens that the offset lies in. -/
theorem styleAt_ofTokens (lexicon : Lexicon) (text : Text) (offset : Nat) :
    (StyledText.ofTokens lexicon text).styleAt offset =
      (((scan lexicon text).filter fun token => token.span.contains offset).filterMap
        styledRange?).foldl (fun lower range => lower.overlay range.style) .plain := by
  have kept : ((scan lexicon text).filterMap styledRange?).filter
      (fun range => range.span.within text.byteLength) =
        (scan lexicon text).filterMap styledRange? := by
    refine List.filter_eq_self.2 fun range member => ?_
    rcases List.mem_filterMap.1 member with ⟨token, tokenMember, styled⟩
    rcases Option.map_eq_some_iff.1 styled with ⟨style, _, rfl⟩
    exact within_of_mem_scan tokenMember
  have ranges : (StyledText.ofTokens lexicon text).ranges =
      (scan lexicon text).filterMap styledRange? := by
    simpa [StyledText.ofTokens, StyledText.withStyles, StyledText.plain] using kept
  rw [StyledText.styleAt, ranges, List.filter_filterMap, List.filterMap_filter]
  congr 2
  funext token
  rw [styledRange?]
  cases style : token.kind.style? with
  | none => simp
  | some style => simp [Option.filter]

/-- The scan finds the only tokenization of a text.  Each offset lies in one of its tokens,
and shows the style of that token's kind, or no style when the kind has none. -/
theorem scan_characterized (lexicon : Lexicon) (text : Text) :
    (∀ tokens, Tokenizes lexicon text tokens ↔ tokens = scan lexicon text) ∧
    (∀ offset, offset < text.byteLength →
      ∃! token, token ∈ scan lexicon text ∧ token.span.contains offset = true) ∧
    (∀ offset, ∀ token ∈ scan lexicon text, token.span.contains offset = true →
      (StyledText.ofTokens lexicon text).styleAt offset =
        token.kind.style?.getD .plain) ∧
    ∀ offset, text.byteLength ≤ offset →
      (StyledText.ofTokens lexicon text).styleAt offset = .plain := by
  have tiles := tiles_scan lexicon text
  refine ⟨fun _ => tokenizes_iff_eq_scan, ?_, ?_, ?_⟩
  · intro offset inside
    rcases tiles.exists_mem_contains (Nat.zero_le offset) inside with ⟨shown, member, contains⟩
    rcases List.mem_map.1 member with ⟨token, tokenMember, rfl⟩
    refine ⟨token, ⟨tokenMember, contains⟩, ?_⟩
    rintro other ⟨otherMember, otherContains⟩
    have found : other ∈ (scan lexicon text).filter fun token => token.span.contains offset :=
      List.mem_filter.2 ⟨otherMember, otherContains⟩
    rw [filter_contains_eq_singleton tiles tokenMember contains] at found
    exact List.mem_singleton.1 found
  · intro offset token member contains
    rw [styleAt_ofTokens, filter_contains_eq_singleton tiles member contains]
    cases style : token.kind.style? with
    | none => simp [styledRange?, style]
    | some style => simp [styledRange?, style]
  · intro offset behind
    have none : ((scan lexicon text).filter fun token => token.span.contains offset) = [] := by
      refine List.filter_eq_nil_iff.2 fun token member => ?_
      have inside := (Span.within_iff.1 (within_of_mem_scan member)).2
      rw [Span.contains_iff]
      omega
    rw [styleAt_ofTokens, none]
    rfl

end Token

end LiveEditor
