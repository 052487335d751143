import LiveEditor.Proofs.Highlight.Tokenization

/-! # How far a token looks

The scan of a text starts afresh at the end of each token, so the tokens from
there on are those of the rest alone.  To end a token it looks at one character
behind it, and what follows that one makes no difference.  A token that ends
strictly before an offset therefore stays as it is when the text is changed from
that offset on.
-/

namespace LiveEditor

namespace Text

/-- A marker that stands in a piece is the first one whatever follows the piece. -/
theorem EndsThrough.of_append {marker piece after : Text}
    (ends : EndsThrough marker piece after) (further : after ≠ []) (other : Text) :
    EndsThrough marker piece other := by
  rcases ends with ⟨body, rfl, least⟩ | ⟨atEnd, _⟩
  · refine .inl ⟨body, rfl, fun front back occurs => Nat.le_of_not_lt fun earlier => ?_⟩
    have inside : front ++ marker <+: body ++ marker := by
      refine List.prefix_of_prefix_length_le (occurs ▸ List.prefix_append _ back)
        (List.prefix_append (body ++ marker) other) ?_
      simp only [List.length_append]
      omega
    rcases inside with ⟨gap, whole⟩
    have first := least front (gap ++ after) (by rw [← whole, List.append_assoc])
    omega
  · exact absurd atEnd further

end Text

namespace Token

open Text (byteLength)

variable {lexicon : Lexicon}

def shift (token : Token) (distance : Nat) : Token :=
  ⟨token.span.shift distance, token.kind⟩

def IsTokenBoundary (lexicon : Lexicon) (text : Text) (offset : Nat) : Prop :=
  offset = 0 ∨
    ∃ token ∈ scan lexicon text, offset = token.span.start ∨ offset = token.span.stop

def endedBefore (lexicon : Lexicon) (offset : Nat) (text : Text) : List Token :=
  (scan lexicon text).filter (·.span.stop < offset)

/-! ## From a token boundary on -/

theorem scanFrom_shift (lexicon : Lexicon) (offset distance skip : Nat) (text : Text) :
    scanFrom lexicon (offset + distance) skip text =
      (scanFrom lexicon offset skip text).map (·.shift distance) := by
  induction text generalizing offset skip with
  | nil => cases skip <;> rfl
  | cons character rest induction =>
      cases skip with
      | zero =>
          have next : offset + distance + character.utf8Size =
              offset + character.utf8Size + distance := Nat.add_right_comm _ _ _
          have stop : ∀ length, offset + character.utf8Size + distance + length =
              offset + character.utf8Size + length + distance := fun _ =>
            Nat.add_right_comm _ _ _
          simp only [scanFrom, List.map_cons, next, stop, induction, shift, Span.shift]
      | succ skip =>
          rw [scanFrom, scanFrom, Nat.add_right_comm, induction]

theorem Consecutive.start_le_of_mem {start : Nat} {text : Text} {tokens : List Token}
    (consecutive : Consecutive lexicon start text tokens) {token : Token}
    (member : token ∈ tokens) : start ≤ token.span.start ∧ start ≤ token.span.stop := by
  rcases consecutive.isPiece token member with ⟨before, piece, _, _, span, _⟩
  rw [span]
  exact ⟨Nat.le_add_right _ _, Nat.le_add_right _ _⟩

theorem Consecutive.exists_rest {start offset : Nat} {text : Text} {tokens : List Token}
    (consecutive : Consecutive lexicon start text tokens)
    (boundary : offset = start ∨
      ∃ token ∈ tokens, offset = token.span.start ∨ offset = token.span.stop) :
    ∃ front back, text = front ++ back ∧ offset = start + byteLength front ∧
      tokens.filter (offset ≤ ·.span.start) = scanFrom lexicon offset 0 back := by
  induction consecutive with
  | @nil start =>
      rcases boundary with rfl | ⟨token, member, _⟩
      · exact ⟨[], [], rfl, rfl, rfl⟩
      · cases member
  | @cons start kind piece after tokens obeys further induction =>
      have whole : Consecutive lexicon start (piece ++ after) _ := .cons obeys further
      by_cases here : offset = start
      · refine ⟨[], piece ++ after, rfl, here, ?_⟩
        rw [here, ← whole.eq_scanFrom, List.filter_eq_self]
        intro token member
        simpa using (whole.start_le_of_mem member).1
      · have later : offset = start + byteLength piece ∨
            ∃ token ∈ tokens, offset = token.span.start ∨ offset = token.span.stop := by
          rcases boundary with atStart | ⟨token, member, ends⟩
          · exact absurd atStart here
          · rcases List.mem_cons.1 member with rfl | member
            · exact .inl (ends.resolve_left here)
            · exact .inr ⟨token, member, ends⟩
        rcases induction later with ⟨front, back, rest, place, tokensBehind⟩
        refine ⟨piece ++ front, back, by rw [rest, List.append_assoc], ?_, ?_⟩
        · rw [place, Text.byteLength_append, Nat.add_assoc]
        · have positive := obeys.byteLength_pos
          have passed : ¬ offset ≤ start := by omega
          rw [List.filter_cons_of_neg (by simpa using passed), tokensBehind]

/-! ## One character ahead -/

/-- What a token is, and where it ends, is settled by the character behind it. -/
theorem Obeys.of_next {kind : TokenKind} {piece rest : Text} {next : Char}
    (obeys : Obeys lexicon kind piece (next :: rest)) (other : Text) :
    Obeys lexicon kind piece (next :: other) := by
  cases piece with
  | nil => cases obeys
  | cons first more =>
      have ahead : (more ++ next :: other).head? = (more ++ next :: rest).head? := by
        cases more <;> rfl
      have further : next :: rest ≠ [] := List.cons_ne_nil next rest
      have run : ∀ {test : Char → Bool} {piece : Text},
          Text.IsMaximalRun test piece (next :: rest) →
            Text.IsMaximalRun test piece (next :: other) :=
        fun run => ⟨run.passes, run.stops⟩
      simp only [Obeys, pair_isPrefix_iff, ahead] at obeys ⊢
      split_ifs at obeys ⊢
      · rcases obeys with ⟨isComment, body, opened, ends⟩
        exact ⟨isComment, body, opened, ends.of_append further _⟩
      · exact obeys.imp_right run
      · rcases obeys with ⟨isString, body, last, whole, inside, ends⟩
        have closed : last = ['"'] := ends.resolve_right fun atEnd => further atEnd.1
        exact ⟨isString, body, last, whole, inside, .inl closed⟩
      · exact obeys.imp_right run
      · exact obeys.imp_right run
      · exact obeys

/-- The first token of a text ends before the front of the text does. -/
def EndsInside (lexicon : Lexicon) (front rest : Text) : Prop :=
  ∃ kind piece next more, front = piece ++ next :: more ∧
    Obeys lexicon kind piece (next :: (more ++ rest))

theorem EndsInside.of_rest {front rest : Text} (inside : EndsInside lexicon front rest)
    (other : Text) : EndsInside lexicon front other := by
  rcases inside with ⟨kind, piece, next, more, whole, obeys⟩
  exact ⟨kind, piece, next, more, whole, obeys.of_next (more ++ other)⟩

theorem le_stop_of_not_endsInside {front rest : Text}
    (outside : ¬ EndsInside lexicon front rest) {start : Nat} {token : Token}
    (member : token ∈ scanFrom lexicon start 0 (front ++ rest)) :
    start + byteLength front ≤ token.span.stop := by
  cases text : front ++ rest with
  | nil =>
      rw [text] at member
      cases member
  | cons first behind =>
      rcases exists_obeys lexicon first behind with ⟨kind, more, after, rfl, obeys⟩
      rw [← List.cons_append] at text
      have long : byteLength front ≤ byteLength (first :: more) := by
        refine Nat.le_of_not_lt fun shorter => ?_
        rcases Text.exists_append_of_byteLength_le text.symm (Nat.le_of_lt shorter) with
          ⟨gap, longer, tail⟩
        cases gap with
        | nil =>
            rw [longer, List.append_nil] at shorter
            exact Nat.lt_irrefl _ shorter
        | cons next gap =>
            rw [tail, List.cons_append] at obeys
            exact outside ⟨kind, first :: more, next, gap, longer, obeys⟩
      rw [text, scanFrom_append obeys] at member
      rcases List.mem_cons.1 member with rfl | later
      · exact Nat.add_le_add_left long start
      · have behind := (consecutive_scanFrom lexicon _ after).start_le_of_mem later
        omega

theorem filter_scanFrom_of_not_endsInside {front rest : Text}
    (outside : ¬ EndsInside lexicon front rest) (start : Nat) :
    (scanFrom lexicon start 0 (front ++ rest)).filter
      (·.span.stop < start + byteLength front) = [] := by
  rw [List.filter_eq_nil_iff]
  intro token member
  simpa using le_stop_of_not_endsInside outside member

/-- Of the tokens of a text those that end strictly inside its front are the same whatever
follows the front. -/
theorem filter_scanFrom_append (lexicon : Lexicon) (start : Nat) (front one other : Text) :
    (scanFrom lexicon start 0 (front ++ one)).filter
        (·.span.stop < start + byteLength front) =
      (scanFrom lexicon start 0 (front ++ other)).filter
        (·.span.stop < start + byteLength front) := by
  -- The first token takes several characters of the front away.
  induction length : front.length using Nat.strong_induction_on generalizing start front with
  | _ bound induction =>
      by_cases inside : EndsInside lexicon front one
      · rcases inside with ⟨kind, piece, next, more, rfl, obeys⟩
        have otherObeys := obeys.of_next (more ++ other)
        have positive := obeys.byteLength_pos
        have ends : start + byteLength piece <
            start + byteLength (piece ++ next :: more) := by
          have size := next.utf8Size_pos
          rw [Text.byteLength_append, Text.byteLength_cons]
          omega
        have shorter : (next :: more).length < bound := by
          have filled : piece ≠ [] := fun empty => by
            rw [empty] at positive
            exact Nat.lt_irrefl 0 positive
          have several := List.length_pos_iff.2 filled
          rw [← length, List.length_append]
          omega
        have later := induction _ shorter (start + byteLength piece) (next :: more) rfl
        rw [Nat.add_assoc, ← Text.byteLength_append] at later
        rw [List.append_assoc, List.append_assoc, List.cons_append, List.cons_append,
          scanFrom_append obeys, scanFrom_append otherObeys,
          List.filter_cons_of_pos (by simpa using ends),
          List.filter_cons_of_pos (by simpa using ends)]
        exact congrArg _ later
      · have otherInside : ¬ EndsInside lexicon front other := fun ends =>
          inside (ends.of_rest one)
        rw [filter_scanFrom_of_not_endsInside inside,
          filter_scanFrom_of_not_endsInside otherInside]

theorem endedBefore_append (lexicon : Lexicon) (front one other : Text) :
    endedBefore lexicon (byteLength front) (front ++ one) =
      endedBefore lexicon (byteLength front) (front ++ other) := by
  have same := filter_scanFrom_append lexicon 0 front one other
  rwa [Nat.zero_add] at same

theorem filter_endedBefore {offset further : Nat} (within : offset ≤ further) (text : Text) :
    (endedBefore lexicon further text).filter (·.span.stop < offset) =
      endedBefore lexicon offset text := by
  rw [endedBefore, List.filter_filter, endedBefore]
  refine List.filter_congr fun token _ => ?_
  by_cases ended : token.span.stop < offset
  · simp [ended, Nat.lt_of_lt_of_le ended within]
  · simp [ended]

theorem endedBefore_replace {text replacement edited : Text} {span : Span}
    (replaced : text.replace span replacement = .ok edited) {offset : Nat}
    (before : offset ≤ span.start) :
    endedBefore lexicon offset edited = endedBefore lexicon offset text := by
  rw [Text.replace] at replaced
  cases cut : text.cut span with
  | error =>
      rw [cut] at replaced
      cases replaced
  | ok pieces =>
      rw [cut] at replaced
      rcases Text.cut_eq_ok_iff.1 cut with ⟨whole, start, _⟩
      have result : edited = pieces.before ++ (replacement ++ pieces.after) := by
        rw [← List.append_assoc]
        exact (Except.ok.inj replaced).symm
      rw [List.append_assoc] at whole
      rw [← start] at before
      rw [← filter_endedBefore before, ← filter_endedBefore before, result, whole,
        endedBefore_append]

/-- From a token boundary on the tokens of a text are those of its rest, moved there.
Texts that begin alike have the same tokens strictly before the end of what they share,
and an edit changes no token that ended strictly before it. -/
theorem scan_is_local (lexicon : Lexicon) (text : Text) :
    (∀ offset, IsTokenBoundary lexicon text offset →
      ∃ front back, text = front ++ back ∧ byteLength front = offset ∧
        (scan lexicon text).filter (offset ≤ ·.span.start) =
          (scan lexicon back).map (·.shift offset)) ∧
    (∀ front rest other, text = front ++ rest →
      endedBefore lexicon (byteLength front) text =
        endedBefore lexicon (byteLength front) (front ++ other)) ∧
    ∀ span replacement edited, text.replace span replacement = .ok edited →
      ∀ offset ≤ span.start,
        endedBefore lexicon offset edited = endedBefore lexicon offset text := by
  refine ⟨fun offset boundary => ?_, ?_, fun _ _ _ => endedBefore_replace⟩
  · rcases (consecutive_scanFrom lexicon 0 text).exists_rest boundary with
      ⟨front, back, whole, place, tokens⟩
    have moved := scanFrom_shift lexicon 0 offset 0 back
    rw [Nat.zero_add] at place moved
    exact ⟨front, back, whole, place.symm, tokens.trans moved⟩
  · intro front rest other whole
    rw [whole]
    exact endedBefore_append lexicon front rest other

/-- A token that ends just where the texts part may differ. -/
example :
    scan .kotlin "a=/".toList ≠ scan .kotlin "a=/*".toList ∧
      endedBefore .kotlin 3 "a=/".toList = endedBefore .kotlin 3 "a=/*".toList := by
  decide +kernel

end Token

end LiveEditor
