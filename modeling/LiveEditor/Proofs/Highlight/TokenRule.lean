import LiveEditor.Highlight.Token
import Mathlib.Tactic.SplitIfs

/-! # The rule of one token

The first characters of a text decide what its first token is, and with it
where the token ends.  A line comment, a number and a word are maximal runs; a
block comment and a string end behind a closing mark.  Every ending is stated
about the characters on both sides of it, without a scan, and the length that
the scan finds is the only one that satisfies the statement.
-/

namespace LiveEditor

namespace Text

/-! ## Maximal runs -/

structure IsMaximalRun (test : Char → Bool) (piece after : Text) : Prop where
  passes : ∀ character ∈ piece, test character = true
  stops : ∀ next ∈ after.head?, test next = false

theorem isMaximalRun_cons {test : Char → Bool} {first : Char} {more after : Text}
    (passes : test first = true) :
    IsMaximalRun test (first :: more) after ↔ IsMaximalRun test more after :=
  ⟨fun run => ⟨fun character member => run.passes character (List.mem_cons_of_mem first member),
      run.stops⟩,
    fun run => ⟨List.forall_mem_cons.2 ⟨passes, run.passes⟩, run.stops⟩⟩

theorem isMaximalRun_iff {test : Char → Bool} {piece after : Text} :
    IsMaximalRun test piece after ↔
      ((piece ++ after).takeWhile test).length = piece.length := by
  induction piece with
  | nil =>
      constructor
      · intro run
        cases after with
        | nil => rfl
        | cons next rest =>
            have stops := run.stops next rfl
            simp [stops]
      · intro empty
        refine ⟨by simp, ?_⟩
        cases after with
        | nil => simp
        | cons next rest =>
            simpa [List.takeWhile_cons] using empty
  | cons first more hypothesis =>
      by_cases passes : test first = true
      · rw [isMaximalRun_cons passes, hypothesis]
        simp [passes]
      · simp only [List.cons_append, List.takeWhile_cons_of_neg passes, List.length_nil,
          List.length_cons]
        constructor
        · intro run
          exact absurd (run.passes first List.mem_cons_self) passes
        · intro impossible
          cases impossible

theorem IsMaximalRun.takeWhile_eq {test : Char → Bool} {piece after : Text}
    (run : IsMaximalRun test piece after) : (piece ++ after).takeWhile test = piece := by
  have sameLength := isMaximalRun_iff.1 run
  have shown : (piece ++ after).takeWhile test <+: piece :=
    List.prefix_of_prefix_length_le (List.takeWhile_prefix test)
      (List.prefix_append piece after) (Nat.le_of_eq sameLength)
  exact shown.eq_of_length sameLength

/-! ## Closing markers -/

/-- A piece ends with the first marker that stands in a text, or with the text
when no marker stands in it. -/
def EndsThrough (marker piece after : Text) : Prop :=
  (∃ body, piece = body ++ marker ∧
    ∀ front back, piece ++ after = front ++ marker ++ back → body.length ≤ front.length) ∨
  (after = [] ∧ ¬ marker <:+: piece)

theorem endsThrough_nil {marker after : Text} (nonempty : marker ≠ []) :
    EndsThrough marker [] after ↔ after = [] := by
  simp [EndsThrough, nonempty]

theorem endsThrough_of_prefix {marker piece after : Text} (here : marker <+: piece ++ after) :
    EndsThrough marker piece after ↔ piece = marker := by
  constructor
  · rintro (⟨body, rfl, first⟩ | ⟨rfl, none⟩)
    · rcases here with ⟨back, whole⟩
      have atOnce := first [] back (by rw [List.nil_append, whole])
      rw [List.length_nil, Nat.le_zero, List.length_eq_zero_iff] at atOnce
      rw [atOnce, List.nil_append]
    · rw [List.append_nil] at here
      exact absurd here.isInfix none
  · rintro rfl
    exact .inl ⟨[], rfl, fun _ _ _ => Nat.zero_le _⟩

theorem endsThrough_cons {marker piece after : Text} {first : Char}
    (notHere : ¬ marker <+: first :: (piece ++ after)) :
    EndsThrough marker (first :: piece) after ↔ EndsThrough marker piece after := by
  -- No marker begins with the first character, so each one moves by one place.
  constructor
  · rintro (⟨body, whole, least⟩ | ⟨rfl, none⟩)
    · cases body with
      | nil => exact absurd ⟨after, by rw [← List.cons_append, whole, List.nil_append]⟩ notHere
      | cons _ body =>
          rcases List.cons.inj whole with ⟨rfl, rfl⟩
          refine .inl ⟨body, rfl, fun front back occurs => ?_⟩
          have later := least (first :: front) back (by rw [List.cons_append, occurs]; rfl)
          exact Nat.le_of_succ_le_succ later
    · exact .inr ⟨rfl, fun occurs => none (occurs.trans (List.suffix_cons first piece).isInfix)⟩
  · rintro (⟨body, rfl, least⟩ | ⟨rfl, none⟩)
    · refine .inl ⟨first :: body, rfl, fun front back occurs => ?_⟩
      cases front with
      | nil => exact absurd ⟨back, occurs.symm⟩ notHere
      | cons _ front =>
          have later := least front back (List.cons.inj occurs).2
          exact Nat.succ_le_succ later
    · refine .inr ⟨rfl, fun occurs => ?_⟩
      rcases List.infix_cons_iff.1 occurs with here | later
      · exact notHere (by rwa [List.append_nil])
      · exact none later

end Text

namespace Token

/-! ## Block comments -/

theorem blockCommentLength_eq_zero {rest : Text} : blockCommentLength rest = 0 ↔ rest = [] := by
  fun_cases blockCommentLength rest <;> simp

theorem blockCommentLength_cons {first : Char} {rest : Text}
    (notHere : ¬ ['*', '/'] <+: first :: rest) :
    blockCommentLength (first :: rest) = 1 + blockCommentLength rest := by
  rw [blockCommentLength]
  rintro back rfl rfl
  exact notHere ⟨back, rfl⟩

theorem endsThrough_iff {body after : Text} :
    Text.EndsThrough ['*', '/'] body after ↔
      blockCommentLength (body ++ after) = body.length := by
  induction body with
  | nil =>
      rw [Text.endsThrough_nil (by simp), List.nil_append, List.length_nil,
        blockCommentLength_eq_zero]
  | cons first body hypothesis =>
      by_cases here : ['*', '/'] <+: first :: (body ++ after)
      · rw [Text.endsThrough_of_prefix here]
        rcases here with ⟨back, whole⟩
        rcases List.cons.inj whole with ⟨rfl, whole⟩
        have length : blockCommentLength ('*' :: body ++ after) = 2 := by
          rw [List.cons_append, ← whole]; rfl
        rw [length, List.length_cons]
        constructor
        · rintro equal
          cases equal
          rfl
        · intro one
          rcases List.length_eq_one_iff.1 (by omega : body.length = 1) with ⟨second, rfl⟩
          cases whole
          rfl
      · rw [Text.endsThrough_cons here, hypothesis, List.cons_append,
          blockCommentLength_cons here, List.length_cons]
        omega

theorem blockCommentLength_le (rest : Text) : blockCommentLength rest ≤ rest.length := by
  fun_induction blockCommentLength rest with
  | case1 => simp
  | case2 => simp
  | case3 => simp only [List.length_cons]; omega

/-! ## Strings -/

/-- What stands in a string that is open: characters other than the quote and the backslash,
and backslashes with the character that each takes along. -/
inductive StringBody : Text → Prop
  | nil : StringBody []
  | plain {character : Char} {rest : Text} (notQuote : character ≠ '"')
      (notBackslash : character ≠ '\\') (body : StringBody rest) :
      StringBody (character :: rest)
  | escaped (character : Char) {rest : Text} (body : StringBody rest) :
      StringBody ('\\' :: character :: rest)

/-- The last characters of a string: a quote that is not taken along, or the end of the
text with what is left before it. -/
def StringEnd (last after : Text) : Prop :=
  last = ['"'] ∨ after = [] ∧ (last = [] ∨ last = ['\\'])

def EndsString (piece after : Text) : Prop :=
  ∃ body last, piece = body ++ last ∧ StringBody body ∧ StringEnd last after

theorem not_stringBody_quote {rest : Text} : ¬ StringBody ('"' :: rest) := by
  intro body
  cases body with
  | plain notQuote => exact notQuote rfl

theorem stringBody_plain {first : Char} {rest : Text} (notQuote : first ≠ '"')
    (notBackslash : first ≠ '\\') : StringBody (first :: rest) ↔ StringBody rest := by
  constructor
  · intro body
    cases body with
    | plain _ _ body => exact body
    | escaped => exact absurd rfl notBackslash
  · exact .plain notQuote notBackslash

theorem stringBody_backslash {rest : Text} :
    StringBody ('\\' :: rest) ↔ ∃ character more, rest = character :: more ∧ StringBody more := by
  constructor
  · intro body
    cases body with
    | plain _ notBackslash => exact absurd rfl notBackslash
    | escaped character body => exact ⟨character, _, rfl, body⟩
  · rintro ⟨character, more, rfl, body⟩
    exact .escaped character body

theorem endsString_nil {after : Text} : EndsString [] after ↔ after = [] := by
  constructor
  · rintro ⟨body, last, whole, _, ends⟩
    rcases List.nil_eq_append_iff.1 whole with ⟨rfl, rfl⟩
    simpa [StringEnd] using ends
  · rintro rfl
    exact ⟨[], [], rfl, .nil, .inr ⟨rfl, .inl rfl⟩⟩

theorem endsString_cons {first : Char} {more after : Text} :
    EndsString (first :: more) after ↔ StringEnd (first :: more) after ∨
      ∃ body last, more = body ++ last ∧ StringBody (first :: body) ∧ StringEnd last after := by
  constructor
  · rintro ⟨body, last, whole, inside, ends⟩
    cases body with
    | nil => exact .inl (whole ▸ ends)
    | cons _ body =>
        rcases List.cons.inj whole with ⟨rfl, rfl⟩
        exact .inr ⟨body, last, rfl, inside, ends⟩
  · rintro (ends | ⟨body, last, rfl, inside, ends⟩)
    · exact ⟨[], first :: more, rfl, .nil, ends⟩
    · exact ⟨first :: body, last, rfl, inside, ends⟩

theorem endsString_quote {more after : Text} : EndsString ('"' :: more) after ↔ more = [] := by
  simp [endsString_cons, StringEnd, not_stringBody_quote]

theorem endsString_plain {first : Char} {more after : Text} (notQuote : first ≠ '"')
    (notBackslash : first ≠ '\\') :
    EndsString (first :: more) after ↔ EndsString more after := by
  rw [endsString_cons]
  simp [StringEnd, EndsString, stringBody_plain, notQuote, notBackslash]

theorem endsString_backslash {after : Text} : EndsString ['\\'] after ↔ after = [] := by
  rw [endsString_cons]
  constructor
  · rintro (ends | ⟨body, last, whole, inside, _⟩)
    · simpa [StringEnd] using ends
    · rcases List.nil_eq_append_iff.1 whole with ⟨rfl, rfl⟩
      simp [stringBody_backslash] at inside
  · rintro rfl
    exact .inl (.inr ⟨rfl, .inr rfl⟩)

theorem endsString_escaped {character : Char} {more after : Text} :
    EndsString ('\\' :: character :: more) after ↔ EndsString more after := by
  rw [endsString_cons]
  constructor
  · rintro (ends | ⟨body, last, whole, inside, ends⟩)
    · simp [StringEnd] at ends
    · rcases stringBody_backslash.1 inside with ⟨_, body, rfl, later⟩
      rcases List.cons.inj whole with ⟨rfl, rfl⟩
      exact ⟨body, last, rfl, later, ends⟩
  · rintro ⟨body, last, rfl, inside, ends⟩
    exact .inr ⟨character :: body, last, rfl, .escaped character inside, ends⟩

theorem stringLength_eq_zero {escaped : Bool} {rest : Text} :
    stringLength escaped rest = 0 ↔ rest = [] := by
  fun_cases stringLength escaped rest <;> simp

/-- What is behind a backslash is treated along with what is not, since the scan
goes back and forth between the two. -/
theorem endsString_iff_and (piece after : Text) :
    (EndsString piece after ↔ stringLength false (piece ++ after) = piece.length) ∧
    (EndsString ('\\' :: piece) after ↔
      stringLength true (piece ++ after) = piece.length) := by
  induction piece with
  | nil =>
      rw [endsString_nil, endsString_backslash]
      simp [stringLength_eq_zero]
  | cons first more hypothesis =>
      rcases hypothesis with ⟨isOpen, behindBackslash⟩
      constructor
      · by_cases quote : first = '"'
        · subst quote
          rw [endsString_quote, List.cons_append, stringLength]
          simp
        · rw [List.cons_append, stringLength, if_neg quote, List.length_cons]
          by_cases backslash : first = '\\'
          · subst backslash
            rw [behindBackslash, beq_self_eq_true]
            omega
          · rw [endsString_plain quote backslash, isOpen, beq_false_of_ne backslash]
            omega
      · rw [endsString_escaped, isOpen, List.cons_append, stringLength, List.length_cons]
        omega

theorem endsString_iff {piece after : Text} :
    EndsString piece after ↔ stringLength false (piece ++ after) = piece.length :=
  (endsString_iff_and piece after).1

theorem stringLength_le (escaped : Bool) (rest : Text) :
    stringLength escaped rest ≤ rest.length := by
  fun_induction stringLength escaped rest <;> grind

/-! ## The first rule that applies -/

def IsWord (lexicon : Lexicon) (kind : TokenKind) (word : Text) : Prop :=
  if word ∈ lexicon.keywords then kind = .keyword
  else if word ∈ lexicon.types then kind = .typeName
  else kind = .identifier

theorem isWord_iff {lexicon : Lexicon} {kind : TokenKind} {word : Text} :
    IsWord lexicon kind word ↔ lexicon.classify word = kind := by
  simp only [IsWord, Lexicon.classify, List.contains_iff_mem]
  split_ifs <;> exact eq_comm

/-- A token of a kind is the piece at the front of a text, by the first rule
that applies there.  What follows the piece is part of the rule. -/
def Obeys (lexicon : Lexicon) (kind : TokenKind) : (piece after : Text) → Prop
  | [], _ => False
  | first :: more, after =>
      if ['/', '*'] <+: first :: (more ++ after) then
        kind = .comment ∧ ∃ body, more = '*' :: body ∧ Text.EndsThrough ['*', '/'] body after
      else if ['/', '/'] <+: first :: (more ++ after) then
        kind = .comment ∧ Text.IsMaximalRun (· != '\n') (first :: more) after
      else if first = '"' then
        kind = .string ∧ EndsString more after
      else if Unicode.isNumeric first then
        kind = .number ∧ Text.IsMaximalRun continuesNumber (first :: more) after
      else if beginsWord first then
        IsWord lexicon kind (first :: more) ∧
          Text.IsMaximalRun continuesWord (first :: more) after
      else
        kind = .other ∧ more = []

theorem pair_isPrefix_iff {one other first : Char} {rest : Text} :
    [one, other] <+: first :: rest ↔ first = one ∧ rest.head? = some other := by
  rw [List.cons_prefix_cons, eq_comm]
  cases rest with
  | nil => simp
  | cons second rest => simp [eq_comm]

theorem continuesWord_of_beginsWord {first : Char} (begins : beginsWord first = true) :
    continuesWord first = true := by
  rw [beginsWord, Bool.or_eq_true] at begins
  rcases begins with alphabetic | underscore
  · simp [continuesWord, alphabetic]
  · simp [continuesWord, underscore]

theorem obeys_iff {lexicon : Lexicon} {kind : TokenKind} {first : Char} {more after : Text} :
    Obeys lexicon kind (first :: more) after ↔
      front lexicon first (more ++ after) = (kind, more.length) := by
  -- Both sides ask for the same first characters, and differ in how they say where the
  -- token ends.
  simp only [Obeys, front, pair_isPrefix_iff]
  split_ifs with block line quote number word
  · rw [Prod.mk.injEq]
    refine and_congr eq_comm ?_
    cases more with
    | nil => simp
    | cons star body =>
        obtain rfl : star = '*' := by simpa using block.2
        simp only [List.cons.injEq, true_and, exists_eq_left', endsThrough_iff,
          List.cons_append, List.drop_succ_cons, List.drop_zero, List.length_cons]
        omega
  · rw [Prod.mk.injEq, Text.isMaximalRun_cons (by simp [line.1]), Text.isMaximalRun_iff]
    exact and_congr eq_comm Iff.rfl
  · rw [Prod.mk.injEq, endsString_iff]
    exact and_congr eq_comm Iff.rfl
  · rw [Prod.mk.injEq, Text.isMaximalRun_cons (by simp [continuesNumber, number]),
      Text.isMaximalRun_iff]
    exact and_congr eq_comm Iff.rfl
  · rw [Prod.mk.injEq, Text.isMaximalRun_cons (continuesWord_of_beginsWord word),
      Text.isMaximalRun_iff, isWord_iff]
    refine and_congr_left fun run => ?_
    rw [(Text.isMaximalRun_iff.2 run).takeWhile_eq]
  · rw [Prod.mk.injEq, eq_comm, List.length_eq_zero_iff.symm, @eq_comm _ 0]

theorem front_le (lexicon : Lexicon) (first : Char) (rest : Text) :
    (front lexicon first rest).2 ≤ rest.length := by
  have run : ∀ test : Char → Bool, (rest.takeWhile test).length ≤ rest.length :=
    fun test => (List.takeWhile_prefix test).length_le
  rw [front]
  split_ifs with block
  · have bounded := blockCommentLength_le (rest.drop 1)
    cases rest with
    | nil => simp at block
    | cons _ rest =>
        simp only [List.drop_succ_cons, List.drop_zero, List.length_cons] at bounded ⊢
        omega
  · exact run _
  · exact stringLength_le false rest
  · exact run _
  · exact run _
  · exact Nat.zero_le _

/-- Some rule applies to every text that is not empty, and names its first token. -/
theorem exists_obeys (lexicon : Lexicon) (first : Char) (rest : Text) :
    ∃ kind more after, rest = more ++ after ∧ Obeys lexicon kind (first :: more) after := by
  let length := (front lexicon first rest).2
  refine ⟨(front lexicon first rest).1, rest.take length, rest.drop length,
    (List.take_append_drop length rest).symm, obeys_iff.2 ?_⟩
  rw [List.take_append_drop, List.length_take_of_le (front_le lexicon first rest)]

end Token

end LiveEditor
