import LiveEditor.Toml.Quoted

/-! # Reading strings that were written

A string is written in the plainest form that fits, and each form keeps its text
apart from the quotes that close it: by escapes, or because the text has no row of
quotes that is long enough.  So every string is read back, whatever it holds, when
no further quote comes behind it.
-/

namespace LiveEditor.Toml

abbrev withFront (character : Char) (found : Text × Text) : Text × Text :=
  (character :: found.1, found.2)

/-! ## Escapes -/

theorem codePoint?_append (digits rest : Text) :
    codePoint? digits.length (digits ++ rest) = codePoint? digits.length digits := by
  have long : ¬ (digits ++ rest).length < digits.length := by
    rw [List.length_append]
    omega
  rw [codePoint?, codePoint?, if_neg long, if_neg (Nat.lt_irrefl _), List.take_left,
    List.take_length]

theorem codePoint?_upperHexDigits : ∀ code < 0x80,
    codePoint? 4 ['0', '0', Number.upperHexDigit (code / 16), Number.upperHexDigit (code % 16)] =
      some (Char.ofNat code) := by
  decide +kernel

theorem isPlain_of_not_isUnwritable {character : Char}
    (writable : isUnwritable character = false) (feed : character ≠ '\n') :
    isPlain character = true := by
  simp only [isUnwritable, isPlain, Bool.or_eq_false_iff, Bool.and_eq_false_imp,
    decide_eq_true_eq, bne_eq_false_iff_eq, beq_eq_false_iff_ne, Bool.or_eq_true, beq_iff_eq,
    Bool.and_eq_true, bne_iff_ne] at *
  grind

/-- The letters behind a backslash are read as a character. -/
def Spells (letters : Text) (character : Char) : Prop :=
  ∀ rest, readEscape (letters ++ rest) = some (character, letters.length)

/-- A character other than a line feed is written as it is, or with a backslash and
letters that spell it. -/
theorem escaped_cases {character : Char} (feed : character ≠ '\n') :
    (escaped character = [character] ∧ isPlain character = true ∧ character ≠ '\\') ∨
      ∃ letters, escaped character = '\\' :: letters ∧ Spells letters character := by
  unfold escaped
  split
  · next same => exact .inr ⟨['b'], rfl, fun rest => by rw [same]; rfl⟩
  split
  · next same => exact .inr ⟨['t'], rfl, fun rest => by rw [same]; rfl⟩
  split
  · next same => exact .inr ⟨['f'], rfl, fun rest => by rw [same]; rfl⟩
  split
  · next same => exact .inr ⟨['r'], rfl, fun rest => by rw [same]; rfl⟩
  split
  · next same => exact .inr ⟨['\\'], rfl, fun rest => by rw [same]; rfl⟩
  next backslash =>
    split
    · next control =>
        have small : character.toNat < 0x80 := by
          simp only [isUnwritable, Bool.or_eq_true, Bool.and_eq_true, decide_eq_true_eq,
            beq_iff_eq] at control
          omega
        refine .inr ⟨_, rfl, fun rest => ?_⟩
        have read := codePoint?_upperHexDigits character.toNat small
        rw [Char.ofNat_toNat] at read
        have front := (codePoint?_append _ rest).trans read
        exact congrArg (Option.map fun value => (value, 5)) front
    · next writable =>
        exact .inl ⟨rfl, isPlain_of_not_isUnwritable (by simpa using writable) feed, backslash⟩

/-! ## One line between quotes -/

theorem readBasicFrom_skip (front rest : Text) :
    readBasicFrom front.length (front ++ rest) = readBasicFrom 0 rest := by
  induction front with
  | nil => rfl
  | cons character front induction => exact induction

theorem readBasicFrom_plain {character : Char} (plain : isPlain character = true)
    (quote : character ≠ '"') (backslash : character ≠ '\\') (rest : Text) :
    readBasicFrom 0 (character :: rest) =
      (readBasicFrom 0 rest).map (withFront character) := by
  rw [readBasicFrom, if_neg quote, if_neg backslash, if_pos plain]

theorem readBasicFrom_spelled {character : Char} {letters : Text}
    (spells : Spells letters character) (rest : Text) :
    readBasicFrom 0 ('\\' :: (letters ++ rest)) =
      (readBasicFrom 0 rest).map (withFront character) := by
  rw [readBasicFrom, if_neg (by decide), if_pos rfl, spells]
  dsimp only
  rw [readBasicFrom_skip]

theorem readBasicFrom_escapeLine (text rest : Text) :
    readBasicFrom 0 (escapeLine text ++ '"' :: rest) = some (text, rest) := by
  induction text with
  | nil => rfl
  | cons character text induction =>
      rw [escapeLine, List.append_assoc]
      split
      · next same =>
          have spells : Spells ['"'] character := fun rest => by rw [same]; rfl
          exact (readBasicFrom_spelled spells _).trans (by rw [induction]; rfl)
      split
      · next same =>
          have spells : Spells ['n'] character := fun rest => by rw [same]; rfl
          exact (readBasicFrom_spelled spells _).trans (by rw [induction]; rfl)
      next quote feed =>
        rcases escaped_cases feed with ⟨self, plain, backslash⟩ | ⟨letters, written, spells⟩
        · rw [self, List.singleton_append, readBasicFrom_plain plain quote backslash, induction]
          rfl
        · rw [written, List.cons_append, readBasicFrom_spelled spells, induction]
          rfl

/-! ## One line between apostrophes -/

theorem readLiteral_append {text : Text} (rest : Text)
    (plain : ∀ character ∈ text, character ≠ '\x27' ∧ isPlain character = true) :
    readLiteral (text ++ '\x27' :: rest) = some (text, rest) := by
  induction text with
  | nil => rfl
  | cons character text induction =>
      have ⟨apostrophe, first⟩ := plain character List.mem_cons_self
      have later := induction fun other member => plain other (List.mem_cons_of_mem _ member)
      rw [List.cons_append, readLiteral, if_neg apostrophe, if_pos first, later]
      rfl

/-! ## Rows of quotes -/

def rowLength (quote : Char) (text : Text) : Nat :=
  (text.takeWhile (· == quote)).length

@[simp] theorem rowLength_cons_self (quote : Char) (rest : Text) :
    rowLength quote (quote :: rest) = rowLength quote rest + 1 := by
  simp [rowLength]

theorem rowLength_cons_of_ne {quote character : Char} (other : character ≠ quote)
    (rest : Text) : rowLength quote (character :: rest) = 0 := by
  simp [rowLength, other]

theorem rowLength_replicate {quote : Char} {rest : Text} (ends : rest.head? ≠ some quote)
    (count : Nat) : rowLength quote (List.replicate count quote ++ rest) = count := by
  induction count with
  | zero =>
      cases rest with
      | nil => rfl
      | cons character rest =>
          exact rowLength_cons_of_ne (fun same => ends (congrArg some same)) rest
  | succ count induction =>
      rw [List.replicate_succ, List.cons_append, rowLength_cons_self, induction]

theorem closing?_of_rowLength_lt {quote : Char} {text : Text}
    (few : rowLength quote text < 3) : closing? quote text = none :=
  if_pos few

/-- The row that closes a string may begin with up to two quotes of the string. -/
theorem readBlockFrom_replicate {quote : Char} {rest : Text} (escapes : Bool)
    (ends : rest.head? ≠ some quote) {count : Nat} (few : count ≤ 2) :
    readBlockFrom quote escapes 0
        (List.replicate count quote ++ (List.replicate 3 quote ++ rest)) =
      some (List.replicate count quote, rest) := by
  have row : List.replicate count quote ++ (List.replicate 3 quote ++ rest) =
      quote :: (List.replicate (count + 2) quote ++ rest) := by
    rw [← List.append_assoc, List.replicate_append_replicate, ← List.cons_append,
      ← List.replicate_succ]
  have closes : closing? quote (quote :: (List.replicate (count + 2) quote ++ rest)) =
      some count := by
    have length : rowLength quote (quote :: (List.replicate (count + 2) quote ++ rest)) =
        count + 3 := by
      rw [rowLength_cons_self, rowLength_replicate ends]
    change (if rowLength quote _ < 3 then none else some (min (rowLength quote _) 5 - 3)) = _
    rw [length, if_neg (by omega), Nat.min_eq_left (by omega), Nat.add_sub_cancel]
  have behind : (quote :: (List.replicate (count + 2) quote ++ rest)).drop (count + 3) = rest := by
    rw [List.drop_succ_cons]
    exact List.drop_left' List.length_replicate
  rw [row, readBlockFrom, closes]
  dsimp only
  rw [behind]

/-! ## Several lines -/

theorem readBlockFrom_skip (quote : Char) (escapes : Bool) (front rest : Text) :
    readBlockFrom quote escapes front.length (front ++ rest) =
      readBlockFrom quote escapes 0 rest := by
  induction front with
  | nil => rfl
  | cons character front induction => exact induction

theorem readBlockFrom_plain {quote : Char} {escapes : Bool} {character : Char} {rest : Text}
    (few : rowLength quote (character :: rest) < 3)
    (backslash : ¬ (character = '\\' ∧ escapes = true))
    (plain : character = '\n' ∨ isPlain character = true) :
    readBlockFrom quote escapes 0 (character :: rest) =
      (readBlockFrom quote escapes 0 rest).map (withFront character) := by
  rw [readBlockFrom, closing?_of_rowLength_lt few]
  dsimp only
  rw [if_neg backslash, if_pos plain]

theorem readBlockFrom_spelled {quote character : Char} {letters : Text}
    (other : '\\' ≠ quote) (spells : Spells letters character) (rest : Text) :
    readBlockFrom quote true 0 ('\\' :: (letters ++ rest)) =
      (readBlockFrom quote true 0 rest).map (withFront character) := by
  have few := rowLength_cons_of_ne other (letters ++ rest)
  rw [readBlockFrom, closing?_of_rowLength_lt (by omega)]
  dsimp only
  rw [if_pos ⟨rfl, rfl⟩, spells]
  dsimp only
  rw [readBlockFrom_skip]

/-- Behind `row` quotes a text is written with no more of them than make two, or it
consists of quotes altogether. -/
theorem escapeBlock_rows {row : Nat} (few : row ≤ 2) (text rest : Text) :
    (∃ count, text = List.replicate count '"' ∧ count + row ≤ 2 ∧
        escapeBlock row text = text) ∨
      rowLength '"' (escapeBlock row text ++ rest) + row ≤ 2 := by
  induction text generalizing row with
  | nil => exact .inl ⟨0, rfl, by omega, rfl⟩
  | cons character text induction =>
      rw [escapeBlock]
      split
      · next same =>
          split
          · next third =>
              refine .inr ?_
              rw [List.append_assoc, List.cons_append, rowLength_cons_of_ne (by decide)]
              omega
          · next early =>
              rw [same]
              rcases @induction (row + 1) (by omega) with ⟨count, quotes, fits, self⟩ | fits
              · refine .inl ⟨count + 1, ?_, by omega, ?_⟩
                · rw [quotes, List.replicate_succ]
                · rw [self]
              · refine .inr ?_
                rw [List.cons_append, rowLength_cons_self]
                omega
      split
      · refine .inr ?_
        rw [List.cons_append, rowLength_cons_of_ne (by decide)]
        omega
      next quote feed =>
        refine .inr ?_
        rcases escaped_cases feed with ⟨self, _⟩ | ⟨letters, written, _⟩
        · rw [self, List.append_assoc, List.singleton_append, rowLength_cons_of_ne quote]
          omega
        · rw [written, List.append_assoc, List.cons_append, rowLength_cons_of_ne (by decide)]
          omega

/-- In a string of several lines a character is written as it is, or with a backslash
and letters that spell it. -/
theorem escapeBlock_cons_cases {row : Nat} (few : row ≤ 2) (character : Char) (text : Text) :
    ∃ next ≤ 2,
      (escapeBlock row (character :: text) = character :: escapeBlock next text ∧
        character ≠ '\\' ∧ (character = '\n' ∨ isPlain character = true)) ∨
      ∃ letters, escapeBlock row (character :: text) =
        '\\' :: (letters ++ escapeBlock next text) ∧ Spells letters character := by
  rw [escapeBlock]
  split
  · next same =>
      split
      · exact ⟨0, Nat.zero_le 2, .inr ⟨['"'], rfl, fun rest => by rw [same]; rfl⟩⟩
      · rw [same]
        exact ⟨row + 1, by omega, .inl ⟨rfl, by decide, .inr (by decide)⟩⟩
  split
  · next same =>
      rw [same]
      exact ⟨0, Nat.zero_le 2, .inl ⟨rfl, by decide, .inl rfl⟩⟩
  · next feed =>
      rcases escaped_cases feed with ⟨self, plain, backslash⟩ | ⟨letters, written, spells⟩
      · rw [self]
        exact ⟨0, Nat.zero_le 2, .inl ⟨rfl, backslash, .inr plain⟩⟩
      · rw [written]
        exact ⟨0, Nat.zero_le 2, .inr ⟨letters, rfl, spells⟩⟩

theorem readBlockFrom_escapeBlock {row : Nat} (few : row ≤ 2) (text : Text) {rest : Text}
    (ends : rest.head? ≠ some '"') :
    readBlockFrom '"' true 0 (escapeBlock row text ++ (List.replicate 3 '"' ++ rest)) =
      some (text, rest) := by
  induction text generalizing row with
  | nil => exact readBlockFrom_replicate true ends (Nat.zero_le 2)
  | cons character text induction =>
      rcases escapeBlock_rows few (character :: text) (List.replicate 3 '"' ++ rest) with
        ⟨count, quotes, fits, self⟩ | fits
      · rw [self, quotes]
        exact readBlockFrom_replicate true ends (by omega)
      · rcases escapeBlock_cons_cases few character text with
          ⟨next, nextFew, ⟨self, backslash, plain⟩ | ⟨letters, written, spells⟩⟩
        · rw [self, List.cons_append] at fits ⊢
          rw [readBlockFrom_plain (by omega) (fun both => backslash both.1) plain,
            induction nextFew]
          rfl
        · rw [written, List.cons_append, List.append_assoc,
            readBlockFrom_spelled (by decide) spells, induction nextFew]
          rfl

theorem rows_of_longestRowFrom_le {quote : Char} {row : Nat} {text : Text}
    (few : longestRowFrom quote row text ≤ 2) (rest : Text) :
    (∃ count ≤ 2, text = List.replicate count quote ∧ count + row ≤ 2) ∨
      rowLength quote (text ++ rest) + row ≤ 2 := by
  induction text generalizing row with
  | nil => exact .inl ⟨0, Nat.zero_le 2, rfl, by rw [longestRowFrom] at few; omega⟩
  | cons character text induction =>
      rw [longestRowFrom] at few
      split at few
      · next same =>
          rw [same, List.cons_append, rowLength_cons_self]
          rcases induction few with ⟨count, _, quotes, fits⟩ | fits
          · refine .inl ⟨count + 1, by omega, ?_, by omega⟩
            rw [quotes, List.replicate_succ]
          · exact .inr (by omega)
      · next other =>
          refine .inr ?_
          rw [List.cons_append, rowLength_cons_of_ne other]
          omega

/-- A text without long rows of apostrophes is read between apostrophes as it is. -/
theorem readBlockFrom_literal {row : Nat} {text : Text}
    (few : longestRowFrom '\x27' row text ≤ 2)
    (plain : ∀ character ∈ text, character = '\n' ∨ isPlain character = true) {rest : Text}
    (ends : rest.head? ≠ some '\x27') :
    readBlockFrom '\x27' false 0 (text ++ (List.replicate 3 '\x27' ++ rest)) =
      some (text, rest) := by
  induction text generalizing row with
  | nil => exact readBlockFrom_replicate false ends (Nat.zero_le 2)
  | cons character text induction =>
      rcases rows_of_longestRowFrom_le few (List.replicate 3 '\x27' ++ rest) with
        ⟨count, least, quotes, _⟩ | fits
      · rw [quotes]
        exact readBlockFrom_replicate false ends least
      · have laterPlain : ∀ other ∈ text, other = '\n' ∨ isPlain other = true :=
          fun other member => plain other (List.mem_cons_of_mem _ member)
        have later : ∃ next, longestRowFrom '\x27' next text ≤ 2 := by
          rw [longestRowFrom] at few
          split at few
          · exact ⟨row + 1, few⟩
          · exact ⟨0, by omega⟩
        rcases later with ⟨next, nextFew⟩
        have unescaped : ¬ (character = '\\' ∧ false = true) := fun both => nomatch both.2
        rw [List.cons_append] at fits ⊢
        rw [readBlockFrom_plain (by omega) unescaped (plain character List.mem_cons_self),
          induction nextFew laterPlain]
        rfl

/-! ## Openings -/

theorem afterNewline?_eq_none {text : Text} (feed : text.head? ≠ some '\n')
    (carriage : text.head? ≠ some '\r') : afterNewline? text = none := by
  unfold afterNewline?
  split
  · exact absurd rfl feed
  · exact absurd rfl carriage
  · rfl

/-- Behind three quotes a text begins with a line break only if it is written behind
one more. -/
theorem readBlock_opening (quote : Char) (escapes : Bool) {text inside : Text}
    (opens : '\n' ∉ text → inside.head? ≠ some '\n' ∧ inside.head? ≠ some '\r') :
    readBlock quote escapes (blockOpening text ++ inside) =
      readBlockFrom quote escapes 0 inside := by
  rw [readBlock, blockOpening]
  split
  · rfl
  · next oneLine =>
      have ⟨feed, carriage⟩ := opens (by simpa using oneLine)
      rw [List.nil_append, afterNewline?_eq_none feed carriage]
      rfl

theorem readString_quote {inside : Text} (single : ∀ more, inside ≠ '"' :: '"' :: more) :
    readString ('"' :: inside) = readBasicFrom 0 inside := by
  unfold readString
  split
  · next more same => exact absurd (List.cons.inj same).2 (single more)
  · next more _ same => rw [(List.cons.inj same).2]
  · next same => cases same
  · next same => cases same
  · next _ other _ _ => exact (other inside rfl).elim

theorem readString_apostrophe {inside : Text}
    (single : ∀ more, inside ≠ '\x27' :: '\x27' :: more) :
    readString ('\x27' :: inside) = readLiteral inside := by
  unfold readString
  split
  · next same => cases same
  · next same => cases same
  · next more same => exact absurd (List.cons.inj same).2 (single more)
  · next more _ same => rw [(List.cons.inj same).2]
  · next _ _ _ other => exact (other inside rfl).elim

/-! ## All forms -/

theorem not_isUnwritable {text : Text} (writable : text.any isUnwritable = false)
    {character : Char} (member : character ∈ text) : isUnwritable character = false := by
  simpa using List.any_eq_false.1 writable character member

theorem isPlain_of_mem {text : Text} (writable : text.any isUnwritable = false) {character : Char}
    (member : character ∈ text) : character = '\n' ∨ isPlain character = true := by
  by_cases feed : character = '\n'
  · exact .inl feed
  · exact .inr (isPlain_of_not_isUnwritable (not_isUnwritable writable member) feed)

namespace QuotedForm

theorem of_eq_literal {text : Text} (form : QuotedForm.of text = .literal) :
    text.any isUnwritable = false ∧ '\x27' ∉ text ∧ '\n' ∉ text := by
  simp only [QuotedForm.of] at form
  split at form
  · cases form
  split at form
  · next fits => simpa [and_assoc] using fits
  split at form
  · cases form
  split at form
  · cases form
  split at form <;> cases form

theorem of_eq_literalBlock {text : Text} (form : QuotedForm.of text = .literalBlock) :
    text.any isUnwritable = false ∧ longestRow '\x27' text ≤ 2 := by
  simp only [QuotedForm.of] at form
  split at form
  · cases form
  split at form
  · cases form
  split at form
  · cases form
  split at form
  · next fits => simpa using fits
  split at form <;> cases form

end QuotedForm

theorem head?_escapeLine_ne_quote (text : Text) : (escapeLine text).head? ≠ some '"' := by
  cases text with
  | nil => nofun
  | cons character rest =>
      rw [escapeLine]
      split
      · exact fun same => nomatch same
      split
      · exact fun same => nomatch same
      next quote feed =>
        rcases escaped_cases feed with ⟨self, _⟩ | ⟨letters, written, _⟩
        · rw [self]
          exact fun same => quote (Option.some.inj same)
        · rw [written]
          exact fun same => nomatch same

/-- A written text without line feeds begins with no line break. -/
theorem head?_escapeBlock_append {text rest : Text} (oneLine : '\n' ∉ text)
    (feed : rest.head? ≠ some '\n') (carriage : rest.head? ≠ some '\r') :
    (escapeBlock 0 text ++ rest).head? ≠ some '\n' ∧
      (escapeBlock 0 text ++ rest).head? ≠ some '\r' := by
  cases text with
  | nil => exact ⟨feed, carriage⟩
  | cons character text =>
      rcases escapeBlock_cons_cases (Nat.zero_le 2) character text with
        ⟨next, _, ⟨self, _, plain⟩ | ⟨letters, written, _⟩⟩
      · have here : character ≠ '\n' := fun same => oneLine (same ▸ List.mem_cons_self)
        rw [self]
        refine ⟨fun same => here (Option.some.inj same), fun same => ?_⟩
        rw [Option.some.inj same] at plain
        exact absurd plain (by decide)
      · rw [written]
        exact ⟨nofun, nofun⟩

section

variable (text : Text) {rest : Text}

theorem readString_basic (ends : rest.head? ≠ some '"') :
    readString ('"' :: (escapeLine text ++ '"' :: rest)) = some (text, rest) := by
  refine (readString_quote fun more same => ?_).trans (readBasicFrom_escapeLine text rest)
  have first := head?_escapeLine_ne_quote text
  cases inside : escapeLine text with
  | nil =>
      rw [inside, List.nil_append] at same
      rw [(List.cons.inj same).2] at ends
      exact ends rfl
  | cons character more =>
      rw [inside] at same first
      exact first (congrArg some (List.cons.inj same).1)

theorem readString_literal (ends : rest.head? ≠ some '\x27')
    (form : QuotedForm.of text = .literal) :
    readString ('\x27' :: (text ++ '\x27' :: rest)) = some (text, rest) := by
  have ⟨writable, noApostrophe, oneLine⟩ := QuotedForm.of_eq_literal form
  have plain : ∀ character ∈ text, character ≠ '\x27' ∧ isPlain character = true := by
    intro character member
    have feed : character ≠ '\n' := fun same => oneLine (same ▸ member)
    exact ⟨fun same => noApostrophe (same ▸ member),
      (isPlain_of_mem writable member).resolve_left feed⟩
  refine (readString_apostrophe fun more same => ?_).trans (readLiteral_append rest plain)
  cases text with
  | nil =>
      rw [(List.cons.inj same).2] at ends
      exact ends rfl
  | cons character more =>
      exact (plain character List.mem_cons_self).1 (List.cons.inj same).1

theorem readString_basicBlock (ends : rest.head? ≠ some '"') :
    readString ('"' :: '"' :: '"' ::
      (blockOpening text ++ (escapeBlock 0 text ++ (List.replicate 3 '"' ++ rest)))) =
      some (text, rest) := by
  have opens : '\n' ∉ text → _ := fun oneLine =>
    @head?_escapeBlock_append text (List.replicate 3 '"' ++ rest) oneLine nofun nofun
  exact (readBlock_opening '"' true opens).trans
    (readBlockFrom_escapeBlock (Nat.zero_le 2) text ends)

theorem readString_literalBlock (ends : rest.head? ≠ some '\x27')
    (form : QuotedForm.of text = .literalBlock) :
    readString ('\x27' :: '\x27' :: '\x27' ::
      (blockOpening text ++ (text ++ (List.replicate 3 '\x27' ++ rest)))) =
      some (text, rest) := by
  have ⟨writable, few⟩ := QuotedForm.of_eq_literalBlock form
  have plain := fun character => @isPlain_of_mem text writable character
  have opens : '\n' ∉ text →
      (text ++ (List.replicate 3 '\x27' ++ rest)).head? ≠ some '\n' ∧
        (text ++ (List.replicate 3 '\x27' ++ rest)).head? ≠ some '\r' := by
    intro oneLine
    cases text with
    | nil => exact ⟨nofun, nofun⟩
    | cons character more =>
        have here : character ≠ '\n' := fun same => oneLine (same ▸ List.mem_cons_self)
        refine ⟨fun same => here (Option.some.inj same), fun same => ?_⟩
        have carriage := plain character List.mem_cons_self
        rw [Option.some.inj same] at carriage
        exact absurd carriage (by decide)
  exact (readBlock_opening '\x27' false opens).trans (readBlockFrom_literal few plain ends)

/-- A string that was written is read back, if no quote comes behind it. -/
theorem readString_quoted (quote : rest.head? ≠ some '"')
    (apostrophe : rest.head? ≠ some '\x27') :
    readString (quoted text ++ rest) = some (text, rest) := by
  rw [quoted]
  cases form : QuotedForm.of text with
  | basic =>
      simp only [List.append_assoc, List.singleton_append]
      exact readString_basic text quote
  | literal =>
      simp only [List.append_assoc, List.singleton_append]
      exact readString_literal text apostrophe form
  | basicBlock =>
      simp only [List.append_assoc]
      exact readString_basicBlock text quote
  | literalBlock =>
      simp only [List.append_assoc]
      exact readString_literalBlock text apostrophe form

end

end LiveEditor.Toml
