import LiveEditor.Proofs.Number.Digits
import LiveEditor.Proofs.Toml.Quoted
import LiveEditor.Toml.Reader

/-! # Reading scalars that were written

A number is written with decimal digits, which are no date and begin with a zero
only if they are one.  At the end of a line numbers, booleans and strings are read
back.
-/

namespace LiveEditor

namespace Toml

open Number

/-! ## Reading digits -/

theorem readMoreDigits_of_isDigit {digits : Text}
    (decimal : ∀ character ∈ digits, character.isDigit = true) :
    readMoreDigits 10 digits = some (digits.map digitValue, []) := by
  induction digits with
  | nil => rfl
  | cons first rest induction =>
      have digit := decimal first List.mem_cons_self
      have underscore : first ≠ '_' := fun same => absurd (same ▸ digit) (by decide)
      rw [readMoreDigits.eq_def]
      split
      · next same => cases same
      · next same => exact absurd (List.cons.inj same).1 underscore
      · next same =>
          cases same
          rw [digitIn?_ten_of_isDigit digit]
          dsimp only
          rw [induction fun other member => decimal other (List.mem_cons_of_mem _ member)]
          rfl

/-- The digits of a number, as they are read. -/
theorem readWhole_toDigits (value : Nat) :
    readWhole (Nat.toDigits 10 value) = some ((Nat.toDigits 10 value).map digitValue, []) := by
  rcases Nat.eq_zero_or_pos value with zero | positive
  · rw [zero]
    rfl
  · have decimal := @isDigit_of_mem_toDigits value
    have leading := head?_toDigits_ne_zero positive
    cases digits : Nat.toDigits 10 value with
    | nil => exact absurd digits Nat.toDigits_ne_nil
    | cons first rest =>
        rw [digits] at decimal leading
        unfold readWhole
        split
        · next same => exact absurd (congrArg some (List.cons.inj same).1) leading
        · rw [readDigits, digitIn?_ten_of_isDigit (decimal first List.mem_cons_self)]
          dsimp only
          rw [readMoreDigits_of_isDigit fun other member =>
            decimal other (List.mem_cons_of_mem _ member)]
          rfl

/-! ## Reading numbers -/

section

variable {first : Char} (digit : first.isDigit = true) (rest : Text)
include digit

theorem readSign_of_isDigit : readSign (first :: rest) = (false, first :: rest) := by
  unfold readSign
  split
  · next same => exact absurd ((List.cons.inj same).1 ▸ digit) (by decide)
  · next same => exact absurd ((List.cons.inj same).1 ▸ digit) (by decide)
  · rfl

theorem readSpecial_of_isDigit : readSpecial (first :: rest) = none := by
  unfold readSpecial
  split
  · next same => exact absurd ((List.cons.inj same).1 ▸ digit) (by decide)
  · next same => exact absurd ((List.cons.inj same).1 ▸ digit) (by decide)
  · rfl

end

theorem readNumber_of_isDigit {digits : Text} (filled : digits ≠ [])
    (decimal : ∀ character ∈ digits, character.isDigit = true) :
    readNumber digits = readDecimal digits := by
  have mark : ∀ first second rest, digits = first :: second :: rest →
      second.isDigit = true := fun first second rest same =>
    decimal second (same ▸ List.mem_cons_of_mem _ List.mem_cons_self)
  unfold readNumber
  split
  · exact absurd (mark _ _ _ rfl) (by decide)
  · exact absurd (mark _ _ _ rfl) (by decide)
  · exact absurd (mark _ _ _ rfl) (by decide)
  · cases digits with
    | nil => exact absurd rfl filled
    | cons first rest =>
        have digit := decimal first List.mem_cons_self
        rw [readSign_of_isDigit digit, readSpecial_of_isDigit digit, Option.none_or]

theorem integer?_natCast {value : Nat} (fits : (value : Int) < Number.signedBound64) :
    integer? value = some (.integer value) := by
  have lowest : -Number.signedBound64 ≤ value := by
    unfold Number.signedBound64
    omega
  rw [integer?, if_pos ⟨lowest, fits⟩]

/-- A number that nothing follows is an integer. -/
theorem readDecimal_of_readWhole {text : Text} {values : List Nat} {value : Nat}
    (sign : readSign text = (false, text)) (whole : readWhole text = some (values, []))
    (same : Number.ofDigits 10 values = value)
    (integer : integer? value = some (.integer value)) :
    readDecimal text = some (.integer value, []) := by
  have fraction : readFraction [] = some (none, []) := rfl
  have exponent : readExponent [] = some (none, []) := rfl
  rw [readDecimal, sign]
  dsimp only
  rw [whole, Option.bind_eq_bind, Option.bind_some]
  dsimp only
  rw [fraction, Option.bind_eq_bind, Option.bind_some]
  dsimp only
  rw [exponent, Option.bind_eq_bind, Option.bind_some]
  dsimp only
  rw [if_pos ⟨rfl, rfl⟩, if_neg Bool.false_ne_true, same, integer]
  rfl

theorem readDecimal_toDigits {value : Nat} (fits : (value : Int) < Number.signedBound64) :
    readDecimal (Nat.toDigits 10 value) = some (.integer value, []) := by
  have decimal := @isDigit_of_mem_toDigits value
  have sign : readSign (Nat.toDigits 10 value) = (false, Nat.toDigits 10 value) := by
    cases digits : Nat.toDigits 10 value with
    | nil => exact absurd digits Nat.toDigits_ne_nil
    | cons first rest =>
        exact readSign_of_isDigit (decimal first (digits ▸ List.mem_cons_self)) rest
  exact readDecimal_of_readWhole sign (readWhole_toDigits value) (ofDigits_toDigits value)
    (integer?_natCast fits)

/-! ## Neither a date nor a time -/

theorem snd_of_readFixed {count : Nat} {text : Text} {found : Nat × Text}
    (read : readFixed count text = some found) : found.2 = text.drop count := by
  rw [readFixed] at read
  dsimp only at read
  split at read
  · cases read
  · cases digits : (text.take count).mapM (Number.digitIn? 10) with
    | none =>
        rw [digits] at read
        cases read
    | some digits =>
        rw [digits] at read
        cases read
        rfl

theorem beginsDigits_of_isDigit {digits : Text} {mark : Char} (count : Nat)
    (other : mark.isDigit = false)
    (decimal : ∀ character ∈ digits, character.isDigit = true) :
    beginsDigits count mark digits = false := by
  rw [beginsDigits]
  cases read : readFixed count digits with
  | none => rfl
  | some found =>
      rw [Option.bind_some, snd_of_readFixed read]
      cases behind : digits.drop count with
      | nil => rfl
      | cons first rest =>
          have member : first ∈ digits :=
            List.mem_of_mem_drop (behind ▸ List.mem_cons_self)
          have different : first ≠ mark := by
            intro same
            rw [← same, decimal first member] at other
            cases other
          rw [expect, if_neg different]
          rfl

theorem readCandidate_toDigits {value : Nat} (fits : (value : Int) < Number.signedBound64) :
    readCandidate (Nat.toDigits 10 value) = some (.integer value, []) := by
  have decimal := @isDigit_of_mem_toDigits value
  rw [readCandidate, beginsDigits_of_isDigit 4 (by decide) decimal,
    beginsDigits_of_isDigit 2 (by decide) decimal, if_neg Bool.false_ne_true,
    if_neg Bool.false_ne_true, readNumber_of_isDigit Nat.toDigits_ne_nil decimal,
    readDecimal_toDigits fits]

/-- A number that fits is read back at the end of a line. -/
theorem readNumberOrDate_toDigits {value : Nat}
    (fits : (value : Int) < Number.signedBound64) (rest : Text) :
    readNumberOrDate (Nat.toDigits 10 value ++ '\n' :: rest) =
      some (.integer value, '\n' :: rest) := by
  have candidate : (Nat.toDigits 10 value ++ '\n' :: rest).takeWhile isCandidateCharacter =
      Nat.toDigits 10 value := by
    have passes : ∀ character ∈ Nat.toDigits 10 value, isCandidateCharacter character = true := by
      intro character member
      simp [isCandidateCharacter, Char.isAlphanum, isDigit_of_mem_toDigits character member]
    rw [List.takeWhile_append_of_pos passes, List.takeWhile_cons_of_neg (by decide),
      List.append_nil]
  rw [readNumberOrDate, candidate, readCandidate_toDigits fits]
  simp

/-! ## Scalars -/

theorem readScalar_of_isDigit {first : Char} (digit : first.isDigit = true) (rest : Text) :
    readScalar (first :: rest) = readNumberOrDate (first :: rest) := by
  unfold readScalar
  split
  · next same => exact absurd ((List.cons.inj same).1 ▸ digit) (by decide)
  · next same => exact absurd ((List.cons.inj same).1 ▸ digit) (by decide)
  · next same => exact absurd ((List.cons.inj same).1 ▸ digit) (by decide)
  · next same => exact absurd ((List.cons.inj same).1 ▸ digit) (by decide)
  · rfl

theorem readScalar_toDigits {value : Nat} (fits : (value : Int) < Number.signedBound64)
    (rest : Text) :
    readScalar (Nat.toDigits 10 value ++ '\n' :: rest) = some (.integer value, '\n' :: rest) := by
  have read := readNumberOrDate_toDigits fits rest
  have decimal := @isDigit_of_mem_toDigits value
  cases digits : Nat.toDigits 10 value with
  | nil => exact absurd digits Nat.toDigits_ne_nil
  | cons first more =>
      rw [digits, List.cons_append] at read
      rw [List.cons_append, readScalar_of_isDigit (decimal first (digits ▸ List.mem_cons_self))]
      exact read

theorem quoted_cases (text : Text) :
    ∃ inside, quoted text = '"' :: inside ∨ quoted text = '\x27' :: inside := by
  rw [quoted]
  cases QuotedForm.of text with
  | basic | basicBlock => exact ⟨_, .inl rfl⟩
  | literal | literalBlock => exact ⟨_, .inr rfl⟩

theorem readScalar_quoted (text rest : Text) :
    readScalar (quoted text ++ '\n' :: rest) = some (.string text, '\n' :: rest) := by
  have read : readString (quoted text ++ '\n' :: rest) = some (text, '\n' :: rest) :=
    readString_quoted text nofun nofun
  rcases quoted_cases text with ⟨inside, quote | apostrophe⟩
  · rw [quote] at read ⊢
    exact congrArg (Option.map fun found => (Toml.string found.1, found.2)) read
  · rw [apostrophe] at read ⊢
    exact congrArg (Option.map fun found => (Toml.string found.1, found.2)) read

end Toml

end LiveEditor
