import LiveEditor.Unicode.CaseFolding
import LiveEditor.Unicode.Word

/-! # Case folding and word characters

A table of code points stands for a set of numbers, which the bits of one number
can hold as well.  With these bits it is seen that every row of case folding leads
from word characters to word characters, so whether a character belongs to a word
does not depend on its case.
-/

namespace LiveEditor.Unicode

namespace CodeRanges

/-! ## Tables as sets of bits -/

def bits : CodeRanges → Nat
  | [] => 0
  | (first, last) :: rest => (1 <<< (last + 1 - first) - 1) <<< first ||| bits rest

theorem testBit_bits {ranges : CodeRanges} {code : Nat} :
    ranges.bits.testBit code = true ↔ ∃ range ∈ ranges, range.1 ≤ code ∧ code ≤ range.2 := by
  induction ranges with
  | nil => simp [bits]
  | cons range rest induction =>
      rcases range with ⟨first, last⟩
      have inside : (first ≤ code ∧ code - first < last + 1 - first) ↔
          first ≤ code ∧ code ≤ last := by omega
      rw [bits, Nat.testBit_or, Bool.or_eq_true, induction, Nat.testBit_shiftLeft,
        Nat.one_shiftLeft, Nat.testBit_two_pow_sub_one]
      simp [inside]

theorem exists_of_contains {ranges : CodeRanges} {code : Nat}
    (contains : ranges.contains code = true) :
    ∃ range ∈ ranges, range.1 ≤ code ∧ code ≤ range.2 := by
  induction ranges with
  | nil => cases contains
  | cons range rest induction =>
      rcases range with ⟨first, last⟩
      rw [CodeRanges.contains] at contains
      split at contains
      · cases contains
      · next above =>
          split at contains
          · next below =>
              exact ⟨_, List.mem_cons_self, Nat.le_of_not_lt above, below⟩
          · rcases induction contains with ⟨other, member, inside⟩
            exact ⟨other, List.mem_cons_of_mem _ member, inside⟩

theorem separated_cons {range : Nat × Nat} {rest : CodeRanges}
    (separated : CodeRanges.separated (range :: rest) = true) :
    range.1 ≤ range.2 ∧ CodeRanges.separated rest = true ∧
      ∀ other ∈ rest, range.2 < other.1 := by
  induction rest generalizing range with
  | nil => exact ⟨by simpa [CodeRanges.separated] using separated, rfl, List.forall_mem_nil _⟩
  | cons next rest induction =>
      simp only [CodeRanges.separated, Bool.and_eq_true, decide_eq_true_eq] at separated
      have ⟨⟨ordered, apart⟩, restSeparated⟩ := separated
      have ⟨nextOrdered, _, behind⟩ := induction restSeparated
      refine ⟨ordered, restSeparated, List.forall_mem_cons.2 ⟨by omega, ?_⟩⟩
      intro other member
      have further := behind other member
      omega

/-- In a table whose ranges are in order, a code point is found in each range that
holds it. -/
theorem contains_of_mem {ranges : CodeRanges} (separated : ranges.separated = true)
    {range : Nat × Nat} (member : range ∈ ranges) {code : Nat} (above : range.1 ≤ code)
    (below : code ≤ range.2) : ranges.contains code = true := by
  induction ranges with
  | nil => cases member
  | cons first rest induction =>
      have ⟨ordered, restSeparated, behind⟩ := separated_cons separated
      rw [CodeRanges.contains]
      rcases List.mem_cons.1 member with rfl | later
      · rw [if_neg (Nat.not_lt.2 above), if_pos below]
      · have further := behind range later
        rw [if_neg (by omega), if_neg (by omega)]
        exact induction restSeparated later

end CodeRanges

/-! ## Rows of case folding -/

theorem separated_alphabeticRanges : alphabeticRanges.separated = true := by
  decide +kernel

def isLetterCode (code : Nat) : Bool :=
  alphabeticRanges.bits.testBit code && !latestRanges.bits.testBit code

theorem isWord_of_isLetterCode {character : Char}
    (letter : isLetterCode character.toNat = true) : isWord character = true := by
  rw [isLetterCode, Bool.and_eq_true, Bool.not_eq_true'] at letter
  rcases CodeRanges.testBit_bits.1 letter.1 with ⟨range, member, above, below⟩
  have alphabetic : isAlphabetic character = true :=
    CodeRanges.contains_of_mem separated_alphabeticRanges member above below
  have usual : latestRanges.contains character.toNat = false := by
    rw [← Bool.not_eq_true]
    intro latest
    have bit := CodeRanges.testBit_bits.2 (CodeRanges.exists_of_contains latest)
    rw [letter.2] at bit
    cases bit
  rw [isWord, alphabetic, usual]
  rfl

def FoldRow.keepsLetters (row : FoldRow) : Bool :=
  (List.range (row.last - row.first + 1)).all fun distance =>
    distance % row.step != 0 ||
      isLetterCode (row.first + distance) && isLetterCode (row.target + distance)

theorem keepsLetters_foldRows : foldRows.all FoldRow.keepsLetters = true := by
  decide +kernel

structure FoldRow.Folds (row : FoldRow) (code target : Nat) : Prop where
  above : row.first ≤ code
  below : code ≤ row.last
  stepped : (code - row.first) % row.step = 0
  target_eq : target = row.target + (code - row.first)

theorem FoldRow.Folds.letters {row : FoldRow} (member : row ∈ foldRows) {code target : Nat}
    (folds : row.Folds code target) :
    isLetterCode code = true ∧ isLetterCode target = true := by
  rcases folds with ⟨above, below, stepped, rfl⟩
  have keeps := List.all_eq_true.1 keepsLetters_foldRows row member
  have here := List.all_eq_true.1 keeps (code - row.first) (List.mem_range.2 (by omega))
  rw [stepped, Nat.add_sub_cancel' above] at here
  simpa using here

/-- A code point folds to itself, or by a row. -/
theorem foldCodeWith_cases (rows : List FoldRow) (code : Nat) :
    foldCodeWith rows code = code ∨
      ∃ row ∈ rows, row.Folds code (foldCodeWith rows code) := by
  induction rows with
  | nil => exact .inl rfl
  | cons row rest induction =>
      rw [foldCodeWith]
      split
      · exact .inl rfl
      · next above =>
          split
          · next below =>
              split
              · next stepped =>
                  exact .inr ⟨row, List.mem_cons_self, Nat.le_of_not_lt above, below,
                    stepped, rfl⟩
              · exact .inl rfl
          · rcases induction with same | ⟨other, member, folds⟩
            · exact .inl same
            · exact .inr ⟨other, List.mem_cons_of_mem row member, folds⟩

/-- A character that changes its code is a letter, and so is every character with
the code that it changes to. -/
theorem isWord_of_foldCode_ne {one other : Char} (changed : foldCode one ≠ one.toNat)
    (same : foldCode other = foldCode one) : isWord one = true ∧ isWord other = true := by
  rcases foldCodeWith_cases foldRows one.toNat with unchanged | ⟨row, member, folds⟩
  · exact absurd unchanged changed
  · have ⟨letter, targetLetter⟩ := folds.letters member
    refine ⟨isWord_of_isLetterCode letter, isWord_of_isLetterCode ?_⟩
    rcases foldCodeWith_cases foldRows other.toNat with
      unchanged | ⟨otherRow, otherMember, otherFolds⟩
    · have target : other.toNat = foldCodeWith foldRows one.toNat := unchanged.symm.trans same
      rw [target]
      exact targetLetter
    · exact (otherFolds.letters otherMember).1

/-- Characters that differ at most in case belong to words alike. -/
theorem isWord_eq_of_foldCode_eq {one other : Char} (same : foldCode one = foldCode other) :
    isWord one = isWord other := by
  by_cases oneChanged : foldCode one = one.toNat
  · by_cases otherChanged : foldCode other = other.toNat
    · rw [oneChanged, otherChanged, Char.toNat_inj] at same
      rw [same]
    · have words := isWord_of_foldCode_ne otherChanged same
      rw [words.1, words.2]
  · have words := isWord_of_foldCode_ne oneChanged same.symm
    rw [words.1, words.2]

end LiveEditor.Unicode
