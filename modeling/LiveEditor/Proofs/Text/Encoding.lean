import LiveEditor.Text.Utf8

/-! # Reading what was encoded

A character is encoded in one to four bytes, and the first of them tells how many
follow.  So strict reading finds each character of an encoded text again, whatever
comes behind it.
-/

namespace LiveEditor.Utf8

/-! ## Continuation bytes -/

/-- A continuation byte adds the six bits that it was made of. -/
theorem readContinuations_cons {lowest highest code taken missing bits : Nat}
    {rest : List UInt8} (few : bits < 64)
    (bounds : lowest ≤ bits + 0x80 ∧ bits + 0x80 ≤ highest) :
    readContinuations lowest highest code taken (missing + 1)
        (UInt8.ofNat (bits + 0x80) :: rest) =
      readContinuations 0x80 0xBF (code * 64 + bits) (taken + 1) missing rest := by
  have byte : (UInt8.ofNat (bits + 0x80)).toNat = bits + 0x80 := by
    rw [UInt8.toNat_ofNat']
    omega
  rw [readContinuations, byte, if_pos bounds, Nat.add_sub_cancel]

theorem readContinuations_cons_any {code taken missing bits : Nat} {rest : List UInt8}
    (few : bits < 64) :
    readContinuations 0x80 0xBF code taken (missing + 1)
        (UInt8.ofNat (bits + 0x80) :: rest) =
      readContinuations 0x80 0xBF (code * 64 + bits) (taken + 1) missing rest :=
  readContinuations_cons few (by omega)

/-! ## First bytes -/

theorem readCharacter_ofNat {first : Nat} {lead : Lead} (byte : first < 256)
    (high : 0x80 ≤ first) (announced : lead? first = some lead) (rest : List UInt8) :
    readCharacter (UInt8.ofNat first) rest =
      readContinuations lead.lowest lead.highest lead.bits 0 lead.continuations rest := by
  have value : (UInt8.ofNat first).toNat = first := by
    rw [UInt8.toNat_ofNat']
    omega
  rw [readCharacter, value, if_neg (Nat.not_lt.2 high), announced]

theorem lead?_two {bits : Nat} (least : 2 ≤ bits) (few : bits < 32) :
    lead? (bits + 0xC0) = some ⟨bits, 1, 0x80, 0xBF⟩ := by
  rw [lead?, if_pos (by omega), Nat.add_sub_cancel]

/-- The lowest second byte excludes what fits into two bytes, and the highest one
excludes the code points that are no characters. -/
theorem exists_lead?_three {bits next : Nat} (few : bits < 16) (six : next < 64)
    (least : 0x20 ≤ bits * 64 + next) (surrogate : bits = 0xD → next < 0x20) :
    ∃ lowest highest, lead? (bits + 0xE0) = some ⟨bits, 2, lowest, highest⟩ ∧
      lowest ≤ next + 0x80 ∧ next + 0x80 ≤ highest := by
  unfold lead?
  split
  · omega
  split
  · exact ⟨0xA0, 0xBF, by simp; omega, by omega⟩
  split
  · exact ⟨0x80, 0x9F, by simp; omega, by omega⟩
  split
  · exact ⟨0x80, 0xBF, by simp, by omega⟩
  · omega

theorem exists_lead?_four {bits next : Nat} (six : next < 64)
    (least : 0x10 ≤ bits * 64 + next) (highest : bits * 64 + next < 0x110) :
    ∃ lowest highest, lead? (bits + 0xF0) = some ⟨bits, 3, lowest, highest⟩ ∧
      lowest ≤ next + 0x80 ∧ next + 0x80 ≤ highest := by
  unfold lead?
  split
  · omega
  split
  · omega
  split
  · omega
  split
  · omega
  split
  · exact ⟨0x90, 0xBF, by simp; omega, by omega⟩
  split
  · exact ⟨0x80, 0xBF, by simp, by omega⟩
  split
  · exact ⟨0x80, 0x8F, by simp; omega, by omega⟩
  · omega

/-! ## Whole characters -/

/-- What encodes a character is read as that character. -/
theorem exists_readCharacter_encoded (character : Char) (rest : List UInt8) :
    ∃ first more, String.utf8EncodeChar character = first :: more ∧
      readCharacter first (more ++ rest) = .character character more.length := by
  have valid : character.val.toNat < 0xD800 ∨
      0xDFFF < character.val.toNat ∧ character.val.toNat < 0x110000 := character.valid
  have same : Char.ofNat character.val.toNat = character := character.ofNat_toNat
  unfold String.utf8EncodeChar
  generalize character.val.toNat = code at valid same
  dsimp only
  have six : ∀ number, number % 64 < 64 := fun number => Nat.mod_lt number (by decide)
  split
  · next one =>
      refine ⟨_, [], rfl, ?_⟩
      have value : (UInt8.ofNat code).toNat = code := by
        rw [UInt8.toNat_ofNat']
        omega
      rw [readCharacter, value, if_pos (by omega), same]
      rfl
  split
  · next two =>
      refine ⟨_, _, rfl, ?_⟩
      have whole : code / 64 % 32 * 64 + code % 64 = code := by omega
      rw [readCharacter_ofNat (by omega) (by omega) (lead?_two (by omega) (by omega)),
        List.cons_append, readContinuations_cons_any (six _), whole, readContinuations, same]
      rfl
  split
  · next three =>
      refine ⟨_, _, rfl, ?_⟩
      have whole : (code / 4096 % 16 * 64 + code / 64 % 64) * 64 + code % 64 = code := by omega
      rcases @exists_lead?_three (code / 4096 % 16) (code / 64 % 64) (by omega) (six _)
        (by omega) (by omega) with ⟨lowest, highest, announced, bounds⟩
      rw [readCharacter_ofNat (by omega) (by omega) announced, List.cons_append,
        readContinuations_cons (six _) bounds, List.cons_append,
        readContinuations_cons_any (six _), whole, readContinuations, same]
      rfl
  · next four =>
      refine ⟨_, _, rfl, ?_⟩
      have whole : ((code / 262144 % 8 * 64 + code / 4096 % 64) * 64 + code / 64 % 64) * 64 +
          code % 64 = code := by omega
      rcases @exists_lead?_four (code / 262144 % 8) (code / 4096 % 64) (six _)
        (by omega) (by omega) with ⟨lowest, highest, announced, bounds⟩
      rw [readCharacter_ofNat (by omega) (by omega) announced, List.cons_append,
        readContinuations_cons (six _) bounds, List.cons_append,
        readContinuations_cons_any (six _), List.cons_append,
        readContinuations_cons_any (six _), whole, readContinuations, same]
      rfl

/-! ## Whole texts -/

theorem decodeFrom?_skip (front rest : List UInt8) :
    decodeFrom? front.length (front ++ rest) = decodeFrom? 0 rest := by
  induction front with
  | nil => rfl
  | cons first front induction => exact induction

/-- An encoded text is well-formed, and it is read as the text. -/
theorem decode?_encode (text : Text) : decode? (encode text) = some text := by
  rw [decode?]
  induction text with
  | nil => rfl
  | cons character rest induction =>
      rcases exists_readCharacter_encoded character (encode rest) with
        ⟨first, more, encoded, read⟩
      have bytes : encode (character :: rest) = first :: (more ++ encode rest) := by
        rw [encode, List.flatMap_cons, encoded]
        rfl
      rw [bytes, decodeFrom?, read]
      dsimp only
      rw [decodeFrom?_skip, induction]
      rfl

end LiveEditor.Utf8
