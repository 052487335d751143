import LiveEditor.Text.Utf8
import Mathlib.Algebra.Group.Nat.Defs

/-! # Lossy reading around ASCII bytes

An ASCII byte never belongs to a longer character, so lossy reading may be
interrupted in front of it and taken up behind it, whatever the bytes on its two
sides are.  Nor do other bytes ever become an ASCII character, except that this
file leaves the NUL out, which stands for code points that do not exist.
-/

namespace LiveEditor.Utf8

/-! ## Fronts -/

namespace Front

def shown : Front → Char
  | .character value _ => value
  | .invalid _ => replacement

def extra : Front → Nat
  | .character _ extra => extra
  | .invalid extra => extra

end Front

@[simp] theorem decodeLossyFrom_nil (skip : Nat) : decodeLossyFrom skip [] = [] := by
  cases skip <;> rfl

theorem decodeLossyFrom_zero (first : UInt8) (rest : List UInt8) :
    decodeLossyFrom 0 (first :: rest) =
      (readCharacter first rest).shown ::
        decodeLossyFrom (readCharacter first rest).extra rest := by
  rw [decodeLossyFrom]
  split <;> next equal => rw [equal]; rfl

/-- What a first byte announces.  The first continuation byte is above the ASCII
range, and the lowest character that can follow is so, too. -/
theorem bounds_of_lead? {byte : Nat} {lead : Lead} (announced : lead? byte = some lead) :
    0x80 ≤ lead.lowest ∧
      ∃ more, lead.continuations = more + 1 ∧
        0x80 ≤ (lead.bits * 64 + (lead.lowest - 0x80)) * 64 ^ more := by
  simp only [lead?] at announced
  split at announced
  · rcases Option.some.inj announced with rfl
    exact ⟨Nat.le_refl _, 0, rfl, by dsimp only; omega⟩
  split at announced
  · rcases Option.some.inj announced with rfl
    exact ⟨by decide, 1, rfl, by decide⟩
  split at announced
  · rcases Option.some.inj announced with rfl
    exact ⟨by decide, 1, rfl, by decide⟩
  split at announced
  · rcases Option.some.inj announced with rfl
    exact ⟨Nat.le_refl _, 1, rfl, by dsimp only; omega⟩
  split at announced
  · rcases Option.some.inj announced with rfl
    exact ⟨by decide, 2, rfl, by decide⟩
  split at announced
  · rcases Option.some.inj announced with rfl
    exact ⟨Nat.le_refl _, 2, rfl, by dsimp only; omega⟩
  split at announced
  · rcases Option.some.inj announced with rfl
    exact ⟨by decide, 2, rfl, by decide⟩
  · cases announced

/-! ## An ASCII byte ends a front -/

theorem extra_readContinuations_le (lowest highest code taken missing : Nat)
    (bytes : List UInt8) :
    (readContinuations lowest highest code taken missing bytes).extra ≤
      taken + bytes.length := by
  induction bytes generalizing lowest highest code taken missing with
  | nil => cases missing <;> exact Nat.le_refl taken
  | cons byte rest hypothesis =>
      cases missing with
      | zero => exact Nat.le_add_right taken _
      | succ missing =>
          rw [readContinuations]
          split
          · refine Nat.le_trans (hypothesis _ _ _ _ _) ?_
            simp only [List.length_cons]
            omega
          · exact Nat.le_add_right taken _

theorem extra_readCharacter_le (first : UInt8) (rest : List UInt8) :
    (readCharacter first rest).extra ≤ rest.length := by
  rw [readCharacter]
  split
  · exact Nat.zero_le _
  · split
    · exact Nat.zero_le _
    · simpa using extra_readContinuations_le _ _ _ 0 _ rest

theorem readContinuations_append_ascii {lowest : Nat} (above : 0x80 ≤ lowest)
    (highest code taken missing : Nat) (front rest : List UInt8) {byte : UInt8}
    (ascii : byte.toNat < 0x80) :
    readContinuations lowest highest code taken missing (front ++ byte :: rest) =
      readContinuations lowest highest code taken missing front := by
  induction front generalizing lowest highest code taken missing with
  | nil =>
      cases missing with
      | zero => simp [readContinuations]
      | succ missing =>
          have outside : ¬ (lowest ≤ byte.toNat ∧ byte.toNat ≤ highest) := by omega
          simp only [List.nil_append, readContinuations, if_neg outside]
  | cons first front hypothesis =>
      cases missing with
      | zero => simp [readContinuations]
      | succ missing =>
          simp only [List.cons_append, readContinuations]
          split
          · exact hypothesis (Nat.le_refl _) _ _ _ _
          · rfl

theorem readCharacter_append_ascii (first : UInt8) (front rest : List UInt8)
    {byte : UInt8} (ascii : byte.toNat < 0x80) :
    readCharacter first (front ++ byte :: rest) = readCharacter first front := by
  simp only [readCharacter]
  split
  · rfl
  · split
    · rfl
    · next announced =>
        exact readContinuations_append_ascii (bounds_of_lead? announced).1
          _ _ _ _ _ _ ascii

theorem decodeLossyFrom_append_ascii {skip : Nat} {front : List UInt8}
    (rest : List UInt8) {byte : UInt8} (ascii : byte.toNat < 0x80)
    (within : skip ≤ front.length) :
    decodeLossyFrom skip (front ++ byte :: rest) =
      decodeLossyFrom skip front ++ decodeLossy (byte :: rest) := by
  induction front generalizing skip with
  | nil =>
      rcases Nat.le_zero.1 within with rfl
      simp [decodeLossy]
  | cons first front hypothesis =>
      cases skip with
      | zero =>
          rw [List.cons_append, decodeLossyFrom_zero, decodeLossyFrom_zero,
            readCharacter_append_ascii first front rest ascii,
            hypothesis (extra_readCharacter_le first front), List.cons_append]
      | succ skip => exact hypothesis (Nat.le_of_succ_le_succ within)

theorem decodeLossy_ascii_cons {byte : UInt8} (rest : List UInt8)
    (ascii : byte.toNat < 0x80) :
    decodeLossy (byte :: rest) = Char.ofNat byte.toNat :: decodeLossy rest := by
  have front : readCharacter byte rest = .character (Char.ofNat byte.toNat) 0 := by
    rw [readCharacter, if_pos ascii]
  rw [decodeLossy, decodeLossyFrom_zero, front]
  rfl

/-- Lossy reading takes the two sides of an ASCII byte by themselves. -/
theorem decodeLossy_append_ascii (front rest : List UInt8) {byte : UInt8}
    (ascii : byte.toNat < 0x80) :
    decodeLossy (front ++ byte :: rest) =
      decodeLossy front ++ Char.ofNat byte.toNat :: decodeLossy rest := by
  rw [← decodeLossy_ascii_cons rest ascii]
  exact decodeLossyFrom_append_ascii rest ascii (Nat.zero_le _)

@[simp] theorem decodeLossy_nil : decodeLossy [] = [] := rfl

@[simp] theorem decodeLossy_eq_nil_iff {bytes : List UInt8} :
    decodeLossy bytes = [] ↔ bytes = [] := by
  cases bytes with
  | nil => simp
  | cons first rest => simp [decodeLossy, decodeLossyFrom_zero]

/-! ## No ASCII character but from an ASCII byte -/

theorem toNat_ofNat_ascii {code : Nat} (ascii : code < 0x80) :
    (Char.ofNat code).toNat = code := by
  have valid : code.isValidChar := Or.inl (by omega)
  rw [Char.ofNat, dif_pos valid]
  rfl

/-- A code point that does not exist is shown as the NUL. -/
theorem toNat_ofNat_eq_zero_or (code : Nat) :
    (Char.ofNat code).toNat = 0 ∨ (Char.ofNat code).toNat = code := by
  by_cases valid : code.isValidChar
  · rw [Char.ofNat, dif_pos valid]
    exact .inr rfl
  · rw [Char.ofNat, dif_neg valid]
    exact .inl rfl

/-- Continuation bytes only make a code point larger. -/
theorem le_toNat_of_readContinuations {lowest highest code taken missing extra : Nat}
    {bytes : List UInt8} {value : Char}
    (read : readContinuations lowest highest code taken missing bytes =
      .character value extra) :
    value.toNat = 0 ∨ code * 64 ^ missing ≤ value.toNat := by
  have complete : ∀ final, Char.ofNat final = value →
      value.toNat = 0 ∨ final * 64 ^ 0 ≤ value.toNat := by
    rintro final rfl
    have shown := toNat_ofNat_eq_zero_or final
    omega
  induction bytes generalizing lowest highest code taken missing with
  | nil =>
      cases missing with
      | zero =>
          exact complete code (Front.character.inj read).1
      | succ missing => simp [readContinuations] at read
  | cons byte rest hypothesis =>
      cases missing with
      | zero =>
          exact complete code (Front.character.inj read).1
      | succ missing =>
          rw [readContinuations] at read
          split at read
          · refine (hypothesis read).imp_right (Nat.le_trans ?_)
            rw [Nat.pow_succ, Nat.mul_comm (64 ^ missing), ← Nat.mul_assoc]
            exact Nat.mul_le_mul_right _ (Nat.le_add_right _ _)
          · cases read

/-- A byte above the ASCII range starts no ASCII character but the NUL. -/
theorem toNat_of_readCharacter {first : UInt8} {rest : List UInt8} {value : Char}
    {extra : Nat} (read : readCharacter first rest = .character value extra)
    (high : 0x80 ≤ first.toNat) : value.toNat = 0 ∨ 0x80 ≤ value.toNat := by
  rw [readCharacter, if_neg (Nat.not_lt.2 high)] at read
  split at read
  · cases read
  · next lead announced =>
      rcases bounds_of_lead? announced with ⟨_, more, continuations, large⟩
      rw [continuations] at read
      cases rest with
      | nil => simp [readContinuations] at read
      | cons byte rest =>
          rw [readContinuations] at read
          split at read
          · next within =>
              refine (le_toNat_of_readContinuations read).imp_right (Nat.le_trans ?_)
              refine Nat.le_trans large (Nat.mul_le_mul_right _ ?_)
              omega
          · cases read

theorem toNat_shown_readCharacter {first : UInt8} {rest : List UInt8}
    (ascii : (readCharacter first rest).shown.toNat < 0x80)
    (proper : (readCharacter first rest).shown.toNat ≠ 0) :
    (readCharacter first rest).shown.toNat = first.toNat := by
  by_cases low : first.toNat < 0x80
  · simp only [readCharacter, if_pos low, Front.shown]
    exact toNat_ofNat_ascii low
  · cases read : readCharacter first rest with
    | character value extra =>
        rw [read] at ascii proper
        have possible := toNat_of_readCharacter read (Nat.not_lt.1 low)
        simp only [Front.shown] at ascii proper
        omega
    | invalid extra =>
        rw [read] at ascii
        exact absurd ascii (by simp [Front.shown]; decide)

/-- An ASCII character other than the NUL is read from its own byte. -/
theorem eq_of_shown_eq {first byte : UInt8} {rest : List UInt8}
    (ascii : byte.toNat < 0x80) (proper : byte.toNat ≠ 0)
    (equal : (readCharacter first rest).shown = Char.ofNat byte.toNat) :
    first = byte := by
  have shown : (readCharacter first rest).shown.toNat = byte.toNat := by
    rw [equal]
    exact toNat_ofNat_ascii ascii
  have same := toNat_shown_readCharacter (shown ▸ ascii) (shown ▸ proper)
  exact UInt8.toNat_inj.1 (same.symm.trans shown)

theorem mem_of_mem_decodeLossy {bytes : List UInt8} {byte : UInt8}
    (ascii : byte.toNat < 0x80) (proper : byte.toNat ≠ 0)
    (member : Char.ofNat byte.toNat ∈ decodeLossy bytes) : byte ∈ bytes := by
  have within : ∀ skip, Char.ofNat byte.toNat ∈ decodeLossyFrom skip bytes →
      byte ∈ bytes := by
    clear member
    induction bytes with
    | nil => simp
    | cons first rest hypothesis =>
        intro skip member
        cases skip with
        | succ skip => exact List.mem_cons_of_mem first (hypothesis skip member)
        | zero =>
            rw [decodeLossyFrom_zero] at member
            rcases List.mem_cons.1 member with equal | member
            · rw [eq_of_shown_eq ascii proper equal.symm]
              exact List.mem_cons_self
            · exact List.mem_cons_of_mem first (hypothesis _ member)
  exact within 0 member

end LiveEditor.Utf8
