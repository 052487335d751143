import LiveEditor.Proofs.Text.Boundary
import LiveEditor.Text.Lines

/-! # The line of an offset

Every line begins and ends at a boundary of its text.  An offset lies in the line
whose number is one more than the number of line feeds among the bytes before it,
and in no other, so the lines of several numbers cover it if this number is among
them.
-/

namespace LiveEditor

namespace Utf8

/-- A byte of a character is the character itself or above the ASCII range. -/
theorem toNat_of_mem_utf8EncodeChar {character : Char} {byte : UInt8}
    (member : byte ∈ String.utf8EncodeChar character) :
    byte.toNat = character.toNat ∨ 0x80 ≤ byte.toNat := by
  have code : character.toNat = character.val.toNat := rfl
  simp only [String.utf8EncodeChar] at member
  split at member
  · rcases List.mem_singleton.1 member with rfl
    rw [UInt8.toNat_ofNat']
    omega
  · right
    split at member
    · simp only [List.mem_cons, List.not_mem_nil, or_false] at member
      rcases member with rfl | rfl <;> rw [UInt8.toNat_ofNat'] <;> omega
    · split at member
      · simp only [List.mem_cons, List.not_mem_nil, or_false] at member
        rcases member with rfl | rfl | rfl <;> rw [UInt8.toNat_ofNat'] <;> omega
      · simp only [List.mem_cons, List.not_mem_nil, or_false] at member
        rcases member with rfl | rfl | rfl | rfl <;> rw [UInt8.toNat_ofNat'] <;> omega

end Utf8

namespace Text

/-! ## Line feeds before an offset -/

def feedsBefore (text : Text) (offset : Nat) : Nat :=
  ((Utf8.encode text).take offset).count '\n'.toUInt8

example : feedsBefore "é\n\n".toList 3 = 1 := by decide

theorem not_mem_utf8EncodeChar {character : Char} (notFeed : character ≠ '\n') :
    '\n'.toUInt8 ∉ String.utf8EncodeChar character := by
  intro member
  have code : character.toNat = 10 := by
    rcases Utf8.toNat_of_mem_utf8EncodeChar member with same | high
    · exact same.symm
    · exact absurd high (by decide)
  exact notFeed (Char.ext (UInt32.toNat_inj.1 code))

theorem feedsBefore_zero (text : Text) : text.feedsBefore 0 = 0 := by
  rw [feedsBefore, List.take_zero, List.count_nil]

/-- No line feed comes before the end of the first character. -/
theorem feedsBefore_cons_of_lt {character : Char} {offset : Nat} (rest : Text)
    (inside : offset < character.utf8Size) :
    feedsBefore (character :: rest) offset = 0 := by
  by_cases feed : character = '\n'
  · subst feed
    rw [Nat.lt_one_iff.1 inside, feedsBefore_zero]
  · have within : offset ≤ (String.utf8EncodeChar character).length := by
      rw [String.length_utf8EncodeChar]
      omega
    rw [feedsBefore, Utf8.encode, List.flatMap_cons, List.take_append_of_le_length within,
      List.count_eq_zero]
    exact fun member => not_mem_utf8EncodeChar feed (List.mem_of_mem_take member)

theorem feedsBefore_cons_add (character : Char) (rest : Text) (offset : Nat) :
    feedsBefore (character :: rest) (character.utf8Size + offset) =
      (if character = '\n' then 1 else 0) + rest.feedsBefore offset := by
  rw [feedsBefore, Utf8.encode, List.flatMap_cons, ← String.length_utf8EncodeChar,
    List.take_length_add_append, List.count_append, ← Utf8.encode, ← feedsBefore]
  congr 1
  split
  · next feed =>
      subst feed
      decide
  · next notFeed => exact List.count_eq_zero.2 (not_mem_utf8EncodeChar notFeed)

end Text

/-! ## Where lines begin -/

namespace LineIndex

theorem startsFrom_append (position : Nat) (front back : List UInt8) :
    startsFrom position (front ++ back) =
      startsFrom position front ++
        startsFrom (position + front.length) back := by
  induction front generalizing position with
  | nil => rfl
  | cons byte rest induction =>
      simp only [List.cons_append, startsFrom, List.length_cons, induction]
      rw [Nat.add_assoc position 1, Nat.add_comm 1]
      split <;> rfl

theorem startsFrom_of_not_mem (position : Nat) {bytes : List UInt8}
    (unbroken : '\n'.toUInt8 ∉ bytes) : startsFrom position bytes = [] := by
  induction bytes generalizing position with
  | nil => rfl
  | cons byte rest induction =>
      rw [List.mem_cons, not_or] at unbroken
      rw [startsFrom, if_neg (Ne.symm unbroken.1), induction _ unbroken.2]

theorem startsFrom_encode_cons (position : Nat) (character : Char) (rest : Text) :
    startsFrom position (Utf8.encode (character :: rest)) =
      (if character = '\n' then [position + character.utf8Size] else []) ++
        startsFrom (position + character.utf8Size) (Utf8.encode rest) := by
  rw [Utf8.encode, List.flatMap_cons, startsFrom_append, String.length_utf8EncodeChar,
    ← Utf8.encode]
  congr 1
  split
  · next feed =>
      subst feed
      rfl
  · next notFeed => exact startsFrom_of_not_mem position (Text.not_mem_utf8EncodeChar notFeed)

end LineIndex

namespace Text

/-! ## The spans of all lines -/

/-- The spans of the lines of a text that begins at `position`, when the line
that `position` lies in has begun at `start`. -/
def lineSpansFrom (start position : Nat) : Text → List Span
  | [] => [⟨start, position⟩]
  | character :: rest =>
      let next := position + character.utf8Size
      if character = '\n' then
        ⟨start, next⟩ :: lineSpansFrom next next rest
      else
        lineSpansFrom start next rest

def lineSpans (text : Text) : List Span :=
  lineSpansFrom 0 0 text

example : lineSpans "é\nb\n".toList = [⟨0, 3⟩, ⟨3, 5⟩, ⟨5, 5⟩] := by decide

/-- Each line begins at one start and ends at the next; the last one ends with the
text. -/
theorem getElem?_lineSpansFrom (start position : Nat) (text : Text) (index : Nat) :
    let starts := start :: LineIndex.startsFrom position (Utf8.encode text)
    (lineSpansFrom start position text)[index]? =
      starts[index]?.map fun begun =>
        ⟨begun, starts[index + 1]?.getD (position + text.byteLength)⟩ := by
  intro starts
  induction text generalizing start position index with
  | nil => cases index <;> simp [starts, lineSpansFrom, Utf8.encode, LineIndex.startsFrom]
  | cons character rest induction =>
      simp only [starts, LineIndex.startsFrom_encode_cons, lineSpansFrom, byteLength_cons]
      rw [← Nat.add_assoc]
      by_cases feed : character = '\n'
      · rw [if_pos feed, if_pos feed]
        cases index with
        | zero => rfl
        | succ index => exact induction _ _ index
      · rw [if_neg feed, if_neg feed]
        exact induction _ _ index

theorem length_lineSpansFrom (start position : Nat) (text : Text) :
    (lineSpansFrom start position text).length =
      1 + (LineIndex.startsFrom position (Utf8.encode text)).length := by
  induction text generalizing start position with
  | nil => rfl
  | cons character rest induction =>
      simp only [lineSpansFrom, LineIndex.startsFrom_encode_cons]
      split
      · simp [induction, Nat.add_comm]
      · exact induction _ _

theorem lineCount_eq_length (text : Text) : text.lineCount = text.lineSpans.length := by
  rw [lineSpans, length_lineSpansFrom, Nat.add_comm]
  rfl

@[simp] theorem lineSpan?_zero (text : Text) : text.lineSpan? 0 = none := rfl

theorem lineSpan?_succ (text : Text) (index : Nat) :
    text.lineSpan? (index + 1) = text.lineSpans[index]? := by
  have spans := getElem?_lineSpansFrom 0 0 text index
  rw [Nat.zero_add] at spans
  rw [lineSpans, spans, lineSpan?, LineIndex.lineSpan?, LineIndex.ofText]
  simp only [List.getElem?_toArray]
  split <;> simp_all

/-! ## The lines around an offset -/

theorem le_start_of_mem_lineSpansFrom {start position : Nat} {text : Text}
    (begun : start ≤ position) :
    ∀ span ∈ lineSpansFrom start position text, start ≤ span.start := by
  induction text generalizing start position with
  | nil => simp [lineSpansFrom]
  | cons character rest induction =>
      intro span member
      rw [lineSpansFrom] at member
      split at member
      · rcases List.mem_cons.1 member with rfl | member
        · exact Nat.le_refl start
        · have further := induction (Nat.le_refl _) span member
          omega
      · exact induction (by omega) span member

/-- Among the lines from `start` on, of which the first has been read up to
`position`, an offset lies in the one that as many line feeds come before. -/
theorem contains_lineSpansFrom_iff {start position offset : Nat} {text : Text}
    (begun : start ≤ position) (behind : start ≤ offset)
    (inside : offset < position + text.byteLength) (index : Nat) :
    (∃ span, (lineSpansFrom start position text)[index]? = some span ∧
      span.contains offset = true) ↔ index = text.feedsBefore (offset - position) := by
  induction text generalizing start position index with
  | nil =>
      rw [byteLength_nil, Nat.add_zero] at inside
      rw [Nat.sub_eq_zero_of_le (Nat.le_of_lt inside), feedsBefore_zero, lineSpansFrom]
      cases index with
      | zero => simp [Span.contains_iff, behind, inside]
      | succ index => simp
  | cons character rest induction =>
      have size := character.utf8Size_pos
      rw [byteLength_cons, ← Nat.add_assoc] at inside
      have before : offset < position + character.utf8Size →
          feedsBefore (character :: rest) (offset - position) = 0 := fun earlier =>
        feedsBefore_cons_of_lt rest (by omega)
      have after : position + character.utf8Size ≤ offset →
          feedsBefore (character :: rest) (offset - position) =
            (if character = '\n' then 1 else 0) +
              feedsBefore rest (offset - (position + character.utf8Size)) := by
        intro later
        rw [← feedsBefore_cons_add]
        congr 1
        omega
      rw [lineSpansFrom]
      by_cases feed : character = '\n'
      · rw [if_pos feed]
        by_cases earlier : offset < position + character.utf8Size
        · rw [before earlier]
          cases index with
          | zero => simp [Span.contains_iff, behind, earlier]
          | succ index =>
              -- The lines behind the line feed begin behind the offset.
              simp only [List.getElem?_cons_succ, Nat.add_one_ne_zero, iff_false]
              rintro ⟨span, found, contains⟩
              have further := le_start_of_mem_lineSpansFrom (Nat.le_refl _) span
                (List.mem_of_getElem? found)
              rw [Span.contains_iff] at contains
              omega
        · rw [after (by omega), if_pos feed]
          cases index with
          | zero =>
              simp only [List.getElem?_cons_zero, Option.some.injEq, exists_eq_left',
                Span.contains_iff]
              omega
          | succ index =>
              rw [List.getElem?_cons_succ, induction (Nat.le_refl _) (by omega) inside]
              omega
      · rw [if_neg feed, induction (by omega) behind inside]
        by_cases earlier : offset < position + character.utf8Size
        · rw [before earlier, Nat.sub_eq_zero_of_le (Nat.le_of_lt earlier),
            feedsBefore_zero]
        · rw [after (by omega), if_neg feed, Nat.zero_add]

theorem contains_lineSpan?_iff {text : Text} {offset : Nat}
    (inside : offset < text.byteLength) (number : Nat) :
    (∃ span, text.lineSpan? number = some span ∧ span.contains offset = true) ↔
      number = 1 + text.feedsBefore offset := by
  cases number with
  | zero =>
      constructor
      · rintro ⟨_, found, _⟩
        cases found
      · intro impossible
        omega
  | succ index =>
      rw [lineSpan?_succ, lineSpans, contains_lineSpansFrom_iff (Nat.le_refl 0)
        (Nat.zero_le _) (by rwa [Nat.zero_add]), Nat.sub_zero]
      omega

/-! ## The ends of lines -/

theorem fits_of_mem_lineSpansFrom (before line rest : Text) :
    ∀ span ∈ lineSpansFrom before.byteLength (before ++ line).byteLength rest,
      span.Fits (before ++ line ++ rest) := by
  induction rest generalizing before line with
  | nil =>
      intro span member
      rcases List.mem_singleton.1 member with rfl
      exact Span.fits_of_append before line []
  | cons character rest induction =>
      have next : (before ++ line).byteLength + character.utf8Size =
          (before ++ (line ++ [character])).byteLength := by
        simp [Nat.add_assoc]
      have whole : before ++ line ++ character :: rest =
          before ++ (line ++ [character]) ++ rest := by
        simp
      intro span member
      rw [lineSpansFrom, next] at member
      rw [whole]
      split at member
      · rcases List.mem_cons.1 member with rfl | member
        · exact Span.fits_of_append before (line ++ [character]) rest
        · have fits := induction (before ++ (line ++ [character])) [] span
          rw [List.append_nil] at fits
          exact fits member
      · exact induction before (line ++ [character]) span member

theorem fits_of_lineSpan? {text : Text} {number : Nat} {span : Span}
    (found : text.lineSpan? number = some span) : span.Fits text := by
  cases number with
  | zero => cases found
  | succ index =>
      rw [lineSpan?_succ] at found
      exact fits_of_mem_lineSpansFrom [] [] text span (List.mem_of_getElem? found)

/-! ## The lines of several numbers -/

theorem isSome_lineSpan?_iff {text : Text} {number : Nat} :
    (text.lineSpan? number).isSome = true ↔ 0 < number ∧ number ≤ text.lineCount := by
  cases number with
  | zero => simp
  | succ index =>
      rw [lineSpan?_succ, lineCount_eq_length, isSome_getElem?]
      omega

theorem lineSpansAt_filter (text : Text) (numbers : List Nat) :
    text.lineSpansAt (numbers.filter fun number => (text.lineSpan? number).isSome) =
      text.lineSpansAt numbers := by
  rw [lineSpansAt_eq, lineSpansAt_eq, List.filterMap_filter]
  congr 1
  funext number
  cases text.lineSpan? number <;> rfl

theorem fits_of_mem_lineSpansAt {text : Text} {numbers : List Nat} {span : Span}
    (member : span ∈ text.lineSpansAt numbers) : span.Fits text := by
  rw [lineSpansAt_eq] at member
  rcases List.mem_filterMap.1 member with ⟨_, _, found⟩
  exact fits_of_lineSpan? found

theorem exists_mem_lineSpansAt_iff {text : Text} {offset : Nat}
    (inside : offset < text.byteLength) (numbers : List Nat) :
    (∃ span ∈ text.lineSpansAt numbers, span.contains offset = true) ↔
      1 + text.feedsBefore offset ∈ numbers := by
  rw [lineSpansAt_eq]
  constructor
  · rintro ⟨span, member, covered⟩
    rcases List.mem_filterMap.1 member with ⟨number, numberMember, found⟩
    have here := (contains_lineSpan?_iff inside number).1 ⟨span, found, covered⟩
    rwa [← here]
  · intro member
    rcases (contains_lineSpan?_iff inside _).2 rfl with ⟨span, found, covered⟩
    exact ⟨span, List.mem_filterMap.2 ⟨_, member, found⟩, covered⟩

end Text

end LiveEditor
