import LiveEditor.Proofs.Text.Lines

/-! # Lines in a row

The lines of a text follow one another without a gap from its start to its end.  Each
of them but the last ends behind its only line feed, and the last has none, so there is
one line more than there are line feeds, and the lines put together are the text.
-/

namespace LiveEditor

def Span.Consecutive (start stop : Nat) : List Span → Prop
  | [] => start = stop
  | span :: rest =>
      span.start = start ∧ span.start ≤ span.stop ∧ Consecutive span.stop stop rest

theorem Utf8.length_encode (text : Text) : (encode text).length = text.byteLength := by
  induction text with
  | nil => rfl
  | cons character rest induction =>
      rw [encode, List.flatMap_cons, List.length_append, String.length_utf8EncodeChar,
        ← encode, induction, Text.byteLength_cons]

namespace Text

/-- Pieces of a text that are lines: all but the last end with a line feed, and there is
no other line feed in them. -/
inductive AreLines : List Text → Prop
  | last {line : Text} (unbroken : '\n' ∉ line) : AreLines [line]
  | cons {line : Text} {later : List Text} (unbroken : '\n' ∉ line)
      (laterLines : AreLines later) : AreLines ((line ++ ['\n']) :: later)

/-! ## How many lines there are -/

theorem length_startsFrom_encode (position : Nat) (text : Text) :
    (LineIndex.startsFrom position (Utf8.encode text)).length = text.count '\n' := by
  induction text generalizing position with
  | nil => rfl
  | cons character rest induction =>
      rw [LineIndex.startsFrom_encode_cons, List.length_append, induction, List.count_cons,
        Nat.add_comm]
      by_cases feed : character = '\n'
      · simp [feed]
      · simp [feed]

theorem lineCount_eq (text : Text) : text.lineCount = 1 + text.count '\n' := by
  rw [lineCount_eq_length, lineSpans, length_lineSpansFrom, length_startsFrom_encode]

theorem feedsBefore_byteLength (text : Text) :
    text.feedsBefore text.byteLength = text.count '\n' := by
  induction text with
  | nil => rfl
  | cons character rest induction =>
      rw [byteLength_cons, feedsBefore_cons_add, induction, List.count_cons, Nat.add_comm]
      simp

/-- No other character has the byte of a line feed. -/
theorem count_encode_lineFeed (text : Text) :
    (Utf8.encode text).count '\n'.toUInt8 = text.count '\n' := by
  have whole := text.feedsBefore_byteLength
  rwa [feedsBefore, ← Utf8.length_encode, List.take_length] at whole

/-! ## Where lines begin and end -/

theorem consecutive_lineSpansFrom {start position : Nat} (begun : start ≤ position)
    (text : Text) :
    Span.Consecutive start (position + text.byteLength) (lineSpansFrom start position text) := by
  induction text generalizing start position with
  | nil => exact ⟨rfl, begun, rfl⟩
  | cons character rest induction =>
      rw [lineSpansFrom, byteLength_cons, ← Nat.add_assoc]
      split
      · exact ⟨rfl, by dsimp only; omega, induction (Nat.le_refl _)⟩
      · exact induction (by omega)

/-- What stands at the spans of the lines that begin behind `before`, when `line` has been
read of the first of them. -/
theorem exists_lines_of_lineSpansFrom (before line rest : Text) (unbroken : '\n' ∉ line) :
    ∃ lines, AreLines lines ∧ lines.flatten = line ++ rest ∧
      (lineSpansFrom before.byteLength (before ++ line).byteLength rest).map
          (before ++ line ++ rest).slice = lines.map .ok := by
  induction rest generalizing before line with
  | nil =>
      refine ⟨[line], .last unbroken, by simp, ?_⟩
      rw [lineSpansFrom, List.map_singleton, List.map_singleton, slice_append]
  | cons character rest induction =>
      have next : (before ++ line).byteLength + character.utf8Size =
          (before ++ (line ++ [character])).byteLength := by
        simp [Nat.add_assoc]
      have whole : before ++ line ++ character :: rest =
          before ++ (line ++ [character]) ++ rest := by
        simp
      rw [lineSpansFrom, next, whole]
      by_cases feed : character = '\n'
      · subst feed
        rcases induction (before ++ (line ++ ['\n'])) [] List.not_mem_nil with
          ⟨lines, areLines, flatten, slices⟩
        rw [List.append_nil] at slices
        refine ⟨(line ++ ['\n']) :: lines, .cons unbroken areLines, ?_, ?_⟩
        · rw [List.flatten_cons, flatten, List.nil_append, List.append_assoc]
          rfl
        · rw [if_pos rfl, List.map_cons, List.map_cons, slices, slice_append]
      · rw [if_neg feed]
        rcases induction before (line ++ [character]) (by simp [unbroken, Ne.symm feed]) with
          ⟨lines, areLines, flatten, slices⟩
        exact ⟨lines, areLines, by rw [flatten, List.append_assoc]; rfl, slices⟩

theorem map_lineSpan?_range' (text : Text) :
    (List.range' 1 text.lineCount).map text.lineSpan? = text.lineSpans.map some := by
  rw [lineCount_eq_length]
  refine List.ext_getElem (by simp) fun index inside _ => ?_
  have here : index < text.lineSpans.length := by simpa using inside
  rw [List.getElem_map, List.getElem_map, List.getElem_range', Nat.one_mul, Nat.add_comm,
    lineSpan?_succ, List.getElem?_eq_getElem here]

/-- There is one line more than there are bytes of line feeds, and the numbers from one
up to the number of lines are those that a line has.  These lines follow one another
without a gap through the whole text and end at boundaries; all but the last end behind
their only line feed, and put together they are the text.  An offset inside the text lies
in the line that as many line feeds come before, and in no other. -/
theorem lines_tile_text (text : Text) :
    text.lineCount = 1 + (Utf8.encode text).count '\n'.toUInt8 ∧
    (∀ number, text.lineSpan? number = none ↔ number = 0 ∨ text.lineCount < number) ∧
    (∃ spans lines, (List.range' 1 text.lineCount).map text.lineSpan? = spans.map some ∧
      Span.Consecutive 0 text.byteLength spans ∧ (∀ span ∈ spans, span.Fits text) ∧
      spans.map text.slice = lines.map .ok ∧ AreLines lines ∧ lines.flatten = text) ∧
    ∀ offset < text.byteLength, ∀ number,
      (∃ span, text.lineSpan? number = some span ∧ span.contains offset = true) ↔
        number = 1 + text.feedsBefore offset := by
  refine ⟨?_, ?_, ?_, fun offset inside => contains_lineSpan?_iff inside⟩
  · rw [count_encode_lineFeed, lineCount_eq]
  · intro number
    rw [← Option.not_isSome_iff_eq_none, isSome_lineSpan?_iff]
    omega
  · rcases exists_lines_of_lineSpansFrom [] [] text List.not_mem_nil with
      ⟨lines, areLines, flatten, slices⟩
    have consecutive := consecutive_lineSpansFrom (Nat.le_refl 0) text
    rw [Nat.zero_add] at consecutive
    exact ⟨text.lineSpans, lines, text.map_lineSpan?_range', consecutive,
      fits_of_mem_lineSpansFrom [] [] text, slices, areLines, flatten⟩

/-- Behind a return and an empty line the last line begins, which has no line feed. -/
theorem lines_tile_text_emptyLine :
    let text : Text := "é\r\n\nb".toList
    5 < text.byteLength ∧ text.lineSpan? 3 = some ⟨5, 6⟩ ∧
      ∀ number, (∃ span, text.lineSpan? number = some span ∧ span.contains 5 = true) ↔
        number = 3 := by
  intro text
  have inside : 5 < text.byteLength := by decide
  have feeds : text.feedsBefore 5 = 2 := by decide
  refine ⟨inside, by decide, fun number => ?_⟩
  rcases lines_tile_text text with ⟨_, _, _, line⟩
  rw [line 5 inside, feeds]

end Text

end LiveEditor
