import LiveEditor.Bridge.LineSplitter
import LiveEditor.Proofs.Text.Utf8

/-! # A split stream is its split text

However a byte stream is cut into chunks, the splitter hands out the lines of
the text that the whole stream reads as.  The lines of a text are the pieces
between its line breaks, without an empty piece at the end.
-/

namespace LiveEditor

/-! ## The pieces of a text -/

namespace Text

/-- The pieces of a text between its line breaks: a carriage return with a line
feed behind it, and a carriage return or a line feed by itself. -/
def pieces : Text → List Text
  | [] => [[]]
  | '\r' :: '\n' :: rest => [] :: pieces rest
  | '\r' :: rest => [] :: pieces rest
  | '\n' :: rest => [] :: pieces rest
  | character :: rest => (pieces rest).modifyHead (character :: ·)

def withoutEmptyEnd (pieces : List Text) : List Text :=
  if pieces.getLast? = some [] then pieces.dropLast else pieces

example : withoutEmptyEnd (pieces "a\r\nb\r\n\rc\n\n".toList) =
    ["a".toList, "b".toList, [], "c".toList, []] := by decide

def withoutFeed : Text → Text
  | '\n' :: rest => rest
  | text => text

def Unbroken (line : Text) : Prop :=
  '\n' ∉ line ∧ '\r' ∉ line

theorem pieces_feed (rest : Text) : pieces ('\n' :: rest) = [] :: pieces rest := by
  simp [pieces]

theorem pieces_return (rest : Text) :
    pieces ('\r' :: rest) = [] :: pieces (withoutFeed rest) := by
  cases rest with
  | nil => simp [pieces, withoutFeed]
  | cons second rest =>
      by_cases feed : second = '\n'
      · subst feed
        simp [pieces, withoutFeed]
      · simp [pieces, withoutFeed, feed]

theorem pieces_cons {character : Char} (rest : Text)
    (notFeed : character ≠ '\n') (notReturn : character ≠ '\r') :
    pieces (character :: rest) = (pieces rest).modifyHead (character :: ·) := by
  simp [pieces, notReturn]

/-- What stands before the first line break belongs to the first piece. -/
theorem pieces_append {line : Text} (unbroken : Unbroken line) (rest : Text) :
    pieces (line ++ rest) = (pieces rest).modifyHead (line ++ ·) := by
  induction line with
  | nil => cases equal : pieces rest <;> simp [equal]
  | cons character line hypothesis =>
      rcases unbroken with ⟨noFeed, noReturn⟩
      rw [List.mem_cons, not_or] at noFeed noReturn
      rw [List.cons_append, pieces_cons _ (Ne.symm noFeed.1) (Ne.symm noReturn.1),
        hypothesis ⟨noFeed.2, noReturn.2⟩]
      rw [List.modifyHead_modifyHead]
      rfl

theorem pieces_of_unbroken {line : Text} (unbroken : Unbroken line) :
    pieces line = [line] := by
  simpa [pieces] using pieces_append unbroken []

theorem pieces_ne_nil (text : Text) : pieces text ≠ [] := by
  induction text using pieces.induct with
  | case1 => simp [pieces]
  | case2 rest _ => simp [pieces]
  | case3 rest _ _ => simp [pieces]
  | case4 rest _ => simp [pieces]
  | case5 character rest _ notReturn notFeed hypothesis =>
      rw [pieces_cons rest notFeed notReturn]
      simpa using hypothesis

theorem withoutEmptyEnd_append (front : List Text) {rest : List Text}
    (nonempty : rest ≠ []) :
    withoutEmptyEnd (front ++ rest) = front ++ withoutEmptyEnd rest := by
  have last : (front ++ rest).getLast? = rest.getLast? := by
    rw [List.getLast?_append, List.getLast?_eq_some_getLast nonempty]
    rfl
  rw [withoutEmptyEnd, last, List.dropLast_append_of_ne_nil nonempty,
    withoutEmptyEnd]
  split <;> rfl

end Text

namespace LineSplitter

open Text

/-! ## The bytes that are still to be split -/

/-- The bytes of the current line and of what follows.  The line feed of a pair
whose carriage return has been taken does not count. -/
def remaining (splitter : LineSplitter) : List UInt8 → List UInt8
  | [] => splitter.pending.reverse
  | byte :: rest =>
      if splitter.afterReturn ∧ byte = lineFeed then
        splitter.pending.reverse ++ rest
      else
        splitter.pending.reverse ++ byte :: rest

theorem remaining_of_not_afterReturn {splitter : LineSplitter}
    (ordinary : splitter.afterReturn = false) (bytes : List UInt8) :
    splitter.remaining bytes = splitter.pending.reverse ++ bytes := by
  cases bytes <;> simp [remaining, ordinary]

def remainingText (splitter : LineSplitter) (bytes : List UInt8) : Text :=
  Utf8.decodeLossy (splitter.remaining bytes)

structure Gathers (splitter : LineSplitter) : Prop where
  noFeed : lineFeed ∉ splitter.pending
  noReturn : carriageReturn ∉ splitter.pending

theorem gathers_start : Gathers start := ⟨by simp [start], by simp [start]⟩

theorem Gathers.unbroken {splitter : LineSplitter} (gathers : Gathers splitter) :
    Unbroken splitter.pendingText := by
  constructor
  · intro member
    have byte : lineFeed ∈ splitter.pending.reverse :=
      Utf8.mem_of_mem_decodeLossy (by decide) (by decide) member
    exact gathers.noFeed (List.mem_reverse.1 byte)
  · intro member
    have byte : carriageReturn ∈ splitter.pending.reverse :=
      Utf8.mem_of_mem_decodeLossy (by decide) (by decide) member
    exact gathers.noReturn (List.mem_reverse.1 byte)

/-! ## One byte -/

/-- What taking a byte does: the line feed of a pair is passed over, a line
break ends the line, and every other byte is gathered. -/
theorem take_cases (splitter : LineSplitter) (byte : UInt8) :
    (splitter.afterReturn = true ∧ byte = lineFeed ∧
      splitter.take byte = (none, { splitter with afterReturn := false })) ∨
    (¬ (splitter.afterReturn = true ∧ byte = lineFeed) ∧
      (byte = lineFeed ∨ byte = carriageReturn) ∧
      splitter.take byte =
        (some splitter.pendingText,
          { pending := [], afterReturn := byte = carriageReturn })) ∨
    (byte ≠ lineFeed ∧ byte ≠ carriageReturn ∧
      splitter.take byte =
        (none, { pending := byte :: splitter.pending, afterReturn := false })) := by
  by_cases pair : splitter.afterReturn = true ∧ byte = lineFeed
  · exact .inl ⟨pair.1, pair.2, by rw [take, if_pos pair]⟩
  · by_cases broken : byte = lineFeed ∨ byte = carriageReturn
    · exact .inr (.inl ⟨pair, broken, by rw [take, if_neg pair, if_pos broken]⟩)
    · refine .inr (.inr ?_)
      rw [take, if_neg pair, if_neg broken]
      rw [not_or] at broken
      exact ⟨broken.1, broken.2, rfl⟩

theorem gathers_take {splitter : LineSplitter} (gathers : Gathers splitter)
    (byte : UInt8) : Gathers (splitter.take byte).2 := by
  rcases splitter.take_cases byte with
    ⟨_, _, taken⟩ | ⟨_, _, taken⟩ | ⟨notFeed, notReturn, taken⟩
  · rw [taken]
    exact ⟨gathers.noFeed, gathers.noReturn⟩
  · rw [taken]
    exact ⟨by simp, by simp⟩
  · rw [taken]
    constructor
    · simpa [Ne.symm notFeed] using gathers.noFeed
    · simpa [Ne.symm notReturn] using gathers.noReturn

/-- Right behind a carriage return a line feed does not count. -/
theorem remainingText_afterReturn (bytes : List UInt8) :
    remainingText { pending := [], afterReturn := true } bytes =
      withoutFeed (Utf8.decodeLossy bytes) := by
  cases bytes with
  | nil => rfl
  | cons byte rest =>
      by_cases feed : byte = lineFeed
      · rw [remainingText, remaining, if_pos ⟨rfl, feed⟩, feed,
          Utf8.decodeLossy_ascii_cons rest (by decide)]
        rfl
      · have different : (Utf8.readCharacter byte rest).shown ≠ '\n' := fun equal =>
          feed (Utf8.eq_of_shown_eq (by decide) (by decide) equal)
        rw [remainingText, remaining, if_neg (fun pair => feed pair.2)]
        simp [Utf8.decodeLossy, Utf8.decodeLossyFrom_zero, withoutFeed, different]

/-- Taking a byte hands out the first of the remaining pieces, if it is
complete. -/
theorem pieces_remainingText {splitter : LineSplitter} (gathers : Gathers splitter)
    (byte : UInt8) (rest : List UInt8) :
    pieces (splitter.remainingText (byte :: rest)) =
      (splitter.take byte).1.toList ++
        pieces ((splitter.take byte).2.remainingText rest) := by
  rcases splitter.take_cases byte with
    ⟨afterReturn, feed, taken⟩ | ⟨counts, broken, taken⟩ |
      ⟨notFeed, notReturn, taken⟩
  · rw [taken, remainingText, remainingText, remaining, if_pos ⟨afterReturn, feed⟩,
      remaining_of_not_afterReturn rfl]
    rfl
  · have ends : pieces (splitter.remainingText (byte :: rest)) =
        (pieces (Char.ofNat byte.toNat :: Utf8.decodeLossy rest)).modifyHead
          (splitter.pendingText ++ ·) := by
      have ascii : byte.toNat < 0x80 := by
        rcases broken with rfl | rfl <;> decide
      rw [remainingText, remaining, if_neg counts,
        Utf8.decodeLossy_append_ascii _ _ ascii]
      exact pieces_append gathers.unbroken _
    rw [taken, ends]
    rcases broken with rfl | rfl
    · change (pieces ('\n' :: Utf8.decodeLossy rest)).modifyHead _ = _
      rw [pieces_feed, remainingText, remaining_of_not_afterReturn rfl]
      simp
    · change (pieces ('\r' :: Utf8.decodeLossy rest)).modifyHead _ = _
      rw [pieces_return, ← remainingText_afterReturn]
      simp
  · rw [taken, remainingText, remainingText, remaining,
      if_neg (fun pair => notFeed pair.2), remaining_of_not_afterReturn rfl]
    simp

/-! ## Chunks -/

theorem push_cons (splitter : LineSplitter) (byte : UInt8) (rest : List UInt8) :
    splitter.push (byte :: rest) =
      ((splitter.take byte).1.toList ++ ((splitter.take byte).2.push rest).1,
        ((splitter.take byte).2.push rest).2) := rfl

theorem pushAll_cons (splitter : LineSplitter) (chunk : List UInt8)
    (rest : List (List UInt8)) :
    splitter.pushAll (chunk :: rest) =
      ((splitter.push chunk).1 ++ ((splitter.push chunk).2.pushAll rest).1,
        ((splitter.push chunk).2.pushAll rest).2) := rfl

theorem push_append (splitter : LineSplitter) (front back : List UInt8) :
    splitter.push (front ++ back) =
      ((splitter.push front).1 ++ ((splitter.push front).2.push back).1,
        ((splitter.push front).2.push back).2) := by
  induction front generalizing splitter with
  | nil => rfl
  | cons byte front hypothesis =>
      simp only [List.cons_append, push_cons, hypothesis, List.append_assoc]

theorem pushAll_eq_push (splitter : LineSplitter) (chunks : List (List UInt8)) :
    splitter.pushAll chunks = splitter.push chunks.flatten := by
  induction chunks generalizing splitter with
  | nil => rfl
  | cons chunk chunks hypothesis =>
      rw [pushAll_cons, List.flatten_cons, push_append, hypothesis]

theorem finish_eq {splitter : LineSplitter} (gathers : Gathers splitter) :
    splitter.finish.1.toList =
      withoutEmptyEnd (pieces (splitter.remainingText [])) := by
  have last : pieces (splitter.remainingText []) = [splitter.pendingText] :=
    pieces_of_unbroken gathers.unbroken
  rw [last]
  cases pending : splitter.pending <;>
    simp [finish, withoutEmptyEnd, pendingText, pending]

/-- A splitter hands out the pieces of the text that is before it. -/
theorem push_finish_eq {splitter : LineSplitter} (gathers : Gathers splitter)
    (bytes : List UInt8) :
    (splitter.push bytes).1 ++ (splitter.push bytes).2.finish.1.toList =
      withoutEmptyEnd (pieces (splitter.remainingText bytes)) := by
  induction bytes generalizing splitter with
  | nil => exact finish_eq gathers
  | cons byte rest hypothesis =>
      rw [push_cons, List.append_assoc, hypothesis (gathers_take gathers byte),
        pieces_remainingText gathers byte rest]
      exact (withoutEmptyEnd_append _ (pieces_ne_nil _)).symm

/-- However a stream is cut into chunks, its lines are those of the text that
all its bytes read as.  When it has ended, the splitter is as good as new. -/
theorem lines_of_chunks (chunks : List (List UInt8)) :
    (start.pushAll chunks).1 ++ (start.pushAll chunks).2.finish.1.toList =
        withoutEmptyEnd (pieces (Utf8.decodeLossy chunks.flatten)) ∧
      ∀ more, (start.pushAll chunks).2.finish.2.pushAll more = start.pushAll more := by
  constructor
  · rw [pushAll_eq_push, push_finish_eq gathers_start, remainingText,
      remaining_of_not_afterReturn rfl]
    rfl
  · intro more
    rfl

end LineSplitter

end LiveEditor
