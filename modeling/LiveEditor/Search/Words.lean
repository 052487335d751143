import LiveEditor.Number.Bits
import LiveEditor.Text.Places
import LiveEditor.Unicode.CaseFolding
import LiveEditor.Unicode.Word
import Std.Data.TreeMap.Lemmas

/-! # Words in a text

A word is looked for by a rule, which says what characters count as the same and
at what places of a text a word may begin and end.

What an occurrence is, `occurrencesOf` says place by place.  `occurrences` finds
the same for many words at once, in one reading of the text from its end to its
start and in time that depends little on the words; `occurrences_eq` says so.

The words are written down one after the other as a row of *cells*, one for each
character and one for the end of each word.  The row *stands* at a place from a
cell on when what the word has from there to its end stands at the place.  These
cells are the bits of a number, and the number of a place follows from that of
the next place by one shift.
-/

namespace LiveEditor

structure WordRule where
  code : Char → Nat
  free : Place → Bool

namespace WordRule

/-! ## Rules -/

def isWordBoundary (place : Place) : Bool :=
  Unicode.isWordBoundary place.before place.after

/-- The rule of two options: whether case counts, by simple case folding, and
whether a word begins and ends at word boundaries only. -/
def ofOptions (caseSensitive wholeWord : Bool) : WordRule where
  code := if caseSensitive then Char.toNat else Unicode.foldCode
  free := if wholeWord then isWordBoundary else fun _ => true

def literal : WordRule :=
  .ofOptions true false

/-! ## Occurrences -/

def stopOf? (rule : WordRule) : (word : Text) → List Place → Option Nat
  | _, [] => none
  | [], place :: _ => if rule.free place then some place.offset else none
  | character :: word, place :: rest =>
      if place.after.map rule.code = some (rule.code character) then
        stopOf? rule word rest
      else
        none

def occurrenceAt? (rule : WordRule) (word : Text) : List Place → Option Span
  | [] => none
  | place :: rest =>
      if rule.free place then
        (rule.stopOf? word (place :: rest)).map fun stop => ⟨place.offset, stop⟩
      else
        none

def occurrencesOf (rule : WordRule) (word : Text) : List Place → List Span
  | [] => []
  | place :: rest =>
      (rule.occurrenceAt? word (place :: rest)).toList ++ occurrencesOf rule word rest

/-! ## Rows of cells -/

abbrev Cell := Option Nat

def cellsOf (rule : WordRule) (word : Text) : List Cell :=
  word.map (fun character => some (rule.code character)) ++ [none]

/-- The words with the cell that each of them begins at, when the first one
begins at `cell`. -/
def openings (cell : Nat) : List Text → List (Nat × Text)
  | [] => []
  | word :: rest => (cell, word) :: openings (cell + word.length + 1) rest

def cellsByCode (cell : Nat) : List Cell → Std.TreeMap Nat Nat
  | [] => ∅
  | none :: rest => cellsByCode (cell + 1) rest
  | some code :: rest =>
      let later := cellsByCode (cell + 1) rest
      later.insert code (later.getD code 0 ||| 1 <<< cell)

def closings (cell : Nat) : List Cell → Nat
  | [] => 0
  | none :: rest => closings (cell + 1) rest ||| 1 <<< cell
  | some _ :: rest => closings (cell + 1) rest

structure Row where
  byCode : Std.TreeMap Nat Nat
  closing : Nat

namespace Row

def ofCells (cells : List Cell) : Row :=
  ⟨cellsByCode 0 cells, closings 0 cells⟩

def holding (row : Row) (code : Nat) : Nat :=
  row.byCode.getD code 0

def opening (row : Row) : Nat :=
  row.closing <<< 1 ||| 1

end Row

/-- The cells from which on a row stands at a place, by those of the next
place. -/
def standing (rule : WordRule) (row : Row) (place : Place) (next : Nat) : Nat :=
  let here :=
    match place.after with
    | none => 0
    | some character => row.holding (rule.code character)
  (here &&& next >>> 1) ||| (if rule.free place then row.closing else 0)

/-- For the first of the given places the cells from which on a row stands
there, and for all of them the cells that begin a word there. -/
def read (rule : WordRule) (row : Row) (places : List Place) : Nat × List Nat :=
  let opening := row.opening
  places.foldr
    (fun place (next, begun) =>
      let now := rule.standing row place next
      (now, (if rule.free place then now &&& opening else 0) :: begun))
    (0, [])

def beginnings (first : Nat) (begun : List Nat) : List (Nat × Nat) :=
  (begun.zipIdx first).flatMap fun (bits, index) =>
    (Number.bitPositions bits).map fun cell => (cell, index)

def spansFrom (offsets : Array Nat) (opening length : Nat)
    (beginnings : List (Nat × Nat)) : List Span :=
  beginnings.filterMap fun (cell, index) =>
    if cell = opening then
      some ⟨offsets.getD index 0, offsets.getD (index + length) 0⟩
    else
      none

def occurrences (rule : WordRule) (words : List Text) (text : Text) :
    List (List Span) :=
  let places := text.places
  let offsets := (places.map Place.offset).toArray
  let begun := (rule.read (.ofCells (words.flatMap rule.cellsOf)) places).2
  let found := beginnings 0 begun
  (openings 0 words).map fun (opening, word) =>
    spansFrom offsets opening word.length found

/-! ## What a row holds -/

theorem testBit_cellsByCode (first code cell : Nat) (cells : List Cell) :
    ((cellsByCode first cells).getD code 0).testBit cell =
      (decide (first ≤ cell) && decide (cells[cell - first]? = some (some code))) := by
  induction cells generalizing first with
  | nil => simp [cellsByCode]
  | cons head rest hypothesis =>
      have here : (first ≤ cell ∧ cell - first = 0) ↔ first = cell := by omega
      have later : ∀ step, cell - first = step + 1 →
          first ≠ cell ∧ first + 1 ≤ cell ∧ cell - (first + 1) = step := by omega
      cases head with
      | none =>
          rw [cellsByCode, hypothesis]
          rcases place : cell - first with _ | step
          · have below : ¬ first + 1 ≤ cell := by omega
            simp [below]
          · obtain ⟨_, above, same⟩ := later step place
            simp [above, same, Nat.le_of_succ_le above]
      | some held =>
          simp only [cellsByCode, Std.TreeMap.getD_insert, Nat.compare_eq_eq]
          rcases place : cell - first with _ | step
          · have below : ¬ first + 1 ≤ cell := by omega
            by_cases equal : held = code
            · simp [equal, Nat.testBit_or, hypothesis, below, Nat.one_shiftLeft,
                Nat.testBit_two_pow, ← here, place]
            · simp [equal, hypothesis, below]
          · obtain ⟨other, above, same⟩ := later step place
            by_cases equal : held = code
            · simp [equal, Nat.testBit_or, hypothesis, above, Nat.one_shiftLeft,
                other, same, Nat.le_of_succ_le above]
            · simp [equal, hypothesis, above, same, Nat.le_of_succ_le above]

theorem testBit_closings (first cell : Nat) (cells : List Cell) :
    (closings first cells).testBit cell =
      (decide (first ≤ cell) && decide (cells[cell - first]? = some none)) := by
  induction cells generalizing first with
  | nil => simp [closings]
  | cons head rest hypothesis =>
      have here : (first ≤ cell ∧ cell - first = 0) ↔ first = cell := by omega
      have later : ∀ step, cell - first = step + 1 →
          first ≠ cell ∧ first + 1 ≤ cell ∧ cell - (first + 1) = step := by omega
      cases head with
      | none =>
          rcases place : cell - first with _ | step
          · have below : ¬ first + 1 ≤ cell := by omega
            simp [closings, Nat.testBit_or, hypothesis, below, Nat.one_shiftLeft,
              Nat.testBit_two_pow, ← here, place]
          · obtain ⟨other, above, same⟩ := later step place
            simp [closings, Nat.testBit_or, hypothesis, above, Nat.one_shiftLeft,
              other, same, Nat.le_of_succ_le above]
      | some held =>
          rw [closings, hypothesis]
          rcases place : cell - first with _ | step
          · have below : ¬ first + 1 ≤ cell := by omega
            simp [below]
          · obtain ⟨_, above, same⟩ := later step place
            simp [above, same, Nat.le_of_succ_le above]

theorem testBit_holding (cells : List Cell) (code cell : Nat) :
    ((Row.ofCells cells).holding code).testBit cell =
      decide (cells[cell]? = some (some code)) := by
  simp [Row.holding, Row.ofCells, testBit_cellsByCode]

theorem testBit_closing (cells : List Cell) (cell : Nat) :
    (Row.ofCells cells).closing.testBit cell = decide (cells[cell]? = some none) := by
  simp [Row.ofCells, testBit_closings]

/-! ## What a reading finds -/

def standsAt (rule : WordRule) : List Cell → List Place → Bool
  | none :: _, place :: _ => rule.free place
  | some code :: cells, place :: rest =>
      place.after.map rule.code = some code && standsAt rule cells rest
  | _, _ => false

/-- A row stands at a place from a cell on when the cells from there on do. -/
theorem testBit_standing (rule : WordRule) (cells : List Cell) (place : Place)
    (rest : List Place) (next cell : Nat)
    (known : next.testBit (cell + 1) = rule.standsAt (cells.drop (cell + 1)) rest) :
    (rule.standing (.ofCells cells) place next).testBit cell =
      rule.standsAt (cells.drop cell) (place :: rest) := by
  have holds : (match place.after with
      | none => 0
      | some character =>
          (Row.ofCells cells).holding (rule.code character)).testBit cell =
        place.after.any fun character =>
          cells[cell]? = some (some (rule.code character)) := by
    cases place.after <;> simp [testBit_holding]
  have closes :
      (if rule.free place then (Row.ofCells cells).closing else 0).testBit cell =
        (rule.free place && decide (cells[cell]? = some none)) := by
    cases rule.free place <;> simp [testBit_closing]
  simp only [standing, Nat.testBit_or, Nat.testBit_and, Nat.testBit_shiftRight,
    Nat.add_comm 1 cell, known, holds, closes]
  by_cases inside : cell < cells.length
  · rw [List.drop_eq_getElem_cons inside, List.getElem?_eq_getElem inside]
    cases cells[cell] <;> cases after : place.after <;>
      simp [standsAt, after, @eq_comm Nat]
  · cases place.after <;>
      simp [List.drop_eq_nil_of_le (Nat.le_of_not_lt inside),
        List.getElem?_eq_none (Nat.le_of_not_lt inside), standsAt]

theorem testBit_read (rule : WordRule) (cells : List Cell) (places : List Place)
    (cell : Nat) :
    (rule.read (.ofCells cells) places).1.testBit cell =
      rule.standsAt (cells.drop cell) places := by
  induction places generalizing cell with
  | nil => rcases cells.drop cell with _ | ⟨_ | _, _⟩ <;> simp [read, standsAt]
  | cons place rest hypothesis =>
      exact rule.testBit_standing cells place rest _ cell (hypothesis _)

/-- What begins at the first place of a reading, and what begins at the others. -/
theorem read_cons (rule : WordRule) (row : Row) (place : Place) (rest : List Place) :
    (rule.read row (place :: rest)).2 =
      (if rule.free place then (rule.read row (place :: rest)).1 &&& row.opening
        else 0) :: (rule.read row rest).2 := rfl

/-- A word stands at a place when its cells do, and stops as many places further
as it has characters. -/
theorem stopOf?_eq (rule : WordRule) (word : Text) (after : List Cell)
    (places : List Place) :
    rule.stopOf? word places =
      if rule.standsAt (rule.cellsOf word ++ after) places then
        places[word.length]?.map Place.offset
      else
        none := by
  induction word generalizing places with
  | nil => cases places <;> simp [stopOf?, cellsOf, standsAt]
  | cons character word hypothesis =>
      cases places with
      | nil => simp [stopOf?]
      | cons place rest =>
          by_cases same : place.after.map rule.code = some (rule.code character)
          · simpa [stopOf?, cellsOf, standsAt, same] using hypothesis rest
          · simp [stopOf?, cellsOf, standsAt, same]

/-- There is a place behind a word that stands somewhere. -/
theorem length_lt_of_standsAt (rule : WordRule) (word : Text) (after : List Cell)
    (places : List Place)
    (stands : rule.standsAt (rule.cellsOf word ++ after) places = true) :
    word.length < places.length := by
  induction word generalizing places with
  | nil => cases places <;> simp_all [cellsOf, standsAt]
  | cons character word hypothesis =>
      cases places with
      | nil => simp [cellsOf, standsAt] at stands
      | cons place rest =>
          simp only [cellsOf, List.map_cons, List.cons_append, standsAt,
            Bool.and_eq_true] at stands
          simpa using hypothesis rest (by simpa [cellsOf] using stands.2)

/-- The spans that begin at a cell at one place. -/
theorem spansFrom_place (offsets : Array Nat) (opening length first bits : Nat) :
    spansFrom offsets opening length
        ((Number.bitPositions bits).map fun cell => (cell, first)) =
      if bits.testBit opening then
        [⟨offsets.getD first 0, offsets.getD (first + length) 0⟩]
      else
        [] := by
  have select : ∀ (cells : List Nat) (span : Span),
      cells.filterMap (fun cell => if cell = opening then some span else none) =
        (cells.filter (· = opening)).map fun _ => span := by
    intro cells span
    induction cells with
    | nil => rfl
    | cons cell cells hypothesis =>
        by_cases equal : cell = opening <;> simp [equal, hypothesis]
  simp only [spansFrom, List.filterMap_map, Function.comp_def]
  rw [select, Number.filter_bitPositions]
  split <;> rfl

/-- What a reading finds for one word is what the word has for occurrences.  The
places are those of a text from number `first` on. -/
theorem spansFrom_beginnings (rule : WordRule) {cells after : List Cell}
    {opening : Nat} {word : Text} {places : List Place} {offsets : Array Nat}
    (first : Nat) (begins : (Row.ofCells cells).opening.testBit opening = true)
    (reads : cells.drop opening = rule.cellsOf word ++ after)
    (known : ∀ index, offsets[first + index]? = places[index]?.map Place.offset) :
    spansFrom offsets opening word.length
        (beginnings first (rule.read (.ofCells cells) places).2) =
      rule.occurrencesOf word places := by
  induction places generalizing first with
  | nil => simp [beginnings, spansFrom, read, occurrencesOf]
  | cons place rest hypothesis =>
      have tail := hypothesis (first + 1) fun index => by
        simpa [Nat.add_assoc, Nat.add_comm 1 index] using known (index + 1)
      have start : offsets[first]? = some place.offset := by simpa using known 0
      rw [read_cons, occurrencesOf, ← tail, beginnings, List.zipIdx_cons,
        List.flatMap_cons, spansFrom, List.filterMap_append]
      congr 1
      rw [← spansFrom, spansFrom_place, occurrenceAt?,
        rule.stopOf?_eq word after, ← reads, ← testBit_read]
      cases rule.free place with
      | false => simp
      | true =>
          simp only [if_true, Nat.testBit_and, begins, Bool.and_true]
          split
          · next stands =>
              rw [testBit_read, reads] at stands
              have inside := rule.length_lt_of_standsAt word after _ stands
              have stop := known word.length
              rw [List.getElem?_eq_getElem inside] at stop ⊢
              simp [Array.getD_eq_getD_getElem?, start, stop]
          · rfl

/-- Each word is read where it has been written. -/
theorem map_openings (rule : WordRule) (cells : List Cell) {words : List Text}
    {first : Nat} (found : Nat → Text → List Span) {spans : Text → List Span}
    (begins : (Row.ofCells cells).opening.testBit first = true)
    (reads : cells.drop first = words.flatMap rule.cellsOf)
    (agree : ∀ opening word after,
      (Row.ofCells cells).opening.testBit opening = true →
      cells.drop opening = rule.cellsOf word ++ after →
      found opening word = spans word) :
    (openings first words).map (fun entry => found entry.1 entry.2) =
      words.map spans := by
  induction words generalizing first with
  | nil => rfl
  | cons word words hypothesis =>
      have whole :
          cells.drop first = rule.cellsOf word ++ words.flatMap rule.cellsOf := by
        simpa using reads
      have size : (rule.cellsOf word).length = word.length + 1 := by simp [cellsOf]
      simp only [openings, List.map_cons, agree first word _ begins whole,
        List.cons.injEq, true_and]
      apply hypothesis
      · have closing : cells[first + word.length]? = some none := by
          rw [← List.getElem?_drop, whole]
          simp [cellsOf]
        simp [Row.opening, Nat.testBit_or, Nat.testBit_shiftLeft, testBit_closing,
          closing]
      · rw [Nat.add_assoc, ← List.drop_drop, whole, ← size]
        simp

/-- Looking for many words at once finds for each of them what the word has for
occurrences. -/
theorem occurrences_eq (rule : WordRule) (words : List Text) (text : Text) :
    rule.occurrences words text =
      words.map fun word => rule.occurrencesOf word text.places := by
  refine rule.map_openings (words.flatMap rule.cellsOf)
    (fun opening word => spansFrom _ opening word.length _) ?_ ?_ ?_
  · simp [Row.opening]
  · rfl
  · intro opening word after begins reads
    exact rule.spansFrom_beginnings 0 begins reads fun index => by simp

end WordRule

end LiveEditor
