import LiveEditor.Highlight.Passes
import LiveEditor.Proofs.Search.Replacement
import LiveEditor.Proofs.Unicode.CaseFolding
import Mathlib.Data.List.Basic

/-! # Whole words

A word is isolated when no word character touches it.  A whole word has to begin
and end at word boundaries instead: at an end of it that is a word character no word
character may touch it, and at any other end one must.  So the two are the same for
a word that begins and ends with word characters, and for no other one.
-/

namespace LiveEditor

namespace Span

/-! ## Choices from left to right -/

/-- Spans that are chosen from left to right among those that count, each the
first one at or behind the end of the one before it, until there is none. -/
inductive Leftmost (counts : Span → Prop) : (offset : Nat) → List Span → Prop
  | nil {offset : Nat} (passed : ∀ span, counts span → span.start < offset) :
      Leftmost counts offset []
  | cons {offset : Nat} {span : Span} {rest : List Span}
      (first : IsFirstFrom counts offset span) (later : Leftmost counts span.stop rest) :
      Leftmost counts offset (span :: rest)

variable {counts : Span → Prop}

/-- There is one way to choose when a start tells the span. -/
theorem Leftmost.unique
    (determined : ∀ one other, counts one → counts other → one.start = other.start →
      one = other)
    {offset : Nat} {one other : List Span} (oneChosen : Leftmost counts offset one)
    (otherChosen : Leftmost counts offset other) : one = other := by
  induction oneChosen generalizing other with
  | nil passed =>
      cases otherChosen with
      | nil => rfl
      | cons first later =>
          exact absurd (passed _ first.counted) (Nat.not_lt.2 first.behind)
  | cons first later induction =>
      cases otherChosen with
      | nil passed => exact absurd (passed _ first.counted) (Nat.not_lt.2 first.behind)
      | cons otherFirst otherLater =>
          have start := Nat.le_antisymm
            (first.least _ otherFirst.counted otherFirst.behind)
            (otherFirst.least _ first.counted first.behind)
          have same := determined _ _ first.counted otherFirst.counted start
          subst same
          rw [induction otherLater]

theorem Leftmost.congr {counts others : Span → Prop} (same : ∀ span, counts span ↔ others span)
    {offset : Nat} {spans : List Span} :
    Leftmost counts offset spans ↔ Leftmost others offset spans := by
  rw [funext fun span => propext (same span)]

theorem leftmost_chooseFrom {spans : List Span} (ordered : Ordered spans) (offset : Nat) :
    Leftmost (· ∈ spans) offset (chooseFrom offset spans) := by
  generalize chosen : chooseFrom offset spans = choices
  induction choices generalizing offset with
  | nil =>
      have none := head?_chooseFrom ordered offset
      rw [chosen, List.head?_nil, eq_comm, List.find?_eq_none] at none
      exact .nil fun span member => by simpa using none span member
  | cons first rest induction =>
      have found := head?_chooseFrom ordered offset
      rw [chosen, List.head?_cons, eq_comm] at found
      have choices := chooseFrom_of_find?_eq_some ordered found
      rw [chosen, List.cons_inj_right] at choices
      exact .cons ((find?_eq_some_iff ordered offset first).1 found)
        (induction first.stop choices.symm)

end Span

namespace WordRule

variable (rule : WordRule)

/-! ## What touches a word -/

/-- What stands between two parts of a text has the codes of a word, and word
characters touch it on the given sides and on no other one. -/
structure TouchedBetween (front back : Bool) (word before covered after : Text) : Prop where
  sameCodes : covered.map rule.code = word.map rule.code
  before : Unicode.isWordAt before.getLast? = front
  after : Unicode.isWordAt after.head? = back

/-- A word stands in a text at a span, and word characters touch it on the given
sides and on no other one. -/
def Touched (front back : Bool) (word text : Text) (span : Span) : Prop :=
  ∃ before covered after, text = before ++ covered ++ after ∧
    span = ⟨before.byteLength, (before ++ covered).byteLength⟩ ∧
    rule.TouchedBetween front back word before covered after

/-- Nothing touches a word in a text that is as long as the word. -/
theorem untouched_of_length_eq {rule : WordRule} {front back : Bool} {word text : Text}
    {span : Span} (length : text.length = word.length)
    (touched : rule.Touched front back word text span) : front = false ∧ back = false := by
  rcases touched with ⟨before, covered, after, whole, _, between⟩
  have same := congrArg List.length between.sameCodes
  simp only [List.length_map] at same
  simp only [whole, List.length_append] at length
  have begins : before = [] := List.length_eq_zero_iff.1 (by omega)
  have ends : after = [] := List.length_eq_zero_iff.1 (by omega)
  rw [← between.before, ← between.after, begins, ends]
  exact ⟨rfl, rfl⟩

/-! ## The ends of a word -/

variable {caseSensitive : Bool}

/-- Characters of one code belong to words alike. -/
theorem isWord_eq_of_code_eq {wholeWord : Bool} {one other : Char}
    (same : (ofOptions caseSensitive wholeWord).code one =
      (ofOptions caseSensitive wholeWord).code other) :
    Unicode.isWord one = Unicode.isWord other := by
  cases caseSensitive with
  | false => exact Unicode.isWord_eq_of_foldCode_eq same
  | true =>
      have equal : one = other := Char.toNat_inj.1 same
      rw [equal]

theorem isWordAt_eq_of_map_code_eq {wholeWord : Bool} {one other : Option Char}
    (same : one.map (ofOptions caseSensitive wholeWord).code =
      other.map (ofOptions caseSensitive wholeWord).code) :
    Unicode.isWordAt one = Unicode.isWordAt other := by
  cases one <;> cases other
  · rfl
  · cases same
  · cases same
  · exact isWord_eq_of_code_eq (Option.some.inj same)

/-- Word boundaries before and after a piece that counts as a word, told by what
touches the piece. -/
theorem free_iff_of_map_code_eq {word covered : Text} (filled : word ≠ [])
    (sameCodes : covered.map (ofOptions caseSensitive true).code =
      word.map (ofOptions caseSensitive true).code) (before after : Text) :
    ((ofOptions caseSensitive true).free (.between before (covered ++ after)) = true ↔
      Unicode.isWordAt before.getLast? = !Unicode.isWordAt word.head?) ∧
    ((ofOptions caseSensitive true).free (.between (before ++ covered) after) = true ↔
      Unicode.isWordAt after.head? = !Unicode.isWordAt word.getLast?) := by
  have head := congrArg List.head? sameCodes
  have last := congrArg List.getLast? sameCodes
  rw [List.head?_map, List.head?_map] at head
  rw [List.getLast?_map, List.getLast?_map] at last
  have piece : covered ≠ [] := by
    intro nothing
    rw [nothing] at sameCodes
    exact filled (List.map_eq_nil_iff.1 sameCodes.symm)
  rw [← isWordAt_eq_of_map_code_eq head, ← isWordAt_eq_of_map_code_eq last]
  have front : (covered ++ after).head? = covered.head? :=
    List.head?_append_of_ne_nil covered piece
  have back : (before ++ covered).getLast? = covered.getLast? :=
    List.getLast?_append_of_ne_nil before piece
  simp only [ofOptions, isWordBoundary, Unicode.isWordBoundary, Place.between, front, back,
    if_true]
  have differ : ∀ one other : Bool,
      ((one != other) = true ↔ one = !other) ∧ ((one != other) = true ↔ other = !one) := by
    decide
  exact ⟨(differ _ _).1, (differ _ _).2⟩

theorem occursBetween_iff_touchedBetween {word : Text} (filled : word ≠ [])
    (before covered after : Text) :
    (ofOptions caseSensitive true).OccursBetween word before covered after ↔
      (ofOptions caseSensitive true).TouchedBetween (!Unicode.isWordAt word.head?)
        (!Unicode.isWordAt word.getLast?) word before covered after := by
  constructor
  · intro occurs
    rcases free_iff_of_map_code_eq filled occurs.sameCodes before after with ⟨opens, closes⟩
    exact ⟨occurs.sameCodes, opens.1 occurs.freeBefore, closes.1 occurs.freeAfter⟩
  · intro touched
    rcases free_iff_of_map_code_eq filled touched.sameCodes before after with ⟨opens, closes⟩
    exact ⟨touched.sameCodes, opens.2 touched.before, closes.2 touched.after⟩

end WordRule

namespace Query

def Touched (query : Query) (front back : Bool) (text : Text) (span : Span) : Prop :=
  query.isEmpty = false ∧ query.rule.Touched front back query.text text span

abbrev Isolated (query : Query) : Text → Span → Prop :=
  query.Touched false false

variable {query : Query}

theorem occurs_iff_touched (wholeWord : query.wholeWord = true) (text : Text) (span : Span) :
    query.Occurs text span ↔
      query.Touched (!Unicode.isWordAt query.text.head?) (!Unicode.isWordAt query.text.getLast?)
        text span := by
  refine and_congr_right fun filled => ?_
  have word : query.text ≠ [] := by simpa [isEmpty] using filled
  simp only [WordRule.Occurs, WordRule.Touched, rule, wholeWord,
    WordRule.occursBetween_iff_touchedBetween word]

theorem isolated_self (filled : query.isEmpty = false) :
    query.Isolated query.text ⟨0, query.text.byteLength⟩ :=
  ⟨filled, [], query.text, [], (List.append_nil _).symm, rfl, rfl, rfl, rfl⟩

/-- The matches of a query are chosen among its occurrences from left to right, and
there is no other way to choose. -/
theorem leftmost_iff_eq_allMatches {counts : Span → Prop} {text : Text}
    (same : ∀ span, query.Occurs text span ↔ counts span) (spans : List Span) :
    Span.Leftmost counts 0 spans ↔ spans = query.allMatches text := by
  rw [← Span.Leftmost.congr same]
  have chosen := Span.leftmost_chooseFrom (query.ordered_pattern text) 0
  rw [Span.Leftmost.congr (query.mem_pattern_iff_occurs text)] at chosen
  constructor
  · intro leftmost
    exact leftmost.unique (fun _ _ => Occurs.eq_of_start_eq) chosen
  · intro same
    rwa [same]

/-! ## Whole words and isolated words -/

/-- Only between ends that are word characters are the matches in the word itself
the isolated ones. -/
theorem isWordAt_of_leftmost_isolated (filled : query.isEmpty = false)
    (wholeWord : query.wholeWord = true)
    (leftmost : Span.Leftmost (query.Isolated query.text) 0 (query.allMatches query.text)) :
    Unicode.isWordAt query.text.head? = true ∧ Unicode.isWordAt query.text.getLast? = true := by
  generalize found : query.allMatches query.text = spans at leftmost
  cases leftmost with
  | nil passed => exact absurd (passed _ (isolated_self filled)) (Nat.lt_irrefl 0)
  | cons first later =>
      have matched : query.Occurs query.text _ :=
        (query.mem_pattern_iff_occurs query.text _).1
          ((Span.chooseFrom_sublist 0 _).subset (found ▸ List.mem_cons_self))
      have touched := (occurs_iff_touched wholeWord query.text _).1 matched
      have ⟨front, back⟩ := WordRule.untouched_of_length_eq rfl touched.2
      exact ⟨by simpa using front, by simpa using back⟩

end Query

/-! ## The words of a grammar -/

namespace WordRule

def matchesOf (rule : WordRule) (word text : Text) : List Span :=
  Span.chooseFrom 0 (rule.occurrencesOf word text.places)

theorem allMatches_eq_matchesOf {query : Query} (filled : query.isEmpty = false) (text : Text) :
    query.allMatches text = query.rule.matchesOf query.text text := by
  rw [Query.allMatches, Query.pattern, Pattern.allMatches, Pattern.ofWord_eq]
  have word : query.text.isEmpty = false := filled
  simp [word, matchesOf]

end WordRule

theorem Pass.ranges_ofWords (words : List Text) (style : Style) (text : Text) :
    (Pass.ofWords words style).ranges text = words.flatMap fun word =>
      ((WordRule.ofOptions true true).matchesOf word text).map fun span => ⟨span, style⟩ := by
  simp only [ranges, ofWords, WordRule.occurrences_eq, List.flatMap_map, WordRule.matchesOf]

namespace Query

/-- The matches of a whole word, of a query or of a grammar, are chosen from left to
right among the places where a word character touches each end that is none itself,
and no other one.  These are the isolated ones in every text exactly if the word
begins and ends with a word character. -/
theorem wholeWord_isolated_iff {query : Query} (filled : query.isEmpty = false)
    (wholeWord : query.wholeWord = true) :
    (∀ text spans,
      Span.Leftmost (query.Touched (!Unicode.isWordAt query.text.head?)
          (!Unicode.isWordAt query.text.getLast?) text) 0 spans ↔
        spans = query.allMatches text) ∧
    ((∀ text spans, Span.Leftmost (query.Isolated text) 0 spans ↔
        spans = query.allMatches text) ↔
      Unicode.isWordAt query.text.head? = true ∧
        Unicode.isWordAt query.text.getLast? = true) ∧
    (query.caseSensitive = true → ∀ text,
      (WordRule.ofOptions true true).matchesOf query.text text = query.allMatches text) ∧
    ∀ (grammar : Grammar) (text : Text), grammar.ranges text =
      (grammar.keywords.flatMap fun word =>
        ((WordRule.ofOptions true true).matchesOf word text).map
          fun span => ⟨span, Palette.grammarKeyword⟩) ++
      (grammar.types.flatMap fun word =>
        ((WordRule.ofOptions true true).matchesOf word text).map
          fun span => ⟨span, Palette.grammarType⟩) ++
      (grammar.passes.drop 2).flatMap fun pass => pass.ranges text := by
  have chosen := fun text =>
    leftmost_iff_eq_allMatches (occurs_iff_touched wholeWord text)
  refine ⟨chosen, ⟨?_, ?_⟩, ?_, ?_⟩
  · intro isolated
    exact isWordAt_of_leftmost_isolated filled wholeWord ((isolated _ _).2 rfl)
  · intro ⟨head, last⟩
    simpa only [head, last, Bool.not_true] using chosen
  · intro caseSensitive text
    rw [WordRule.allMatches_eq_matchesOf filled, rule, caseSensitive, wholeWord]
  · intro grammar text
    rw [← Pass.ranges_ofWords, ← Pass.ranges_ofWords]
    simp [Grammar.ranges, Grammar.passes]

/-- Case does not count, and one match has more bytes than what is looked for. -/
theorem wholeWord_isolated_iff_kelvinSign :
    let query : Query := { text := "k".toList, wholeWord := true }
    let text : Text := "K ak \u212a".toList
    query.allMatches text = [⟨0, 1⟩, ⟨5, 8⟩] ∧
      Span.Leftmost (query.Isolated text) 0 [⟨0, 1⟩, ⟨5, 8⟩] := by
  intro query text
  have found : query.allMatches text = [⟨0, 1⟩, ⟨5, 8⟩] := by decide +kernel
  rcases @wholeWord_isolated_iff query rfl rfl with ⟨_, isolated, _⟩
  have ends : Unicode.isWordAt query.text.head? = true ∧
      Unicode.isWordAt query.text.getLast? = true := by decide +kernel
  exact ⟨found, (isolated.2 ends text _).2 found.symm⟩

/-- A word that ends with a plus sign is not found where it stands alone, and it is
found where a letter touches it; so it is for a query and for a keyword. -/
theorem not_leftmost_isolated_plusSigns :
    let query : Query := { text := "c++".toList, caseSensitive := true, wholeWord := true }
    let grammar : Grammar := { keywords := ["c++".toList] }
    (query.allMatches "c++".toList = [] ∧ grammar.ranges "c++".toList = [] ∧
      query.Isolated "c++".toList ⟨0, 3⟩ ∧
      ¬ Span.Leftmost (query.Isolated "c++".toList) 0 (query.allMatches "c++".toList)) ∧
    (query.allMatches "c++x".toList = [⟨0, 3⟩] ∧
      grammar.ranges "c++x".toList = [⟨⟨0, 3⟩, Palette.grammarKeyword⟩] ∧
      ¬ query.Isolated "c++x".toList ⟨0, 3⟩) := by
  intro query grammar
  have nowhere : query.allMatches "c++".toList = [] := by decide +kernel
  have alone : query.Isolated "c++".toList ⟨0, 3⟩ := @isolated_self query rfl
  refine ⟨⟨nowhere, by decide +kernel, alone, ?_⟩, by decide +kernel, by decide +kernel, ?_⟩
  · rw [nowhere]
    intro leftmost
    cases leftmost with
    | nil passed => exact absurd (passed _ alone) (Nat.lt_irrefl 0)
  · intro ⟨_, before, covered, after, whole, ends, between⟩
    have begins : before = [] :=
      Text.byteLength_eq_zero_iff.1 (congrArg Span.start ends).symm
    have length := congrArg List.length between.sameCodes
    rw [List.length_map, List.length_map] at length
    rw [begins, List.nil_append] at whole
    have passed : (covered ++ after).drop 3 = after := List.drop_left' length
    have behind : after = "x".toList := passed.symm.trans (congrArg (List.drop 3) whole.symm)
    have touched := between.after
    rw [behind] at touched
    exact absurd touched (by decide +kernel)

end Query

end LiveEditor
