import LiveEditor.Json.Reader

/-! # Grammars

A grammar tells highlighting about a language: its keywords and types, its
comment markers and its string delimiter.  It is written as a JSON object.  A
field that is missing or has the wrong shape counts as absent and leaves the
other fields alone; an empty word or marker is never kept.
-/

namespace LiveEditor

structure CommentMarkers where
  line : Option Text := none
  blockStart : Option Text := none
  blockEnd : Option Text := none
  lineFilled : line ≠ some [] := by decide
  blockStartFilled : blockStart ≠ some [] := by decide
  blockEndFilled : blockEnd ≠ some [] := by decide
  deriving DecidableEq, Repr

/-- Words in the order of their code points, each of them once and none of them empty. -/
structure IsWordSet (words : List Text) : Prop where
  ascending : words.Pairwise (· < ·)
  filled : [] ∉ words

structure Grammar where
  keywords : List Text := []
  types : List Text := []
  comments : Option CommentMarkers := none
  stringDelimiter : Option Text := none
  keywordSet : IsWordSet keywords := by exact ⟨by decide, by decide⟩
  typeSet : IsWordSet types := by exact ⟨by decide, by decide⟩
  stringFilled : stringDelimiter ≠ some [] := by decide
  deriving DecidableEq, Repr

inductive GrammarError where
  | notJson
  | notAnObject
  deriving DecidableEq, Repr

namespace Grammar

/-! ## Words -/

def insertWord (new : Text) : List Text → List Text
  | [] => [new]
  | first :: rest =>
      if new < first then new :: first :: rest
      else if new = first then first :: rest
      else first :: insertWord new rest

theorem mem_insertWord {word new : Text} {words : List Text} :
    word ∈ insertWord new words ↔ word = new ∨ word ∈ words := by
  induction words with
  | nil => simp [insertWord]
  | cons first rest induction =>
      rw [insertWord]
      split
      · exact List.mem_cons
      · split
        · next equal => simp [equal]
        · rw [List.mem_cons, induction, List.mem_cons, or_left_comm]

theorem pairwise_insertWord (new : Text) {words : List Text}
    (ascending : words.Pairwise (· < ·)) : (insertWord new words).Pairwise (· < ·) := by
  induction words with
  | nil => exact List.pairwise_singleton _ _
  | cons first rest induction =>
      rcases List.pairwise_cons.1 ascending with ⟨least, restAscending⟩
      rw [insertWord]
      split
      · next less =>
          refine List.pairwise_cons.2 ⟨?_, ascending⟩
          intro word member
          rcases List.mem_cons.1 member with rfl | later
          · exact less
          · exact List.lt_trans less (least word later)
      · next notLess =>
          split
          · exact ascending
          · next different =>
              refine List.pairwise_cons.2 ⟨?_, induction restAscending⟩
              intro word member
              rcases mem_insertWord.1 member with rfl | later
              · refine Decidable.byContradiction fun notGreater => different ?_
                exact List.le_antisymm (List.not_lt.1 notGreater) (List.not_lt.1 notLess)
              · exact least word later

def wordSet (words : List Text) : List Text :=
  (words.filter fun word => !word.isEmpty).foldr insertWord []

theorem mem_wordSet {word : Text} {words : List Text} :
    word ∈ wordSet words ↔ word ∈ words ∧ word ≠ [] := by
  have inserted : ∀ words : List Text, word ∈ words.foldr insertWord [] ↔ word ∈ words := by
    intro words
    induction words with
    | nil => exact Iff.rfl
    | cons first rest induction =>
        rw [List.foldr_cons, mem_insertWord, induction, List.mem_cons]
  rw [wordSet, inserted, List.mem_filter]
  simp

theorem pairwise_wordSet (words : List Text) : (wordSet words).Pairwise (· < ·) := by
  rw [wordSet]
  induction words.filter fun word => !word.isEmpty with
  | nil => exact .nil
  | cons first rest induction => exact pairwise_insertWord first induction

theorem isWordSet_wordSet (words : List Text) : IsWordSet (wordSet words) where
  ascending := pairwise_wordSet words
  filled := fun member => (mem_wordSet.1 member).2 rfl

/-! ## Reading -/

def wordsField (fields : List (Text × Json)) (name : String) : List Text :=
  match (Json.field? fields name.toList).bind Json.items? with
  | none => []
  | some items => wordSet (items.filterMap Json.string?)

theorem isWordSet_wordsField (fields : List (Text × Json)) (name : String) :
    IsWordSet (wordsField fields name) := by
  rw [wordsField]
  split
  · exact ⟨.nil, List.not_mem_nil⟩
  · exact isWordSet_wordSet _

def markerField (fields : List (Text × Json)) (name : String) : Option Text :=
  ((Json.field? fields name.toList).bind Json.string?).filter
    fun marker => !marker.isEmpty

theorem markerField_ne (fields : List (Text × Json)) (name : String) :
    markerField fields name ≠ some [] := by
  intro empty
  have filled := (Option.filter_eq_some_iff.1 empty).2
  exact absurd filled (by decide)

def markersOf (markers : List (Text × Json)) : CommentMarkers where
  line := markerField markers "line"
  blockStart := markerField markers "blockStart"
  blockEnd := markerField markers "blockEnd"
  lineFilled := markerField_ne markers "line"
  blockStartFilled := markerField_ne markers "blockStart"
  blockEndFilled := markerField_ne markers "blockEnd"

def ofFields (fields : List (Text × Json)) : Grammar where
  keywords := wordsField fields "keywords"
  types := wordsField fields "types"
  comments :=
    ((Json.field? fields "comments".toList).bind Json.fields?).map markersOf
  stringDelimiter := markerField fields "strings"
  keywordSet := isWordSet_wordsField fields "keywords"
  typeSet := isWordSet_wordsField fields "types"
  stringFilled := markerField_ne fields "strings"

def ofJson (document : Text) : Except GrammarError Grammar :=
  match Json.parse? document with
  | none => .error .notJson
  | some (.object fields) => .ok (ofFields fields)
  | some _ => .error .notAnObject

/-! ## Markers -/

def lineComment? (grammar : Grammar) : Option Text :=
  grammar.comments.bind CommentMarkers.line

def blockComment? (grammar : Grammar) : Option (Text × Text) :=
  match grammar.comments with
  | none => none
  | some markers =>
      match markers.blockStart, markers.blockEnd with
      | some opening, some closing => some (opening, closing)
      | _, _ => none

end Grammar

def GrammarError.message? : GrammarError → Option String
  | .notJson => none
  | .notAnObject => some "Syntax configuration must be a JSON object"

end LiveEditor
