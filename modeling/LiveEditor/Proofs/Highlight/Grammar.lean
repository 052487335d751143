import LiveEditor.Highlight.Grammar
import Mathlib.Logic.Basic

/-! # What a grammar takes from its document

Each part of a grammar is told by the value of one field: the words by the filled
strings of an array, a marker by a filled string.  Whatever stands under a name, the
parts that are told by other names are what they are without it.
-/

namespace LiveEditor

namespace Json

/-! ## Objects that differ in one field -/

/-- Of two objects the second has a value in the place of what the first has under a
name, or nothing in its place. -/
def Replaces (name : Text) (value : Option Json) (fields others : List (Text × Json)) :
    Prop :=
  ∀ other, field? others other = if other = name then value else field? fields other

theorem Replaces.field?_of_ne {name other : Text} {value : Option Json}
    {fields others : List (Text × Json)} (replaces : Replaces name value fields others)
    (different : other ≠ name) : field? others other = field? fields other := by
  rw [replaces other, if_neg different]

theorem field?_cons (field : Text × Json) (rest : List (Text × Json)) (name : Text) :
    field? (field :: rest) name =
      (field? rest name).or (if field.1 = name then some field.2 else none) := by
  rw [field?, field?, List.reverse_cons, List.find?_append, Option.map_or]
  congr 1
  by_cases same : field.1 = name <;> simp [same]

/-- The value of the last field of a name gives way to another one. -/
theorem replaces_put {name : Text} {back : List (Text × Json)} (last : field? back name = none)
    (front : List (Text × Json)) (old value : Json) :
    Replaces name (some value) (front ++ (name, old) :: back) (front ++ (name, value) :: back) := by
  induction front with
  | nil =>
      intro other
      rw [List.nil_append, List.nil_append, field?_cons, field?_cons]
      by_cases same : other = name
      · simp [same, last]
      · simp [same, Ne.symm same]
  | cons first rest induction =>
      intro other
      rw [List.cons_append, List.cons_append, field?_cons, field?_cons, induction other]
      split <;> rfl

theorem string?_eq_some_iff {value : Json} {text : Text} :
    value.string? = some text ↔ value = .string text := by
  cases value <;> simp [string?]

theorem items?_eq_some_iff {value : Json} {items : List Json} :
    value.items? = some items ↔ value = .array items := by
  cases value <;> simp [items?]

theorem fields?_eq_some_iff {value : Json} {fields : List (Text × Json)} :
    value.fields? = some fields ↔ value = .object fields := by
  cases value <;> simp [fields?]

end Json

namespace Grammar

/-! ## Words -/

/-- Words are the filled strings of an array, in ascending order and each of them once.
Anything but an array has no words. -/
structure AreWords (value : Option Json) (words : List Text) : Prop where
  ascending : words.Pairwise (· < ·)
  mem_iff : ∀ word, word ∈ words ↔
    ∃ items, value = some (.array items) ∧ .string word ∈ items ∧ word ≠ []

theorem areWords_wordsField (fields : List (Text × Json)) (name : String) :
    AreWords (Json.field? fields name.toList) (wordsField fields name) := by
  rw [wordsField]
  cases found : (Json.field? fields name.toList).bind Json.items? with
  | none =>
      refine ⟨.nil, fun word => iff_of_false List.not_mem_nil ?_⟩
      rintro ⟨items, value, _⟩
      rw [value] at found
      cases found
  | some items =>
      rcases Option.bind_eq_some_iff.1 found with ⟨value, given, array⟩
      cases Json.items?_eq_some_iff.1 array
      refine ⟨pairwise_wordSet _, fun word => ?_⟩
      simp [mem_wordSet, given, Json.string?_eq_some_iff]

/-! ## Markers -/

theorem markerField_eq_some_iff {fields : List (Text × Json)} {name : String} {marker : Text} :
    markerField fields name = some marker ↔
      Json.field? fields name.toList = some (.string marker) ∧ marker ≠ [] := by
  simp [markerField, Option.filter_eq_some_iff, Option.bind_eq_some_iff,
    Json.string?_eq_some_iff]

def IsCommentMarker (fields : List (Text × Json)) (name : String) (marker : Text) : Prop :=
  ∃ markers, Json.field? fields "comments".toList = some (.object markers) ∧
    Json.field? markers name.toList = some (.string marker) ∧ marker ≠ []

theorem comments_ofFields_eq_some_iff {fields : List (Text × Json)} {found : CommentMarkers} :
    (ofFields fields).comments = some found ↔
      ∃ markers, Json.field? fields "comments".toList = some (.object markers) ∧
        markersOf markers = found := by
  change Option.map markersOf _ = some found ↔ _
  rw [Option.map_eq_some_iff]
  refine exists_congr fun markers => and_congr_left fun _ => ?_
  simp only [Option.bind_eq_some_iff, Json.fields?_eq_some_iff, exists_eq_right]

theorem comments_ofFields_eq_none_iff {fields : List (Text × Json)} :
    (ofFields fields).comments = none ↔
      ∀ markers, Json.field? fields "comments".toList ≠ some (.object markers) := by
  rw [Option.eq_none_iff_forall_ne_some]
  constructor
  · intro absent markers described
    exact absent _ (comments_ofFields_eq_some_iff.2 ⟨markers, described, rfl⟩)
  · intro undescribed found present
    rcases comments_ofFields_eq_some_iff.1 present with ⟨markers, described, _⟩
    exact undescribed markers described

theorem blockComment?_eq_some_iff {grammar : Grammar} {opening closing : Text} :
    grammar.blockComment? = some (opening, closing) ↔
      ∃ markers, grammar.comments = some markers ∧ markers.blockStart = some opening ∧
        markers.blockEnd = some closing := by
  rw [blockComment?]
  rcases grammar.comments with _ | ⟨line, blockStart, blockEnd⟩
  · simp
  · cases blockStart <;> cases blockEnd <;> simp

/-- A marker of comments is read under its own name. -/
theorem bind_comments_eq_some_iff {fields : List (Text × Json)} {name : String}
    {part : CommentMarkers → Option Text}
    (reads : ∀ markers, part (markersOf markers) = markerField markers name) (marker : Text) :
    (ofFields fields).comments.bind part = some marker ↔ IsCommentMarker fields name marker := by
  simp only [Option.bind_eq_some_iff, comments_ofFields_eq_some_iff, exists_exists_and_eq_and,
    reads, markerField_eq_some_iff, IsCommentMarker]

/-! ## Grammars -/

structure Describes (fields : List (Text × Json)) (grammar : Grammar) : Prop where
  keywords : AreWords (Json.field? fields "keywords".toList) grammar.keywords
  types : AreWords (Json.field? fields "types".toList) grammar.types
  stringDelimiter : ∀ marker, grammar.stringDelimiter = some marker ↔
    Json.field? fields "strings".toList = some (.string marker) ∧ marker ≠ []
  comments : grammar.comments = none ↔
    ∀ markers, Json.field? fields "comments".toList ≠ some (.object markers)
  lineComment : ∀ marker, grammar.lineComment? = some marker ↔
    IsCommentMarker fields "line" marker
  blockStart : ∀ marker, grammar.comments.bind CommentMarkers.blockStart = some marker ↔
    IsCommentMarker fields "blockStart" marker
  blockEnd : ∀ marker, grammar.comments.bind CommentMarkers.blockEnd = some marker ↔
    IsCommentMarker fields "blockEnd" marker
  blockComment : ∀ opening closing, grammar.blockComment? = some (opening, closing) ↔
    IsCommentMarker fields "blockStart" opening ∧ IsCommentMarker fields "blockEnd" closing

theorem describes_ofFields (fields : List (Text × Json)) :
    Describes fields (ofFields fields) where
  keywords := areWords_wordsField fields "keywords"
  types := areWords_wordsField fields "types"
  stringDelimiter := fun _ => markerField_eq_some_iff
  comments := comments_ofFields_eq_none_iff
  lineComment := bind_comments_eq_some_iff fun _ => rfl
  blockStart := bind_comments_eq_some_iff fun _ => rfl
  blockEnd := bind_comments_eq_some_iff fun _ => rfl
  blockComment := by
    intro opening closing
    rw [blockComment?_eq_some_iff]
    simp only [comments_ofFields_eq_some_iff, exists_exists_and_eq_and, markersOf,
      markerField_eq_some_iff, IsCommentMarker]
    constructor
    · intro ⟨markers, given, start, stop⟩
      exact ⟨⟨markers, given, start⟩, ⟨markers, given, stop⟩⟩
    · intro ⟨⟨markers, given, start⟩, ⟨others, again, stop⟩⟩
      cases given.symm.trans again
      exact ⟨markers, given, start, stop⟩

/-! ## Documents -/

theorem ofJson_eq_ok_iff {document : Text} {grammar : Grammar} :
    ofJson document = .ok grammar ↔
      ∃ fields, Json.parse? document = some (.object fields) ∧ grammar = ofFields fields := by
  cases parsed : Json.parse? document with
  | none => simp [ofJson, parsed]
  | some value => cases value <;> simp [ofJson, parsed, eq_comm]

theorem ofJson_eq_notJson_iff {document : Text} :
    ofJson document = .error .notJson ↔ Json.parse? document = none := by
  cases parsed : Json.parse? document with
  | none => simp [ofJson, parsed]
  | some value => cases value <;> simp [ofJson, parsed]

theorem ofJson_eq_notAnObject_iff {document : Text} :
    ofJson document = .error .notAnObject ↔
      ∃ value, Json.parse? document = some value ∧ ∀ fields, value ≠ .object fields := by
  cases parsed : Json.parse? document with
  | none => simp [ofJson, parsed]
  | some value => cases value <;> simp [ofJson, parsed]

/-! ## Changes of one field -/

/-- After a change under a name a grammar has the parts that are told by other names. -/
structure KeepsOthers (name : Text) (before after : Grammar) : Prop where
  keywords : name ≠ "keywords".toList → after.keywords = before.keywords
  types : name ≠ "types".toList → after.types = before.types
  comments : name ≠ "comments".toList → after.comments = before.comments
  stringDelimiter : name ≠ "strings".toList → after.stringDelimiter = before.stringDelimiter

structure KeepsOtherMarkers (name : Text) (before after : Grammar) : Prop where
  line : name ≠ "line".toList → after.lineComment? = before.lineComment?
  blockStart : name ≠ "blockStart".toList →
    after.comments.bind CommentMarkers.blockStart = before.comments.bind CommentMarkers.blockStart
  blockEnd : name ≠ "blockEnd".toList →
    after.comments.bind CommentMarkers.blockEnd = before.comments.bind CommentMarkers.blockEnd

section

variable {name : Text} {value : Option Json} {fields others : List (Text × Json)}

theorem wordsField_of_replaces (replaces : Json.Replaces name value fields others)
    {other : String} (different : name ≠ other.toList) :
    wordsField others other = wordsField fields other := by
  rw [wordsField, replaces.field?_of_ne different.symm, wordsField]

theorem markerField_of_replaces (replaces : Json.Replaces name value fields others)
    {other : String} (different : name ≠ other.toList) :
    markerField others other = markerField fields other := by
  rw [markerField, replaces.field?_of_ne different.symm, markerField]

theorem keepsOthers_of_replaces (replaces : Json.Replaces name value fields others) :
    KeepsOthers name (ofFields fields) (ofFields others) where
  keywords := wordsField_of_replaces replaces
  types := wordsField_of_replaces replaces
  comments := by
    intro different
    simp only [ofFields, replaces.field?_of_ne different.symm]
  stringDelimiter := markerField_of_replaces replaces

end

theorem keepsOtherMarkers_of_replaces {name : Text} {value : Option Json}
    {fields others markers changed : List (Text × Json)}
    (before : Json.field? fields "comments".toList = some (.object markers))
    (after : Json.field? others "comments".toList = some (.object changed))
    (replaces : Json.Replaces name value markers changed) :
    KeepsOtherMarkers name (ofFields fields) (ofFields others) := by
  have found : (ofFields fields).comments = some (markersOf markers) :=
    comments_ofFields_eq_some_iff.2 ⟨markers, before, rfl⟩
  have kept : (ofFields others).comments = some (markersOf changed) :=
    comments_ofFields_eq_some_iff.2 ⟨changed, after, rfl⟩
  constructor
  all_goals simp only [lineComment?, found, kept, Option.bind_some]
  all_goals exact markerField_of_replaces replaces

/-- A document is refused exactly when it is no JSON or no object.  Any other one is read
field by field: each part of the grammar is what its own field says, words and markers are
never empty, and a block comment has markers exactly when both fields are filled strings.
Whatever value comes in the place of a field, or none, the parts of other fields stay as
they are, and so do the markers of other fields inside the description of comments; a
description that is no object leaves no marker at all. -/
theorem ofJson_field_by_field :
    (∀ document,
      (ofJson document = .error .notJson ↔ Json.parse? document = none) ∧
      (ofJson document = .error .notAnObject ↔
        ∃ value, Json.parse? document = some value ∧ ∀ fields, value ≠ .object fields) ∧
      ∀ grammar, ofJson document = .ok grammar ↔
        ∃ fields, Json.parse? document = some (.object fields) ∧ grammar = ofFields fields) ∧
    (∀ fields, Describes fields (ofFields fields)) ∧
    (∀ name value fields others, Json.Replaces name value fields others →
      KeepsOthers name (ofFields fields) (ofFields others)) ∧
    (∀ fields others markers changed,
      Json.field? fields "comments".toList = some (.object markers) →
      Json.Replaces "comments".toList (some (.object changed)) fields others →
      ∀ name value, Json.Replaces name value markers changed →
        KeepsOtherMarkers name (ofFields fields) (ofFields others)) ∧
    ∀ value fields others, (∀ markers, value ≠ some (.object markers)) →
      Json.Replaces "comments".toList value fields others →
      (ofFields others).comments = none ∧ (ofFields others).lineComment? = none ∧
        (ofFields others).blockComment? = none := by
  refine ⟨fun document => ⟨ofJson_eq_notJson_iff, ofJson_eq_notAnObject_iff,
    fun grammar => ofJson_eq_ok_iff⟩, describes_ofFields,
    fun name value fields others => keepsOthers_of_replaces, ?_, ?_⟩
  · intro fields others markers changed before replaces name value inside
    have after : Json.field? others "comments".toList = some (.object changed) := by
      rw [replaces, if_pos rfl]
    exact keepsOtherMarkers_of_replaces before after inside
  · intro value fields others noObject replaces
    have none : (ofFields others).comments = none := by
      rw [comments_ofFields_eq_none_iff, replaces, if_pos rfl]
      exact noObject
    simp only [lineComment?, blockComment?, none, Option.bind_none, and_self]

/-- A number in the place of the description of comments takes the marker away and leaves
the keywords, of which a number and an empty one do not count. -/
theorem ofJson_field_by_field_brokenComments :
    let keywords : Json := .array [.string "if".toList, .number ['3'], .string []]
    let fields := [("keywords".toList, keywords),
      ("comments".toList, .object [("line".toList, .string ['#'])])]
    let others := [("keywords".toList, keywords), ("comments".toList, .number ['7'])]
    ofJson "\x7b\"keywords\": [\"if\", 3, \"\"], \"comments\": \x7b\"line\": \"#\"\x7d\x7d".toList =
        .ok (ofFields fields) ∧
      ofJson "\x7b\"keywords\": [\"if\", 3, \"\"], \"comments\": 7\x7d".toList =
        .ok (ofFields others) ∧
      Json.Replaces "comments".toList (some (.number ['7'])) fields others ∧
      (ofFields others).keywords = (ofFields fields).keywords ∧
      (ofFields fields).keywords = ["if".toList] ∧
      (ofFields fields).lineComment? = some ['#'] ∧
      (ofFields others).lineComment? = none := by
  intro keywords fields others
  rcases ofJson_field_by_field with ⟨reads, _, keeps, _, disables⟩
  have replaces : Json.Replaces "comments".toList (some (.number ['7'])) fields others :=
    Json.replaces_put rfl [("keywords".toList, keywords)] _ _
  have same := (keeps _ _ fields others replaces).keywords (by decide)
  have gone := disables _ fields others (by simp) replaces
  refine ⟨((reads _).2.2 _).2 ⟨fields, rfl, rfl⟩, ((reads _).2.2 _).2 ⟨others, rfl, rfl⟩,
    replaces, same, by decide, by decide, gone.2.1⟩

end Grammar

end LiveEditor
