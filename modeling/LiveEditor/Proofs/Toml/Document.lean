import LiveEditor.Proofs.Toml.Scalar

/-! # Reading documents that were written

A document is written line by line: a header, a key with a scalar, or nothing.
Each line is read by itself and changes what has been read so far, so a document is
read by reading its lines one after the other.
-/

namespace LiveEditor.Toml

/-! ## Keys -/

def IsBare (key : Text) : Prop :=
  key ≠ [] ∧ ∀ character ∈ key, isKeyCharacter character = true

theorem isBare_of_all {key : Text} (filled : key.isEmpty = false)
    (all : key.all isKeyCharacter = true) : IsBare key :=
  ⟨List.isEmpty_eq_false_iff.1 filled, List.all_eq_true.1 all⟩

theorem ne_of_isKeyCharacter {character other : Char}
    (plain : isKeyCharacter character = true) (excluded : isKeyCharacter other = false) :
    character ≠ other := by
  intro same
  rw [same, excluded] at plain
  cases plain

theorem IsBare.exists_cons {key : Text} (bare : IsBare key) :
    ∃ first rest, key = first :: rest ∧ isKeyCharacter first = true := by
  cases key with
  | nil => exact absurd rfl bare.1
  | cons first rest => exact ⟨first, rest, rfl, bare.2 first List.mem_cons_self⟩

theorem skipSpaces_cons {first : Char} (dense : isSpace first = false) (rest : Text) :
    skipSpaces (first :: rest) = first :: rest :=
  List.dropWhile_cons_of_neg (by simp [dense])

theorem isSpace_of_isKeyCharacter {character : Char}
    (plain : isKeyCharacter character = true) : isSpace character = false := by
  have space := ne_of_isKeyCharacter plain (show isKeyCharacter ' ' = false by decide)
  have tab := ne_of_isKeyCharacter plain (show isKeyCharacter '\t' = false by decide)
  simp [isSpace, space, tab]

theorem readKeyPart_append {key rest : Text} (bare : IsBare key)
    (ends : ∀ character ∈ rest.head?, isKeyCharacter character = false) :
    readKeyPart (key ++ rest) = some (key, rest) := by
  have part : (key ++ rest).takeWhile isKeyCharacter = key := by
    rw [List.takeWhile_append_of_pos bare.2]
    cases rest with
    | nil => exact List.append_nil key
    | cons character rest =>
        rw [List.takeWhile_cons_of_neg (by simp [ends character rfl]), List.append_nil]
  rcases bare.exists_cons with ⟨first, more, equal, plain⟩
  unfold readKeyPart
  split
  · next same =>
      rw [equal] at same
      exact absurd (List.cons.inj same).1 (ne_of_isKeyCharacter plain (by decide))
  · next same =>
      rw [equal] at same
      exact absurd (List.cons.inj same).1 (ne_of_isKeyCharacter plain (by decide))
  · rw [part]
    split
    · next none => exact absurd rfl bare.1
    · rw [List.drop_left]

/-- A key of one part is read with the blanks behind it. -/
theorem readKey_append {key rest : Text} (bare : IsBare key)
    (ends : ∀ character ∈ rest.head?, isKeyCharacter character = false)
    (single : (skipSpaces rest).head? ≠ some '.') :
    readKey (key ++ rest) = some ([key], skipSpaces rest) := by
  rcases bare.exists_cons with ⟨first, more, equal, plain⟩
  have dense : skipSpaces (key ++ rest) = key ++ rest := by
    rw [equal, List.cons_append, skipSpaces_cons (isSpace_of_isKeyCharacter plain)]
  rw [readKey, nestingLimit, readKeyParts, dense, readKeyPart_append bare ends]
  dsimp only
  split
  · next dotted => exact absurd (congrArg List.head? dotted) single
  · rfl

/-! ## Keys with values -/

/-- A text is written for a value: at the end of a line it is read as the value. -/
structure Writes (text : Text) (value : Toml) : Prop where
  read : ∀ rest, readScalar (text ++ '\n' :: rest) = some (value, '\n' :: rest)
  begins : ∃ first more, text = first :: more ∧ isSpace first = false ∧ first ≠ '[' ∧
    first ≠ '\x7b'

theorem writes_quoted (text : Text) : Writes (quoted text) (.string text) where
  read := readScalar_quoted text
  begins := by
    rcases quoted_cases text with ⟨inside, quote | apostrophe⟩
    · exact ⟨_, inside, quote, by decide, by decide, by decide⟩
    · exact ⟨_, inside, apostrophe, by decide, by decide, by decide⟩

theorem writes_toDigits {value : Nat} (fits : (value : Int) < Number.signedBound64) :
    Writes (Nat.toDigits 10 value) (.integer value) where
  read := readScalar_toDigits fits
  begins := by
    cases digits : Nat.toDigits 10 value with
    | nil => exact absurd digits Nat.toDigits_ne_nil
    | cons first more =>
        have digit := Number.isDigit_of_mem_toDigits first (digits ▸ List.mem_cons_self)
        have other : ∀ character, character.isDigit = false → first ≠ character := by
          intro character excluded same
          rw [same, excluded] at digit
          cases digit
        have space := other ' ' (by decide)
        have tab := other '\t' (by decide)
        exact ⟨first, more, rfl, by simp [isSpace, space, tab], other _ (by decide),
          other _ (by decide)⟩

theorem writes_boolean (value : Bool) :
    Writes (if value then "true" else "false").toList (.boolean value) where
  read := by cases value <;> exact fun rest => rfl
  begins := by
    cases value
    · exact ⟨'f', _, rfl, by decide, by decide, by decide⟩
    · exact ⟨'t', _, rfl, by decide, by decide, by decide⟩

theorem Writes.readValue {text : Text} {value : Toml} (writes : Writes text value)
    (depth : Nat) (rest : Text) :
    Toml.readValue depth (text ++ '\n' :: rest) = some (value, '\n' :: rest) := by
  have read := writes.read rest
  rcases writes.begins with ⟨first, more, equal, _, bracket, brace⟩
  rw [equal, List.cons_append] at read ⊢
  cases depth with
  | zero =>
      unfold Toml.readValue
      split
      · next same => exact absurd (List.cons.inj same).1 bracket
      · next same => exact absurd (List.cons.inj same).1 brace
      · exact read
  | succ depth =>
      unfold Toml.readValue
      split
      · next same => exact absurd (List.cons.inj same).1 bracket
      · next same => exact absurd (List.cons.inj same).1 brace
      · exact read

theorem Writes.readField {key text : Text} {value : Toml} (bare : IsBare key)
    (writes : Writes text value) (depth : Nat) (rest : Text) :
    Toml.readField (Toml.readValue depth) (key ++ ' ' :: '=' :: ' ' :: (text ++ '\n' :: rest)) =
      some (([key], value), '\n' :: rest) := by
  have dense : skipSpaces (' ' :: (text ++ '\n' :: rest)) = text ++ '\n' :: rest := by
    rcases writes.begins with ⟨first, more, equal, dense, _⟩
    rw [equal, List.cons_append]
    exact skipSpaces_cons dense _
  have named : readKey (key ++ ' ' :: '=' :: ' ' :: (text ++ '\n' :: rest)) =
      some ([key], '=' :: ' ' :: (text ++ '\n' :: rest)) := by
    refine readKey_append bare (fun character first => ?_) fun dotted => ?_
    · rw [← Option.some.inj first]
      decide
    · exact absurd (Option.some.inj dotted) (by decide)
  rw [Toml.readField, named, Option.bind_eq_bind, Option.bind_some]
  dsimp only
  rw [expect, if_pos rfl, Option.bind_eq_bind, Option.bind_some, dense, writes.readValue]
  rfl

/-! ## Tables with headers -/

variable {fields : Fields} {current : List Text} {key : Text}

theorem readLine_header (bare : IsBare key) (fresh : fields.lookup key = none) (rest : Text) :
    readLine ⟨fields, current⟩ ('[' :: (key ++ ']' :: '\n' :: rest)) =
      some (⟨fields ++ [(key, .table .header [])], [key]⟩, '\n' :: rest) := by
  have named : readKey (key ++ ']' :: '\n' :: rest) = some ([key], ']' :: '\n' :: rest) := by
    refine readKey_append bare (fun character first => ?_) fun dotted => ?_
    · rw [← Option.some.inj first]
      decide
    · exact absurd (Option.some.inj dotted) (by decide)
  have opened : Fields.descend (Fields.openTable key) [] fields =
      some (fields ++ [(key, .table .header [])]) := by
    rw [Fields.descend, Fields.openTable, fresh]
  change readHeader _ _ = _
  unfold readHeader
  split
  next repeated inside form =>
    have single : (repeated, inside) = (false, key ++ ']' :: '\n' :: rest) := by
      rcases bare.exists_cons with ⟨first, more, equal, plain⟩
      rw [← form, equal]
      split
      · next same =>
          exact absurd (List.cons.inj same).1 (ne_of_isKeyCharacter plain (by decide))
      · rfl
    cases single
    rw [named, Option.bind_eq_bind, Option.bind_some]
    dsimp only
    rw [expect, if_pos rfl, Option.bind_eq_bind, Option.bind_some]
    simp [opened]

namespace Fields

theorem lookup_append_singleton {before : Fields} (fresh : before.lookup key = none)
    (value : Toml) : List.lookup key (before ++ [(key, value)]) = some value := by
  simp [List.lookup_append, fresh]

theorem replace_append_singleton {before : Fields} (fresh : before.lookup key = none)
    (old new : Toml) : replace (before ++ [(key, old)]) key new = before ++ [(key, new)] := by
  have kept : before.map (fun field => if field.1 = key then (key, new) else field) = before := by
    refine (List.map_congr_left fun field member => if_neg fun same => ?_).trans (List.map_id before)
    have absent := List.lookup_eq_none_iff.1 fresh field member
    simp [same] at absent
  rw [replace, List.map_append, kept]
  simp

end Fields

/-- A key under the last header goes behind the other keys of its table. -/
theorem readLine_field {name text : Text} {inner : Fields} {value : Toml}
    (bare : IsBare key) (writes : Writes text value) (known : fields.lookup name = none)
    (fresh : inner.lookup key = none) (rest : Text) :
    readLine ⟨fields ++ [(name, .table .header inner)], [name]⟩
        (key ++ ' ' :: '=' :: ' ' :: (text ++ '\n' :: rest)) =
      some (⟨fields ++ [(name, .table .header (inner ++ [(key, value)]))], [name]⟩,
        '\n' :: rest) := by
  have added : Fields.addField inner [key] value = some (inner ++ [(key, value)]) := by
    change Fields.add inner key value = _
    rw [Fields.add, fresh]
  have changed : Fields.descend (fun table => Fields.addField table [key] value) [name]
      (fields ++ [(name, .table .header inner)]) =
        some (fields ++ [(name, .table .header (inner ++ [(key, value)]))]) := by
    rw [Fields.descend, Fields.lookup_append_singleton known]
    dsimp only
    rw [Fields.descend, added, Option.map_some, Fields.replace_append_singleton known]
  have read := writes.readField bare nestingLimit rest
  rcases bare.exists_cons with ⟨first, more, equal, plain⟩
  unfold readLine
  split
  · next same =>
      rw [equal] at same
      exact absurd (List.cons.inj same).1 (ne_of_isKeyCharacter plain (by decide))
  · rw [read, Option.bind_eq_bind, Option.bind_some]
    dsimp only
    rw [changed]
    rfl

/-! ## Lines -/

/-- Reading a text to its end makes one draft of another. -/
def Draft.Reads (draft : Draft) (text : Text) (final : Draft) : Prop :=
  ∀ bound, text.length < bound → readLines bound draft text = some final

namespace Draft

variable {draft final : Draft} {rest : Text}

theorem reads_nil (draft : Draft) : draft.Reads [] draft := by
  intro bound inside
  cases bound with
  | zero => exact absurd inside (Nat.not_lt_zero _)
  | succ bound => rfl

theorem Reads.blank (later : draft.Reads rest final) : draft.Reads ('\n' :: rest) final := by
  intro bound inside
  cases bound with
  | zero => exact absurd inside (Nat.not_lt_zero _)
  | succ bound => exact later bound (Nat.lt_of_succ_lt_succ inside)

/-- A line with something on it is read up to its line feed. -/
theorem Reads.line {next : Draft} {first : Char} {more : Text}
    (dense : isSpace first = false) (feed : first ≠ '\n') (carriage : first ≠ '\r')
    (comment : first ≠ '#')
    (read : readLine draft (first :: (more ++ '\n' :: rest)) = some (next, '\n' :: rest))
    (later : next.Reads rest final) :
    draft.Reads (first :: (more ++ '\n' :: rest)) final := by
  intro bound inside
  cases bound with
  | zero => exact absurd inside (Nat.not_lt_zero _)
  | succ bound =>
      have shorter : rest.length < bound := by
        rw [List.length_cons, List.length_append, List.length_cons] at inside
        omega
      have filled : afterNewline? (first :: (more ++ '\n' :: rest)) = none := by
        unfold afterNewline?
        split
        · next same => exact absurd (List.cons.inj same).1 feed
        · next same => exact absurd (List.cons.inj same).1 carriage
        · rfl
      have uncommented : ¬ (first :: (more ++ '\n' :: rest)).head? = some '#' :=
        fun same => comment (Option.some.inj same)
      rw [readLines, skipSpaces_cons dense]
      dsimp only
      rw [filled, if_neg uncommented, read]
      exact later bound shorter

theorem Reads.header (bare : IsBare key) (fresh : fields.lookup key = none)
    (later : Reads ⟨fields ++ [(key, .table .header [])], [key]⟩ rest final) :
    Reads ⟨fields, current⟩ ('[' :: (key ++ ']' :: '\n' :: rest)) final := by
  have read := @readLine_header fields current key bare fresh rest
  rw [List.append_cons] at read ⊢
  exact later.line (by decide) (by decide) (by decide) (by decide) read

theorem Reads.field {name text : Text} {inner : Fields} {value : Toml} (bare : IsBare key)
    (writes : Writes text value) (known : fields.lookup name = none)
    (fresh : inner.lookup key = none)
    (later : Reads ⟨fields ++ [(name, .table .header (inner ++ [(key, value)]))], [name]⟩ rest
      final) :
    Reads ⟨fields ++ [(name, .table .header inner)], [name]⟩
      (key ++ ' ' :: '=' :: ' ' :: (text ++ '\n' :: rest)) final := by
  have read := readLine_field bare writes known fresh rest
  rcases bare.exists_cons with ⟨first, more, equal, plain⟩
  have whole : key ++ ' ' :: '=' :: ' ' :: (text ++ '\n' :: rest) =
      first :: ((more ++ ' ' :: '=' :: ' ' :: text) ++ '\n' :: rest) := by
    simp [equal]
  rw [whole] at read ⊢
  exact later.line (isSpace_of_isKeyCharacter plain) (ne_of_isKeyCharacter plain (by decide))
    (ne_of_isKeyCharacter plain (by decide)) (ne_of_isKeyCharacter plain (by decide)) read

end Draft

/-- A document that does not begin with the mark of an order of bytes. -/
theorem parse?_of_reads {document : Text} {final : Draft}
    (unmarked : document.head? ≠ some '\ufeff') (reads : Draft.Reads {} document final) :
    parse? document = some final.fields := by
  have whole : skipMark document = document := by
    unfold skipMark
    split
    · exact absurd rfl unmarked
    · rfl
  rw [parse?, whole, reads _ (Nat.lt_succ_self _)]
  rfl

end LiveEditor.Toml
