import LiveEditor.Toml.Reader

/-! # Integers of a document

An integer is read only if it fits into 64 bits with a sign, and building tables
moves values around without changing them.  So all integers of a document fit,
however deep they are inside it.
-/

namespace LiveEditor

inductive Toml.Fits : Toml → Prop
  | string (value : Text) : Fits (.string value)
  | integer (value : Int) (lowest : -Number.signedBound64 ≤ value)
      (highest : value < Number.signedBound64) : Fits (.integer value)
  | float (literal : Text) : Fits (.float literal)
  | boolean (value : Bool) : Fits (.boolean value)
  | dateTime (literal : Text) : Fits (.dateTime literal)
  | array (items : List Toml) (each : ∀ item ∈ items, Fits item) : Fits (.array items)
  | table (origin : TableOrigin) (fields : List (Text × Toml))
      (each : ∀ field ∈ fields, Fits field.2) : Fits (.table origin fields)
  | tables (elements : List Toml) (each : ∀ element ∈ elements, Fits element) :
      Fits (.tables elements)

namespace Toml

/-! ## Tables -/

namespace Fields

def Fit (fields : Fields) : Prop :=
  ∀ field ∈ fields, field.2.Fits

variable {fields : Fields} {key : Text} {value : Toml}

theorem fit_nil : Fit [] := List.forall_mem_nil _

theorem Fit.append_singleton (fit : fields.Fit) (fits : value.Fits) (key : Text) :
    Fit (fields ++ [(key, value)]) :=
  List.forall_mem_append.2 ⟨fit, List.forall_mem_singleton.2 fits⟩

theorem Fit.of_lookup (fit : fields.Fit) (found : fields.lookup key = some value) :
    value.Fits := by
  rcases List.lookup_eq_some_iff.1 found with ⟨front, back, whole, _⟩
  exact fit (key, value) (whole ▸ List.mem_append_right front List.mem_cons_self)

theorem Fit.replace (fit : fields.Fit) (fits : value.Fits) (key : Text) :
    (fields.replace key value).Fit := by
  intro field member
  rcases List.mem_map.1 member with ⟨before, inside, same⟩
  split at same
  · rw [← same]
    exact fits
  · rw [← same]
    exact fit before inside

theorem Fit.of_table {origin : TableOrigin} (fits : Fits (.table origin fields)) :
    fields.Fit := by
  cases fits with
  | table _ _ each => exact each

theorem fits_of_mem_tables {elements : List Toml} (fits : Fits (.tables elements)) :
    ∀ element ∈ elements, element.Fits := by
  cases fits with
  | tables _ each => exact each

theorem Fit.add (fit : fields.Fit) (fits : value.Fits) {result : Fields}
    (added : fields.add key value = some result) : result.Fit := by
  rw [Fields.add] at added
  split at added
  · rw [← Option.some.inj added]
    exact fit.append_singleton fits key
  · cases added

/-- The last of repeated tables can be put in place again after a change. -/
theorem Fit.replace_last (fit : fields.Fit) {elements : List Toml}
    (found : fields.lookup key = some (.tables elements)) (fits : value.Fits) :
    (fields.replace key (.tables (elements.dropLast ++ [value]))).Fit := by
  refine fit.replace (.tables _ (List.forall_mem_append.2 ⟨fun element member => ?_,
    List.forall_mem_singleton.2 fits⟩)) key
  exact fits_of_mem_tables (fit.of_lookup found) element
    ((List.dropLast_sublist elements).subset member)

theorem Fit.of_getLast? {elements : List Toml} {origin : TableOrigin} {inner : Fields}
    (fits : Fits (.tables elements)) (last : elements.getLast? = some (.table origin inner)) :
    inner.Fit :=
  .of_table (fits_of_mem_tables fits _ (List.mem_of_getLast? last))

theorem Fit.addDotted (fit : fields.Fit) (fits : value.Fits) {path : List Text}
    {result : Fields} (added : fields.addDotted key value path = some result) :
    result.Fit := by
  induction path generalizing fields result with
  | nil => exact fit.add fits added
  | cons step rest induction =>
      rw [Fields.addDotted] at added
      split at added
      · rcases Option.map_eq_some_iff.1 added with ⟨inner, changed, same⟩
        rw [← same]
        exact fit.append_singleton (.table _ _ (induction fit_nil changed)) step
      · next found =>
          rcases Option.map_eq_some_iff.1 added with ⟨inner, changed, same⟩
          rw [← same]
          exact fit.replace (.table _ _ (induction (.of_table (fit.of_lookup found)) changed)) step
      · next found =>
          split at added
          · cases added
          · rcases Option.map_eq_some_iff.1 added with ⟨inner, changed, same⟩
            rw [← same]
            exact fit.replace
              (.table _ _ (induction (.of_table (fit.of_lookup found)) changed)) step
      · next found =>
          split at added
          · next last =>
              split at added
              · cases added
              · rcases Option.map_eq_some_iff.1 added with ⟨inner, changed, same⟩
                rw [← same]
                exact fit.replace_last found
                  (.table _ _ (induction (.of_getLast? (fit.of_lookup found) last) changed))
          · cases added
      · cases added

theorem Fit.descend (fit : fields.Fit) {change : Fields → Option Fields}
    (keeps : ∀ before after, Fit before → change before = some after → Fit after)
    {path : List Text} {result : Fields}
    (changed : fields.descend change path = some result) : result.Fit := by
  induction path generalizing fields result with
  | nil => exact keeps fields result fit changed
  | cons step rest induction =>
      rw [Fields.descend] at changed
      split at changed
      · rcases Option.map_eq_some_iff.1 changed with ⟨inner, changed, same⟩
        rw [← same]
        exact fit.append_singleton (.table _ _ (induction fit_nil changed)) step
      · cases changed
      · next found =>
          rcases Option.map_eq_some_iff.1 changed with ⟨inner, changed, same⟩
          rw [← same]
          exact fit.replace (.table _ _ (induction (.of_table (fit.of_lookup found)) changed)) step
      · next found =>
          split at changed
          · next last =>
              rcases Option.map_eq_some_iff.1 changed with ⟨inner, changed, same⟩
              rw [← same]
              exact fit.replace_last found
                (.table _ _ (induction (.of_getLast? (fit.of_lookup found) last) changed))
          · cases changed
      · cases changed

theorem Fit.openTable (fit : fields.Fit) {result : Fields}
    (opened : fields.openTable key = some result) : result.Fit := by
  rw [Fields.openTable] at opened
  split at opened
  · rw [← Option.some.inj opened]
    exact fit.append_singleton (.table _ _ fit_nil) key
  · next found =>
      rw [← Option.some.inj opened]
      exact fit.replace (.table _ _ (Fit.of_table (fit.of_lookup found))) key
  · cases opened

theorem Fit.openElement (fit : fields.Fit) {result : Fields}
    (opened : fields.openElement key = some result) : result.Fit := by
  have fresh : Fits (.table .header []) := .table _ _ fit_nil
  rw [Fields.openElement] at opened
  split at opened
  · rw [← Option.some.inj opened]
    exact fit.append_singleton (.tables _ (List.forall_mem_singleton.2 fresh)) key
  · next found =>
      rw [← Option.some.inj opened]
      exact fit.replace (.tables _ (List.forall_mem_append.2
        ⟨fits_of_mem_tables (fit.of_lookup found), List.forall_mem_singleton.2 fresh⟩)) key
  · cases opened

theorem Fit.addField (fit : fields.Fit) (fits : value.Fits) {path : List Text}
    {result : Fields} (added : fields.addField path value = some result) : result.Fit := by
  rw [Fields.addField] at added
  split at added
  · cases added
  · exact fit.addDotted fits added

end Fields

/-! ## Scalars -/

/-- A reader finds only values whose integers fit. -/
def ReadsFit (read : Text → Option (Toml × Text)) : Prop :=
  ∀ text found, read text = some found → found.1.Fits

theorem fits_of_integer? {value : Int} {result : Toml} (made : integer? value = some result) :
    result.Fits := by
  rw [integer?] at made
  split at made
  · next bounds =>
      rw [← Option.some.inj made]
      exact .integer value bounds.1 bounds.2
  · cases made

theorem readsFit_readBased (base : Nat) : ReadsFit (readBased base) := by
  intro text found read
  simp only [readBased, Option.bind_eq_bind, Option.bind_eq_some_iff] at read
  rcases read with ⟨_, _, value, made, same⟩
  rw [← Option.some.inj same]
  exact fits_of_integer? made

theorem readsFit_readSpecial : ReadsFit readSpecial := by
  intro text found read
  unfold readSpecial at read
  split at read
  · rw [← Option.some.inj read]
    exact .float _
  · rw [← Option.some.inj read]
    exact .float _
  · cases read

theorem readsFit_readDecimal : ReadsFit readDecimal := by
  intro text found read
  simp only [readDecimal, Option.bind_eq_bind, Option.bind_eq_some_iff] at read
  rcases read with ⟨_, _, _, _, _, _, read⟩
  split at read
  · rcases Option.bind_eq_some_iff.1 read with ⟨value, made, same⟩
    rw [← Option.some.inj same]
    exact fits_of_integer? made
  · split at read
    · cases read
    · rw [← Option.some.inj read]
      exact .float _

theorem readsFit_readNumber : ReadsFit readNumber := by
  intro text found read
  unfold readNumber at read
  split at read
  · exact readsFit_readBased 16 _ found read
  · exact readsFit_readBased 8 _ found read
  · exact readsFit_readBased 2 _ found read
  · rcases Option.or_eq_some_iff.1 read with special | ⟨_, decimal⟩
    · exact readsFit_readSpecial _ found special
    · exact readsFit_readDecimal text found decimal

theorem readsFit_readCandidate : ReadsFit readCandidate := by
  intro text found read
  rw [readCandidate] at read
  split at read
  · rcases Option.map_eq_some_iff.1 read with ⟨_, _, same⟩
    rw [← same]
    exact .dateTime _
  split at read
  · rcases Option.map_eq_some_iff.1 read with ⟨_, _, same⟩
    rw [← same]
    exact .dateTime _
  · exact readsFit_readNumber text found read

theorem readsFit_readScalar : ReadsFit readScalar := by
  intro text found read
  unfold readScalar at read
  split at read
  · rw [← Option.some.inj read]
    exact .boolean true
  · rw [← Option.some.inj read]
    exact .boolean false
  · rcases Option.map_eq_some_iff.1 read with ⟨_, _, same⟩
    rw [← same]
    exact .string _
  · rcases Option.map_eq_some_iff.1 read with ⟨_, _, same⟩
    rw [← same]
    exact .string _
  · rcases Option.map_eq_some_iff.1 read with ⟨candidate, read, same⟩
    rw [← same]
    exact readsFit_readCandidate _ candidate read

/-! ## Values that hold others -/

section

variable {value : Text → Option (Toml × Text)} (fits : ReadsFit value)
include fits

theorem fits_of_readItems {bound : Nat} {text : Text} {found : List Toml × Text}
    (read : readItems value bound text = some found) : ∀ item ∈ found.1, item.Fits := by
  induction bound generalizing text found with
  | zero => cases read
  | succ bound induction =>
      rw [readItems] at read
      split at read
      · cases read
      · rw [← Option.some.inj read]
        exact List.forall_mem_nil _
      · split at read
        · cases read
        · next item rest first =>
            split at read
            · rcases Option.map_eq_some_iff.1 read with ⟨more, later, same⟩
              rw [← same]
              exact List.forall_mem_cons.2 ⟨fits _ _ first, induction later⟩
            · rw [← Option.some.inj read]
              exact List.forall_mem_singleton.2 (fits _ _ first)
            · cases read

theorem fits_of_readField {text : Text} {found : (List Text × Toml) × Text}
    (read : readField value text = some found) : found.1.2.Fits := by
  simp only [readField, Option.bind_eq_bind, Option.bind_eq_some_iff] at read
  rcases read with ⟨_, _, _, _, item, read, same⟩
  rw [← Option.some.inj same]
  exact fits _ item read

theorem fits_of_readFields {bound : Nat} {text : Text}
    {found : List (List Text × Toml) × Text}
    (read : readFields value bound text = some found) : ∀ field ∈ found.1, field.2.Fits := by
  induction bound generalizing text found with
  | zero => cases read
  | succ bound induction =>
      rw [readFields] at read
      split at read
      · cases read
      · next field rest first =>
          split at read
          · rcases Option.map_eq_some_iff.1 read with ⟨more, later, same⟩
            rw [← same]
            exact List.forall_mem_cons.2 ⟨fits_of_readField fits first, induction later⟩
          · rw [← Option.some.inj read]
            exact List.forall_mem_singleton.2 (fits_of_readField fits first)
          · cases read

end

theorem fit_of_foldlM_addField {added : List (List Text × Toml)} {fields result : Fields}
    (fit : fields.Fit) (fits : ∀ field ∈ added, field.2.Fits)
    (built : added.foldlM (fun table field => Fields.addField table field.1 field.2) fields =
      some result) : result.Fit := by
  induction added generalizing fields with
  | nil => exact Option.some.inj built ▸ fit
  | cons field rest induction =>
      have ⟨first, later⟩ := List.forall_mem_cons.1 fits
      rw [List.foldlM_cons] at built
      rcases Option.bind_eq_some_iff.1 built with ⟨next, changed, built⟩
      exact induction (fit.addField first changed) later built

theorem readsFit_readValue (depth : Nat) : ReadsFit (readValue depth) := by
  induction depth with
  | zero =>
      intro text found read
      unfold readValue at read
      split at read
      · cases read
      · cases read
      · exact readsFit_readScalar text found read
  | succ depth induction =>
      intro text found read
      unfold readValue at read
      split at read
      · rcases Option.map_eq_some_iff.1 read with ⟨items, read, same⟩
        rw [← same]
        exact .array _ (fits_of_readItems induction read)
      · split at read
        · rw [← Option.some.inj read]
          exact .table _ _ Fields.fit_nil
        · split at read
          · cases read
          · next fields rest listed =>
              rcases Option.map_eq_some_iff.1 read with ⟨table, built, same⟩
              rcases Option.map_eq_some_iff.1 built with ⟨result, added, equal⟩
              rw [← same, ← equal]
              exact .table _ _ (fit_of_foldlM_addField Fields.fit_nil
                (fits_of_readFields induction listed) added)
      · exact readsFit_readScalar text found read

/-! ## Documents -/

theorem fit_of_readHeader {draft : Draft} {text : Text} {found : Draft × Text}
    (fit : draft.fields.Fit) (read : readHeader draft text = some found) :
    found.1.fields.Fit := by
  have opens : ∀ (repeated : Bool) (key : Text) (before after : Fields), before.Fit →
      (if repeated then Fields.openElement key else Fields.openTable key) before = some after →
      after.Fit := by
    intro repeated key before after fit opened
    cases repeated with
    | true => exact fit.openElement opened
    | false => exact fit.openTable opened
  simp only [readHeader, Option.bind_eq_bind, Option.bind_eq_some_iff] at read
  rcases read with ⟨path, _, bracket, _, read⟩
  -- Behind its brackets a header of either kind changes the fields in one way.
  have changes : ∀ (repeated : Bool) (rest : Text),
      (path.1.getLast?.bind fun key =>
        (Fields.descend (if repeated then Fields.openElement key else Fields.openTable key)
          path.1.dropLast draft.fields).bind fun fields =>
            some (({ fields, current := path.1 } : Draft), rest)) = some found →
      found.1.fields.Fit := by
    intro repeated rest changed
    rcases Option.bind_eq_some_iff.1 changed with ⟨key, _, changed⟩
    rcases Option.bind_eq_some_iff.1 changed with ⟨fields, changed, same⟩
    rw [← Option.some.inj same]
    exact fit.descend (opens repeated key) changed
  split at read
  · rcases Option.bind_eq_some_iff.1 read with ⟨rest, _, read⟩
    exact changes true rest read
  · exact changes false bracket read

theorem fit_of_readLine {draft : Draft} {text : Text} {found : Draft × Text}
    (fit : draft.fields.Fit) (read : readLine draft text = some found) :
    found.1.fields.Fit := by
  unfold readLine at read
  split at read
  · exact fit_of_readHeader fit read
  · simp only [Option.bind_eq_bind, Option.bind_eq_some_iff] at read
    rcases read with ⟨field, listed, fields, changed, same⟩
    rw [← Option.some.inj same]
    have fits := fits_of_readField (readsFit_readValue nestingLimit) listed
    exact fit.descend (fun _ _ before added => before.addField fits added) changed

theorem fit_of_readLines {bound : Nat} {draft result : Draft} {text : Text}
    (fit : draft.fields.Fit) (read : readLines bound draft text = some result) :
    result.fields.Fit := by
  induction bound generalizing draft text with
  | zero => cases read
  | succ bound induction =>
      rw [readLines] at read
      split at read
      · rw [← Option.some.inj read]
        exact fit
      split at read
      · exact induction fit read
      split at read
      · rcases Option.bind_eq_some_iff.1 read with ⟨rest, _, read⟩
        exact induction fit read
      split at read
      · cases read
      · next next rest line =>
          rcases Option.bind_eq_some_iff.1 read with ⟨rest, _, read⟩
          exact induction (fit_of_readLine fit line) read

/-- All integers of a document fit into 64 bits with a sign. -/
theorem fit_of_parse? {document : Text} {fields : Fields}
    (parsed : parse? document = some fields) : fields.Fit := by
  rcases Option.map_eq_some_iff.1 parsed with ⟨draft, read, same⟩
  rw [← same]
  exact fit_of_readLines Fields.fit_nil read

end Toml

end LiveEditor
