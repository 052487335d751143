import LiveEditor.Proofs.Files.Writing
import LiveEditor.Proofs.Text.Encoding
import LiveEditor.Proofs.Toml.Document
import LiveEditor.Proofs.Toml.Integers
import LiveEditor.Settings.Reader
import LiveEditor.Settings.Writer

/-! # Settings that were saved

Settings that come from a document hold no number that a document has no place for,
so they can be written again.  What is written is read as the same settings, whatever
their strings hold, and a file that was saved is found at its path.
-/

namespace LiveEditor.Settings

open Toml

/-! ## Written lines -/

theorem reads_sectionLine {fields : Fields} {current : List Text} {name : String} {rest : Text}
    {final : Draft} (bare : IsBare name.toList) (fresh : fields.lookup name.toList = none)
    (later : Draft.Reads ⟨fields ++ [(name.toList, .table .header [])], [name.toList]⟩ rest final) :
    Draft.Reads ⟨fields, current⟩ (sectionLine name ++ rest) final := by
  have whole : sectionLine name ++ rest = '[' :: (name.toList ++ ']' :: '\n' :: rest) := by
    simp [sectionLine]
  rw [whole]
  exact Draft.Reads.header bare fresh later

theorem reads_keyLine {fields inner : Fields} {name text rest : Text} {key : String}
    {value : Toml} {final : Draft} (bare : IsBare key.toList) (writes : Writes text value)
    (known : fields.lookup name = none) (fresh : inner.lookup key.toList = none)
    (later : Draft.Reads
      ⟨fields ++ [(name, .table .header (inner ++ [(key.toList, value)]))], [name]⟩ rest final) :
    Draft.Reads ⟨fields ++ [(name, .table .header inner)], [name]⟩
      (keyLine key text ++ rest) final := by
  have whole : keyLine key text ++ rest =
      key.toList ++ ' ' :: '=' :: ' ' :: (text ++ '\n' :: rest) := by
    simp [keyLine]
  rw [whole]
  exact Draft.Reads.field bare writes known fresh later

/-! ## Written settings -/

/-- The numbers of settings have a place in a document, and they are in range. -/
structure IsWritable (settings : Settings) : Prop where
  port : settings.bridge.port < Number.bound16
  probeTimeout : isWritableNumber settings.bridge.probeTimeout = true
  connectTimeout : isWritableNumber settings.bridge.connectTimeout = true

def writtenFields (settings : Settings) : Fields :=
  [ ("bridge".toList, .table .header
      [ ("host".toList, .string settings.bridge.host),
        ("port".toList, .integer settings.bridge.port),
        ("probe_timeout_ms".toList, .integer settings.bridge.probeTimeout),
        ("connect_timeout_ms".toList, .integer settings.bridge.connectTimeout) ]),
    ("editor".toList, .table .header
      [ ("draft_file_name".toList, .string settings.editor.draftName),
        ("default_extension".toList, .string settings.editor.defaultExtension),
        ("clear_errors_on_edit".toList, .boolean settings.editor.clearErrorsOnEdit) ]),
    ("syntax".toList, .table .header
      (settings.grammarDirectory.toList.map fun directory =>
        ("config_dir".toList, .string directory))) ]

theorem reads_write {settings : Settings} (writable : settings.IsWritable) :
    Draft.Reads {} settings.write ⟨settings.writtenFields, ["syntax".toList]⟩ := by
  have timeout : ∀ {value : Nat}, isWritableNumber value = true →
      Writes (writtenNumber value) (.integer value) :=
    fun fits => writes_toDigits (of_decide_eq_true fits)
  have port : (settings.bridge.port : Int) < Number.signedBound64 := by
    have small := writable.port
    unfold Number.bound16 at small
    unfold Number.signedBound64
    omega
  -- Line after line, in the order in which they are written.
  simp only [write, List.append_assoc]
  refine reads_sectionLine (isBare_of_all rfl rfl) rfl ?_
  refine reads_keyLine (isBare_of_all rfl rfl) (writes_quoted _) rfl rfl ?_
  refine reads_keyLine (isBare_of_all rfl rfl) (writes_toDigits port) rfl rfl ?_
  refine reads_keyLine (isBare_of_all rfl rfl) (timeout writable.probeTimeout) rfl rfl ?_
  refine reads_keyLine (isBare_of_all rfl rfl) (timeout writable.connectTimeout) rfl rfl ?_
  refine .blank (reads_sectionLine (isBare_of_all rfl rfl) rfl ?_)
  refine reads_keyLine (isBare_of_all rfl rfl) (writes_quoted _) rfl rfl ?_
  refine reads_keyLine (isBare_of_all rfl rfl) (writes_quoted _) rfl rfl ?_
  refine reads_keyLine (isBare_of_all rfl rfl) (writes_boolean _) rfl rfl ?_
  refine .blank (reads_sectionLine (isBare_of_all rfl rfl) rfl ?_)
  unfold writtenFields
  cases settings.grammarDirectory with
  | none => exact Draft.reads_nil _
  | some directory =>
      dsimp only
      rw [← List.append_nil (keyLine _ _)]
      exact reads_keyLine (isBare_of_all rfl rfl) (writes_quoted _) rfl rfl (Draft.reads_nil _)

/-! ## Sections -/

section

variable {α : Type} {values : Section} {place : Nat} {key : String}
  {decode : Toml → Option α} {standard value : α}

theorem Section.get_byKey {fields : Fields} {item : Toml}
    (found : fields.lookup key.toList = some item) :
    Section.get (.byKey fields) place key decode standard = decode item := by
  rw [Section.get, Section.value?, found]

theorem Section.get_cases (got : values.get place key decode standard = some value) :
    value = standard ∨
      ∃ item, values.value? place key = some item ∧ decode item = some value := by
  unfold Section.get at got
  split at got
  · exact .inl (Option.some.inj got).symm
  · next item found => exact .inr ⟨item, found, got⟩

end

theorem natural?_ofNat {bound value : Nat} (inside : value < bound) :
    natural? bound (.integer value) = some value :=
  if_pos inside

theorem eq_integer_of_natural? {bound value : Nat} {item : Toml}
    (decoded : natural? bound item = some value) : item = .integer value ∧ value < bound := by
  unfold natural? at decoded
  split at decoded
  · split at decoded
    · next inside =>
        cases decoded
        exact ⟨rfl, inside⟩
    · cases decoded
  · cases decoded

theorem lt_bound64_of_isWritableNumber {value : Nat} (fits : isWritableNumber value = true) :
    value < Number.bound64 := by
  have small : (value : Int) < Number.signedBound64 := of_decide_eq_true fits
  unfold Number.signedBound64 at small
  unfold Number.bound64
  omega

/-! ## Reading what was written -/

theorem ofFields_writtenFields {settings : Settings} (writable : settings.IsWritable) :
    ofFields settings.writtenFields = some settings := by
  have timeout : ∀ {value : Nat}, isWritableNumber value = true →
      natural? Number.bound64 (.integer value) = some value :=
    fun fits => natural?_ofNat (lt_bound64_of_isWritableNumber fits)
  have bridge : (section? settings.writtenFields "bridge").bind readBridge =
      some settings.bridge := by
    rw [show section? settings.writtenFields "bridge" = some (.byKey _) from rfl]
    rw [Option.bind_some, readBridge, Section.get_byKey rfl, Section.get_byKey rfl,
      Section.get_byKey rfl, Section.get_byKey rfl, natural?_ofNat writable.port,
      timeout writable.probeTimeout, timeout writable.connectTimeout]
    rfl
  have editor : (section? settings.writtenFields "editor").bind readEditor =
      some settings.editor := by
    rw [show section? settings.writtenFields "editor" = some (.byKey _) from rfl]
    rw [Option.bind_some, readEditor, Section.get_byKey rfl, Section.get_byKey rfl,
      Section.get_byKey rfl]
    rfl
  have grammars : (section? settings.writtenFields "syntax").bind readGrammarDirectory =
      some settings.grammarDirectory := by
    unfold writtenFields
    cases settings.grammarDirectory with
    | none => rfl
    | some directory => rfl
  rcases Option.bind_eq_some_iff.1 bridge with ⟨values, named, bridge⟩
  rcases Option.bind_eq_some_iff.1 editor with ⟨more, called, editor⟩
  rcases Option.bind_eq_some_iff.1 grammars with ⟨others, titled, grammars⟩
  simp only [ofFields, Option.bind_eq_bind, named, called, titled, bridge, editor, grammars,
    Option.bind_some]
  rfl

/-- Written settings are read as the same settings. -/
theorem parse?_write {settings : Settings} (writable : settings.IsWritable) :
    parse? settings.write = some settings := by
  have unmarked : settings.write.head? ≠ some '\ufeff' := by
    intro marked
    exact absurd (Option.some.inj marked) (by decide)
  rw [parse?, parse?_of_reads unmarked (reads_write writable), Option.bind_some]
  exact ofFields_writtenFields writable

/-! ## Settings that were read -/

def Section.Fit : Section → Prop
  | .byKey fields => fields.Fit
  | .byPlace items => ∀ item ∈ items, item.Fits

theorem Section.Fit.of_section? {document : Fields} (fit : document.Fit) {name : String}
    {values : Section} (read : section? document name = some values) : values.Fit := by
  have each : ∀ item, document.lookup name.toList = some item → item.Fits :=
    fun _ found => fit.of_lookup found
  unfold section? at read
  split at read
  · cases read
    exact Fields.fit_nil
  · next found =>
      cases read
      exact .of_table (each _ found)
  · next found =>
      cases read
      cases each _ found with
      | array _ items => exact items
  · next found =>
      cases read
      exact Fields.fits_of_mem_tables (each _ found)
  · cases read
    exact Fields.fit_nil
  · cases read

theorem Section.Fit.of_value? {values : Section} (fit : values.Fit) {place : Nat}
    {key : String} {item : Toml} (found : values.value? place key = some item) :
    item.Fits := by
  cases values with
  | byKey fields => exact Fields.Fit.of_lookup fit found
  | byPlace items => exact fit item (List.mem_of_getElem? found)

theorem Section.Fit.isWritableNumber_of_get {values : Section} (fit : values.Fit)
    {place standard value : Nat} {key : String}
    (got : values.get place key (natural? Number.bound64) standard = some value)
    (fallback : isWritableNumber standard = true) : isWritableNumber value = true := by
  rcases Section.get_cases got with same | ⟨item, found, decoded⟩
  · rw [same]
    exact fallback
  · have fits := fit.of_value? found
    rw [(eq_integer_of_natural? decoded).1] at fits
    cases fits with
    | integer _ _ highest => exact decide_eq_true highest

theorem Section.lt_of_get {values : Section} {place bound standard value : Nat} {key : String}
    (got : values.get place key (natural? bound) standard = some value)
    (fallback : standard < bound) : value < bound := by
  rcases Section.get_cases got with same | ⟨item, _, decoded⟩
  · rw [same]
    exact fallback
  · exact (eq_integer_of_natural? decoded).2

/-- Settings that were read from a document can be written. -/
theorem isWritable_of_parse? {document : Text} {settings : Settings}
    (read : parse? document = some settings) : settings.IsWritable := by
  rcases Option.bind_eq_some_iff.1 read with ⟨fields, parsed, read⟩
  have fit := fit_of_parse? parsed
  simp only [ofFields, Option.bind_eq_bind, Option.bind_eq_some_iff] at read
  rcases read with ⟨values, named, bridge, read, _, _, _, _, _, _, _, _, same⟩
  have fit := Section.Fit.of_section? fit named
  simp only [readBridge, Option.bind_eq_bind, Option.bind_eq_some_iff] at read
  rcases read with ⟨host, _, port, gotPort, probe, gotProbe, connect, gotConnect, made⟩
  cases same
  cases made
  -- A number that was missing has its standard value, which is small.
  exact ⟨Section.lt_of_get gotPort (by decide),
    fit.isWritableNumber_of_get gotProbe (by decide),
    fit.isWritableNumber_of_get gotConnect (by decide)⟩

/-! ## Files -/

theorem isOk_writeDocument (tree : FileTree) (path : Path) (document other : Text) :
    (writeDocument tree path document).isOk = (writeDocument tree path other).isOk := by
  unfold writeDocument
  split
  · exact tree.isOk_write path _ _
  · rfl
  · rfl

theorem readBytes_writeDocument {tree written : FileTree} {path : Path} {document : Text}
    (wrote : writeDocument tree path document = .ok written) :
    written.readBytes path = .ok (Utf8.encode document) := by
  rw [writeDocument] at wrote
  split at wrote
  · next plain => exact FileTree.readBytes_write plain wrote
  · split at wrote
    · cases wrote
    · cases wrote
  · split at wrote
    · cases wrote
    · cases wrote

theorem document?_of_isWritable {settings : Settings} (writable : settings.IsWritable) :
    settings.document? = some settings.write := by
  rw [document?, writable.probeTimeout, writable.connectTimeout]
  rfl

theorem load_of_readBytes {tree : FileTree} {path : Path} {document : Text}
    {settings : Settings} (bytes : tree.readBytes path = .ok (Utf8.encode document))
    (read : parse? document = some settings) : load tree path = .ok settings := by
  rw [load, FileTree.readText, bytes]
  dsimp only
  rw [Utf8.decode?_encode]
  dsimp only
  rw [read]

theorem isWritable_of_load {tree : FileTree} {path : Path} {settings : Settings}
    (loaded : load tree path = .ok settings) : settings.IsWritable := by
  rw [load] at loaded
  split at loaded
  · cases loaded
  · split at loaded
    · cases loaded
    · next read =>
        cases loaded
        exact isWritable_of_parse? read

/-- A path can be written to: the directories on the way to it can be made, and a
document can be written to it then. -/
def IsWritablePath (tree : FileTree) (path : Path) : Prop :=
  (tree.makeParents path).1 = .ok () ∧
    (writeDocument (tree.makeParents path).2 path []).isOk = true

/-- Settings that were loaded can be saved wherever a file can be written, and are
loaded from there as they were. -/
theorem load_save {source tree : FileTree} {origin path : Path} {settings : Settings}
    (loaded : load source origin = .ok settings) (target : IsWritablePath tree path) :
    ∃ saved, settings.save tree path = (.ok (), saved) ∧ load saved path = .ok settings := by
  have writable := isWritable_of_load loaded
  rcases target with ⟨parents, writes⟩
  rcases prepared : tree.makeParents path with ⟨result, made⟩
  rw [prepared] at parents writes
  dsimp only at parents writes
  rw [isOk_writeDocument made path [] settings.write] at writes
  cases wrote : writeDocument made path settings.write with
  | error error =>
      rw [wrote] at writes
      cases writes
  | ok saved =>
      refine ⟨saved, ?_, ?_⟩
      · rw [save, prepared, parents, document?_of_isWritable writable]
        dsimp only
        rw [wrote]
      · exact load_of_readBytes (readBytes_writeDocument wrote) (parse?_write writable)

def oddDocument : Text :=
  ("[bridge]\nhost = \"\\\"'é\\u0001\"\nconnect_timeout_ms = 0x7fffffffffffffff\n" ++
    "[editor]\ndraft_file_name = '''\nC:\\ ''\n\\'''\n").toList

def oddSettings : Settings where
  bridge := { Endpoint.standard with
    host := "\"'é\u0001".toList, connectTimeout := 9223372036854775807 }
  editor := { EditorSettings.standard with draftName := "C:\\ ''\n\\".toList }

theorem parse?_oddDocument : parse? oddDocument = some oddSettings := by
  decide +kernel

theorem load_save_oddSettings :
    let source : FileTree := ⟨[("config".toList, .file (Utf8.encode oddDocument))]⟩
    let path := Path.ofText "/saved/new/config".toList
    load source (Path.ofText "/config".toList) = .ok oddSettings ∧
      ∃ saved, oddSettings.save .empty path = (.ok (), saved) ∧
        load saved path = .ok oddSettings := by
  have bytes : ∀ content, FileTree.readBytes ⟨[("config".toList, .file content)]⟩
      (Path.ofText "/config".toList) = .ok content := fun _ => rfl
  have loaded := load_of_readBytes (bytes _) parse?_oddDocument
  exact ⟨loaded, load_save loaded ⟨rfl, rfl⟩⟩

end LiveEditor.Settings
