import LiveTemplates.Config.Json
import LiveTemplates.Proofs.Config.Fields
import LiveTemplates.Proofs.Config.Listed
import LiveTemplates.Proofs.Json.Reading
import Mathlib.Data.List.Perm.Basic

set_option autoImplicit false

/-! # Configurations and their JSON form

Each field has a key, and what is written for its value is read as that value (`read_toJson`). Settings
are read one by one, each into its own field, so only which of them are there matters
(`setFields_of_written`): neither their order nor unknown keys among them, and one that has its default
value may be left out. -/

namespace LiveTemplates

namespace Configuration

/-! ## One field -/

/-- The key of a field in JSON. -/
def Field.key : Field → String
  | templatePath => "template_path"
  | inputEncoding => "input_encoding"
  | reloadable => "template_reloadable"
  | compilePath => "compile_path"
  | loader => "template_loader"
  | packages => "import_packages"
  | classes => "import_classes"
  | methods => "import_methods"
  | functions => "import_functions"
  | tags => "import_tags"
  | globals => "import_variables"
  | autoscan => "import_autoscan"
  | autoscanPackages => "import_autoscan_packages"

theorem Field.key_injective {field other : Field} (h : field.key = other.key) : field = other := by
  cases field <;> cases other <;> first | rfl | exact absurd h (by decide)

/-- A value as it is written. -/
def Kind.toJson : (kind : Kind) → kind.Value → Json
  | path, value | text, value => .string value
  | truth, value => .bool value
  | optionalPath, value => (value.map Json.string).getD .null
  | loader, value => .string value.text
  | texts, value => textsToJson value

/-- Read a value. -/
def Kind.read : (kind : Kind) → Json → Except JsonFault kind.Value
  | path => readText "path string"
  | text => readText "a string"
  | truth => readTruth
  | optionalPath => fun
    | .null => .ok none
    | value => (readText "path string" value).map some
  | loader => readLoader
  | texts => readTexts

theorem readTexts_textsToJson (entries : List String) :
    readTexts (textsToJson entries) = .ok entries := by
  rw [textsToJson, readTexts]
  induction entries with
  | nil => rfl
  | cons first rest ih =>
      rw [List.map_cons, List.mapM_cons, ih]
      rfl

theorem Kind.read_toJson (kind : Kind) (value : kind.Value) :
    kind.read (kind.toJson value) = .ok value := by
  cases kind with
  | texts => exact readTexts_textsToJson value
  | optionalPath => cases value <;> rfl
  | loader => cases value <;> rfl
  | _ => rfl

theorem Kind.toJson_injective {kind : Kind} {value other : kind.Value}
    (h : kind.toJson value = kind.toJson other) : value = other := by
  have hread := kind.read_toJson value
  rw [h, kind.read_toJson] at hread
  exact (Except.ok.inj hread).symm

theorem toFields_eq (config : Configuration) :
    config.toFields
      = Field.all.map fun field => (field.key, field.kind.toJson (config.get field)) :=
  rfl

theorem mem_toFields {config : Configuration} {entry : String × Json} :
    entry ∈ config.toFields
      ↔ ∃ field : Field, entry = (field.key, field.kind.toJson (config.get field)) := by
  rw [toFields_eq, List.mem_map]
  constructor
  · rintro ⟨field, -, rfl⟩
    exact ⟨field, rfl⟩
  · rintro ⟨field, rfl⟩
    exact ⟨field, field.mem_all, rfl⟩

theorem mem_fieldKeys {key : String} : key ∈ fieldKeys ↔ ∃ field : Field, key = field.key := by
  rw [fieldKeys, toFields_eq, List.map_map, List.mem_map]
  constructor
  · rintro ⟨field, -, rfl⟩
    exact ⟨field, rfl⟩
  · rintro ⟨field, rfl⟩
    exact ⟨field, field.mem_all, rfl⟩

theorem setField_key (config : Configuration) (field : Field) (value : Json) :
    config.setField field.key value = (field.kind.read value).map (config.set field) := by
  cases field with
  | compilePath => cases value <;> rfl
  | _ => rfl

theorem setField_of_unknown (config : Configuration) {key : String} (h : key ∉ fieldKeys)
    (value : Json) : config.setField key value = .ok config := by
  simp only [fieldKeys, toFields, List.map_cons, List.map_nil, List.mem_cons, List.not_mem_nil,
    or_false, not_or] at h
  unfold setField
  split <;> simp_all

/-! ## Several fields -/

/-- Settings that a configuration is written with are read as it has them; fields that are not among
them stay as they are. -/
theorem setFields_of_written {config : Configuration} {entries : List (String × Json)}
    (written : ∀ entry ∈ entries, entry ∈ config.toFields ∨ entry.1 ∉ fieldKeys)
    (start : Configuration) :
    ∃ read, start.setFields entries = .ok read
      ∧ ∀ field : Field, read.get field
        = if field.key ∈ Dictionary.keys entries then config.get field else start.get field := by
  induction entries generalizing start with
  | nil => exact ⟨start, rfl, fun field => by simp [Dictionary.keys]⟩
  | cons first rest ih =>
      obtain ⟨hfirst, hrest⟩ := List.forall_mem_cons.1 written
      obtain ⟨key, value⟩ := first
      have hkeys : Dictionary.keys ((key, value) :: rest) = key :: Dictionary.keys rest := rfl
      simp only [hkeys, setFields, List.mem_cons]
      rcases hfirst with hknown | hunknown
      · obtain ⟨own, hentry⟩ := mem_toFields.1 hknown
        obtain ⟨rfl, rfl⟩ := Prod.mk.inj hentry
        rw [setField_key, Kind.read_toJson]
        obtain ⟨read, hread, hfields⟩ := ih hrest (start.set own (config.get own))
        refine ⟨read, hread, fun field => ?_⟩
        rw [hfields]
        by_cases hown : field = own
        · subst hown
          rw [get_set_self, ite_self, if_pos (.inl rfl)]
        · have hkey : field.key ≠ own.key := mt Field.key_injective hown
          rw [get_set_of_ne _ _ hown]
          simp only [hkey, false_or]
      · rw [setField_of_unknown start hunknown]
        obtain ⟨read, hread, hfields⟩ := ih hrest start
        refine ⟨read, hread, fun field => ?_⟩
        have hkey : field.key ≠ key := by
          rintro rfl
          exact hunknown (mem_fieldKeys.2 ⟨field, rfl⟩)
        rw [hfields]
        simp only [hkey, false_or]

/-- An object gives the configuration that it was written for, if what it leaves out is as it is by
default. -/
theorem ofJson_object {config : Configuration} {fields : List (String × Json)}
    (written : ∀ entry ∈ fields, entry ∈ config.toFields ∨ entry.1 ∉ fieldKeys)
    (standard : ∀ entry ∈ config.toFields,
      entry.1 ∉ Dictionary.keys fields → entry ∈ toFields {}) :
    ofJson (.object fields) = .ok config := by
  obtain ⟨read, hread, hfields⟩ := setFields_of_written written {}
  rw [ofJson, hread]
  refine congrArg Except.ok (ext_of_get fun field => ?_)
  rw [hfields]
  by_cases hkey : field.key ∈ Dictionary.keys fields
  · rw [if_pos hkey]
  · rw [if_neg hkey]
    have hentry := standard _ (mem_toFields.2 ⟨field, rfl⟩) hkey
    obtain ⟨other, hother⟩ := mem_toFields.1 hentry
    obtain ⟨hsame, hvalue⟩ := Prod.mk.inj hother
    cases Field.key_injective hsame
    exact (Kind.toJson_injective hvalue).symm

/-! ## The text of the form -/

/-- No field holds a number. -/
theorem Kind.wordy_toJson (kind : Kind) (value : kind.Value) :
    Json.Wordy 126 (kind.toJson value) := by
  cases kind with
  | path => exact .string value
  | text => exact .string value
  | truth => exact .bool value
  | optionalPath =>
      cases value with
      | none => exact .null
      | some path => exact .string path
  | loader => exact .string value.text
  | texts =>
      refine .array fun item hitem => ?_
      obtain ⟨entry, -, rfl⟩ := List.mem_map.1 hitem
      exact .string entry

theorem wordy_of_mem_toFields {config : Configuration} {entry : String × Json}
    (h : entry ∈ config.toFields) : Json.Wordy 126 entry.2 := by
  obtain ⟨field, rfl⟩ := mem_toFields.1 h
  exact Kind.wordy_toJson _ _

theorem parse?_toJson (config : Configuration) :
    Json.parse? config.toJson.compact = some config.toJson := by
  have hordered := Dictionary.ordered_ofList config.toFields
  refine Json.parse?_compact (.object hordered fun entry hmem => ?_)
  exact wordy_of_mem_toFields (Dictionary.mem_of_mem_ofList hmem)

theorem ofJson_toJson (config : Configuration) : ofJson config.toJson = .ok config := by
  refine ofJson_object (fun entry hmem => .inl (Dictionary.mem_of_mem_ofList hmem)) ?_
  intro entry hmem hkey
  exact absurd ((Dictionary.mem_keys_ofList _).2 (List.mem_map_of_mem hmem)) hkey

/-! ## Other forms of the same configuration -/

/-- A configuration is read back from its JSON form, as a value and as a text. Settings that have their
default values may be left out of the form, unknown ones may be put in, and all of them may stand in
any order. What is read can be built if and only if the configuration is valid. -/
theorem json_form_survives (config : Configuration) {dropped : List String}
    {extra fields : List (String × Json)}
    (standard : ∀ entry ∈ config.toFields, entry.1 ∈ dropped → entry ∈ toFields {})
    (unknown : ∀ entry ∈ extra, entry.1 ∉ fieldKeys)
    (reordered : fields.Perm ((config.toFields.filter fun entry => entry.1 ∉ dropped) ++ extra)) :
    ofJson config.toJson = .ok config
      ∧ Json.parse? config.toJson.compact = some config.toJson
      ∧ ofJson (.object fields) = .ok config
      ∧ ((∀ entry ∈ extra, Json.Wordy 126 entry.2) →
        ∃ value, Json.parse? (Json.object fields).compact = some value ∧ ofJson value = .ok config)
      ∧ ∀ read, ofJson (.object fields) = .ok read →
        ∀ built, read.build = .ok built ↔ config.validate = .ok () ∧ built = config := by
  have hparts : ∀ entry, entry ∈ fields
      ↔ (entry ∈ config.toFields ∧ entry.1 ∉ dropped) ∨ entry ∈ extra := by
    intro entry
    rw [reordered.mem_iff, List.mem_append, List.mem_filter, decide_eq_true_eq]
  have hwritten : ∀ entry ∈ fields, entry ∈ config.toFields ∨ entry.1 ∉ fieldKeys := by
    intro entry hmem
    exact ((hparts entry).1 hmem).imp And.left (unknown entry)
  have hstandard : ∀ entry ∈ config.toFields, entry.1 ∉ Dictionary.keys fields →
      entry ∈ toFields {} := by
    intro entry hmem hkey
    refine standard entry hmem (not_not.1 fun hkept => hkey ?_)
    exact List.mem_map_of_mem ((hparts entry).2 (.inl ⟨hmem, hkept⟩))
  have hread := ofJson_object hwritten hstandard
  refine ⟨ofJson_toJson config, parse?_toJson config, hread, ?_, ?_⟩
  · intro hwordy
    refine ⟨_, Json.parse?_object fun entry hmem => ?_, ?_⟩
    · exact ((hparts entry).1 hmem).elim (fun h => wordy_of_mem_toFields h.1) (hwordy entry)
    · refine ofJson_object (fun entry hmem => hwritten entry (Dictionary.mem_of_mem_ofList hmem)) ?_
      intro entry hmem hkey
      exact hstandard entry hmem (mt (Dictionary.mem_keys_ofList _).2 hkey)
  · intro read hsame built
    rw [hread] at hsame
    cases hsame
    exact build_eq_ok_iff

/-- A configuration that is not valid, with some fields as they are by default. -/
def sampleConfig : Configuration :=
  { templatePath := "/srv/täglich"
    compilePath := some ""
    loader := .external
    functions := ["a \"b\"", ""]
    globals := ["String site"] }

/-- Its settings backwards, without some that are as by default, and with an unknown one. -/
def sampleFields : List (String × Json) := [
  ("note", .number (.whole 1)), ("import_autoscan_packages", .array []),
  ("import_variables", .array [.string "String site"]), ("import_tags", .array []),
  ("import_functions", .array [.string "a \"b\"", .string ""]), ("import_methods", .array []),
  ("import_classes", .array []), ("template_loader", .string "external"),
  ("compile_path", .string ""), ("template_reloadable", .bool false),
  ("template_path", .string "/srv/täglich")]

theorem ofJson_sampleFields :
    (∀ entry ∈ sampleConfig.toFields,
        entry.1 ∈ ["input_encoding", "import_packages", "import_autoscan"] → entry ∈ toFields {})
      ∧ (∀ entry ∈ [("note", Json.number (.whole 1))], entry.1 ∉ fieldKeys)
      ∧ ofJson (.object sampleFields) = .ok sampleConfig
      ∧ ∀ built, sampleConfig.build ≠ .ok built := by
  have hstandard : ∀ entry ∈ sampleConfig.toFields,
      entry.1 ∈ ["input_encoding", "import_packages", "import_autoscan"] →
        entry ∈ toFields {} := by
    intro entry hmem hdropped
    obtain ⟨field, rfl⟩ := mem_toFields.1 hmem
    cases field with
    | inputEncoding => exact mem_toFields.2 ⟨.inputEncoding, rfl⟩
    | packages => exact mem_toFields.2 ⟨.packages, rfl⟩
    | autoscan => exact mem_toFields.2 ⟨.autoscan, rfl⟩
    | _ => exact absurd hdropped (by decide)
  have hunknown : ∀ entry ∈ [("note", Json.number (.whole 1))], entry.1 ∉ fieldKeys := by
    simp [fieldKeys, toFields]
  have hreverse : sampleFields.Perm ((sampleConfig.toFields.filter fun entry =>
      entry.1 ∉ ["input_encoding", "import_packages", "import_autoscan"])
        ++ [("note", Json.number (.whole 1))]) :=
    (List.reverse_perm sampleFields).symm
  obtain ⟨-, -, hread, -, hbuild⟩ := json_form_survives sampleConfig hstandard hunknown hreverse
  have hinvalid : sampleConfig.validate ≠ .ok () := by decide +kernel
  refine ⟨hstandard, hunknown, hread, fun built hbuilt => hinvalid ?_⟩
  exact ((hbuild _ hread built).1 hbuilt).1

end Configuration

end LiveTemplates
