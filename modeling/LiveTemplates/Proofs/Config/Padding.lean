import LiveTemplates.Proofs.Config.Listed
import LiveTemplates.Symbols.Builtin
import Mathlib.Data.List.Forall2

set_option autoImplicit false

/-! # Blanks around imports

Entries of the import lists may have blanks around them. Whoever reads an entry of the first six lists
trims it before anything else, so two configurations whose entries are the same once trimmed import
the same (`imported_of_trims`). The packages of a scan are compared as they are written: one with
blanks around it has no providers in it. -/

namespace LiveTemplates

/-- Each entry of a list as it was, or without the blanks around it. -/
abbrev TrimsSome (raw entries : List String) : Prop :=
  List.Forall₂ (fun before after => after = before ∨ after = Text.trim before) raw entries

theorem TrimsSome.same {raw entries : List String} (h : TrimsSome raw entries) :
    entries.map Text.trim = raw.map Text.trim := by
  induction h with
  | nil => rfl
  | cons hfirst _ ih =>
      rw [List.map_cons, List.map_cons, ih]
      rcases hfirst with rfl | rfl
      · rfl
      · rw [Text.trim_trim]

/-- The configuration differs at most in blanks around some entries of its import lists. -/
structure Configuration.Trims (config other : Configuration) : Prop where
  packages : TrimsSome config.packages other.packages
  classes : TrimsSome config.classes other.classes
  methods : TrimsSome config.methods other.methods
  functions : TrimsSome config.functions other.functions
  tags : TrimsSome config.tags other.tags
  globals : TrimsSome config.globals other.globals
  autoscanPackages : TrimsSome config.autoscanPackages other.autoscanPackages
  rest : other = { config with
    packages := other.packages
    classes := other.classes
    methods := other.methods
    functions := other.functions
    tags := other.tags
    globals := other.globals
    autoscanPackages := other.autoscanPackages }

namespace Configuration

variable {config other : Configuration}

/-! ## Validity -/

theorem hasEmptyEntry_of_same {raw entries : List String}
    (same : entries.map Text.trim = raw.map Text.trim) :
    hasEmptyEntry entries = hasEmptyEntry raw := by
  have hmap : ∀ list : List String,
      hasEmptyEntry list = (list.map Text.trim).any String.isEmpty := by
    intro list
    rw [hasEmptyEntry, List.any_map]
    rfl
  rw [hmap, hmap, same]

@[simp]
theorem parse_trim (declaration : String) :
    GlobalVariable.parse (Text.trim declaration) = GlobalVariable.parse declaration := by
  simp [GlobalVariable.parse]

theorem checkVariables_map_trim (declarations : List String) :
    checkVariables (declarations.map Text.trim) = checkVariables declarations := by
  induction declarations with
  | nil => rfl
  | cons first rest ih => rw [List.map_cons, checkVariables, checkVariables, parse_trim, ih]

theorem Trims.validate (trims : Trims config other) : other.validate = config.validate := by
  have hlists : checkLists other.lists = checkLists config.lists := by
    simp only [checkLists, lists, hasEmptyEntry_of_same trims.packages.same,
      hasEmptyEntry_of_same trims.classes.same, hasEmptyEntry_of_same trims.methods.same,
      hasEmptyEntry_of_same trims.functions.same, hasEmptyEntry_of_same trims.tags.same,
      hasEmptyEntry_of_same trims.globals.same, hasEmptyEntry_of_same trims.autoscanPackages.same]
  have hglobals : checkVariables other.globals = checkVariables config.globals := by
    rw [← checkVariables_map_trim, trims.globals.same, checkVariables_map_trim]
  have hpath : other.templatePath = config.templatePath := by rw [trims.rest]
  have hencoding : other.inputEncoding = config.inputEncoding := by rw [trims.rest]
  unfold Configuration.validate
  rw [hlists, hglobals, hpath, hencoding]

theorem Trims.build (trims : Trims config other) (accepted : config.build = .ok config) :
    other.build = .ok other :=
  build_eq_ok_iff.2 ⟨trims.validate.trans (build_eq_ok_iff.1 accepted).1, rfl⟩

end Configuration

namespace Provider

variable {provider : Provider} {entry : String}

@[simp]
theorem find?_trim (providers : List Provider) (name : String) :
    find? providers (Text.trim name) = find? providers name := by
  simp [find?]

/-- A package with blanks around it is none in which a provider could be. -/
theorem not_inPackage_of_padded (unbroken : ∀ c ∈ provider.package.toList, Text.isBlank c = false)
    (padded : Text.trim entry ≠ entry) : provider.inPackage entry = false := by
  cases hwithin : provider.inPackage entry with
  | false => rfl
  | true =>
      -- the entry would be the beginning of a package, and so would any blank in it
      have hpart : ∀ c ∈ entry.toList, c ∈ provider.package.toList := by
        intro c hc
        simp only [inPackage, isWithin, Bool.or_eq_true, beq_iff_eq,
          List.isPrefixOf_iff_prefix] at hwithin
        rcases hwithin with heq | hprefix
        · rwa [heq]
        · exact hprefix.subset (List.mem_append_left _ hc)
      refine absurd (Text.IsBare.trim ⟨?_, ?_⟩) padded
      · exact fun c hc => unbroken c (hpart c (List.mem_of_mem_head? hc))
      · exact fun c hc => unbroken c (hpart c (List.mem_of_getLast? hc))

/-- A scan goes by the packages without blanks around them; if there are packages but none of these,
it finds nothing. -/
theorem scan_bare {providers : List Provider}
    (unbroken : ∀ provider ∈ providers, ∀ c ∈ provider.package.toList, Text.isBlank c = false)
    (entries : List String) :
    scan providers entries
      = providers.filter fun provider =>
        entries.isEmpty
          || (entries.filter fun entry => Text.trim entry = entry).any provider.inPackage := by
  refine List.filter_congr fun provider hmem => ?_
  have hsame : provider.inPackage
      = fun entry => decide (Text.trim entry = entry) && provider.inPackage entry := by
    funext entry
    by_cases hbare : Text.trim entry = entry
    · simp [hbare]
    · simp [hbare, not_inPackage_of_padded (unbroken provider hmem) hbare]
  rw [List.any_filter, ← hsame]

end Provider

namespace SymbolTable

variable {config other : Configuration}

/-! ## What reads the entries -/

theorem addPackage_trim (table : SymbolTable) (package : String) :
    table.addPackage (Text.trim package) = table.addPackage package := by
  simp [addPackage]

theorem addClass_trim (table : SymbolTable) (qualified : String) :
    table.addClass (Text.trim qualified) = table.addClass qualified := by
  simp [addClass]

/-- A provider that is not found is named as it is written. -/
theorem addProviderNamed_trim (providers : List Provider) (wanted : Capability)
    (table : SymbolTable) (name : String) :
    (table.addProviderNamed providers wanted (Text.trim name)).toOption
      = (table.addProviderNamed providers wanted name).toOption := by
  unfold addProviderNamed
  rw [Provider.find?_trim]
  cases Provider.find? providers name with
  | none => rfl
  | some provider => rfl

theorem addDeclarations_map_trim (table : SymbolTable) (declarations : List String) :
    table.addDeclarations (declarations.map Text.trim) = table.addDeclarations declarations := by
  induction declarations generalizing table with
  | nil => rfl
  | cons first rest ih =>
      rw [List.map_cons, addDeclarations, addDeclarations, Configuration.parse_trim]
      cases GlobalVariable.parse first with
      | ok declared => exact ih (table.addGlobal declared)
      | error fault => rfl

/-! ## Outcomes -/

section outcomes

variable {ε α β : Type}

theorem toOption_bind (first : Except ε α) (next : α → Except ε β) :
    (first >>= next).toOption = first.toOption.bind fun value => (next value).toOption := by
  cases first <;> rfl

theorem toOption_map (first : Except ε α) (change : α → β) :
    (first.map change).toOption = first.toOption.map change := by
  cases first <;> rfl

theorem toOption_foldlM (read : α → β → Except ε α) (table : α) (entries : List β) :
    (entries.foldlM read table).toOption
      = entries.foldlM (fun table entry => (read table entry).toOption) table := by
  induction entries generalizing table with
  | nil => rfl
  | cons first rest ih =>
      rw [List.foldlM_cons, List.foldlM_cons, toOption_bind]
      simp only [ih]
      rfl

/-- If blanks around an entry do not count, neither do those around the entries of a list. -/
theorem toOption_foldlM_of_same {read : α → String → Except ε α}
    (htrim : ∀ table entry, (read table (Text.trim entry)).toOption = (read table entry).toOption)
    {raw entries : List String} (same : entries.map Text.trim = raw.map Text.trim) (table : α) :
    (entries.foldlM read table).toOption = (raw.foldlM read table).toOption := by
  have hmap : ∀ list : List String, (list.foldlM read table).toOption
      = ((list.map Text.trim).foldlM read table).toOption := by
    intro list
    rw [toOption_foldlM, toOption_foldlM, List.foldlM_map]
    simp only [htrim]
  rw [hmap entries, hmap raw, same]

end outcomes

/-- The scan comes after the imports that are declared. -/
theorem ofConfiguration_eq (providers : List Provider) (config : Configuration) :
    ofConfiguration providers config
      = (ofConfiguration providers { config with autoscan := false }).map fun table =>
        if config.autoscan then table.scan providers config.autoscanPackages else table := by
  have hmap : ∀ {α β : Type} (change : α → β) (first : Except SymbolFault α),
      first.map change = change <$> first := fun _ _ => rfl
  simp only [ofConfiguration, hmap, map_bind, map_pure, Bool.false_eq_true, if_false]

/-- Blanks around entries make no difference to what is imported without a scan. -/
theorem imported_of_trims (providers : List Provider) (trims : config.Trims other) :
    (ofConfiguration providers { other with autoscan := false }).toOption
      = (ofConfiguration providers { config with autoscan := false }).toOption := by
  have hpackages : other.packages.foldl addPackage {} = config.packages.foldl addPackage {} := by
    have hmap : ∀ list : List String, list.foldl addPackage {}
        = (list.map Text.trim).foldl addPackage {} := by
      intro list
      rw [List.foldl_map]
      simp only [addPackage_trim]
    rw [hmap other.packages, hmap config.packages, trims.packages.same]
  have hclasses := toOption_foldlM_of_same
    (fun table entry => congrArg Except.toOption (addClass_trim table entry)) trims.classes.same
  have hmethods := toOption_foldlM_of_same
    (addProviderNamed_trim providers .methods) trims.methods.same
  have hfunctions := toOption_foldlM_of_same
    (addProviderNamed_trim providers .functions) trims.functions.same
  have htags := toOption_foldlM_of_same
    (addProviderNamed_trim providers .tags) trims.tags.same
  have hglobals : ∀ table : SymbolTable,
      table.addDeclarations other.globals = table.addDeclarations config.globals := by
    intro table
    rw [← addDeclarations_map_trim, trims.globals.same, addDeclarations_map_trim]
  simp only [ofConfiguration, toOption_bind, hpackages, hclasses, hmethods, hfunctions, htags,
    hglobals, Bool.false_eq_true, if_false]

/-- Trimming entries of a valid configuration gives a valid one that imports the same or fails as well,
as long as the packages of a scan stay as they are or there is no scan. With a scan the two find what
is in their packages as these are written, and one with blanks around it finds nothing. -/
theorem trimmed_imports (providers : List Provider) (config other : Configuration)
    (accepted : config.build = .ok config) (trims : config.Trims other) :
    other.build = .ok other
      ∧ (config.autoscan = false ∨ other.autoscanPackages = config.autoscanPackages →
        (ofConfiguration providers other).toOption = (ofConfiguration providers config).toOption)
      ∧ (config.autoscan = true →
        ∃ imported, imported = (ofConfiguration providers { config with autoscan := false }).toOption
          ∧ (ofConfiguration providers config).toOption
            = imported.map (scan providers config.autoscanPackages)
          ∧ (ofConfiguration providers other).toOption
            = imported.map (scan providers other.autoscanPackages))
      ∧ ((∀ provider ∈ providers, ∀ c ∈ provider.package.toList, Text.isBlank c = false) →
        ∀ entries, Provider.scan providers entries
          = providers.filter fun provider =>
            entries.isEmpty
              || (entries.filter fun entry => Text.trim entry = entry).any provider.inPackage) := by
  have himported := imported_of_trims providers trims
  have hautoscan : other.autoscan = config.autoscan := by rw [trims.rest]
  refine ⟨trims.build accepted, ?_, ?_, Provider.scan_bare⟩
  · intro hscan
    rw [ofConfiguration_eq providers other, ofConfiguration_eq providers config, toOption_map,
      toOption_map, himported, hautoscan]
    rcases hscan with hoff | hsame
    · simp only [hoff, Bool.false_eq_true, if_false]
    · rw [hsame]
  · intro hon
    refine ⟨_, rfl, ?_, ?_⟩
    · rw [ofConfiguration_eq providers config, toOption_map]
      simp only [hon, if_true]
    · rw [ofConfiguration_eq providers other, toOption_map, himported, hautoscan]
      simp only [hon, if_true]

/-- A configuration with blanks in each import list. -/
def padded : Configuration :=
  { packages := [" com.acme", "com.acme"]
    classes := ["com.acme.User\t"]
    methods := [" values"]
    functions := ["stencil.builtin.strings "]
    tags := [" text "]
    globals := [" String  site ", "int visits"]
    autoscan := true
    autoscanPackages := ["stencil.builtin"] }

/-- The same configuration without most of these blanks. -/
def unpadded : Configuration :=
  { padded with
    packages := ["com.acme", "com.acme"]
    classes := ["com.acme.User"]
    methods := ["values"]
    functions := ["stencil.builtin.strings"]
    tags := ["text"]
    globals := ["String  site", "int visits"] }

theorem build_padded : padded.build = .ok padded := by
  have hlists : Configuration.checkLists padded.lists = .ok () := by decide
  have hsite : Text.words " String  site " = ["String", "site"] := by decide
  have hvisits : Text.words "int visits" = ["int", "visits"] := by decide
  have hvariables : Configuration.checkVariables padded.globals = .ok () := by
    refine Configuration.checkVariables_eq_ok_iff.2 ?_
    intro declaration hmem
    simp only [padded, List.mem_cons, List.not_mem_nil, or_false] at hmem
    rcases hmem with rfl | rfl
    · exact ⟨_, GlobalVariable.parse_of_words hsite (by decide +kernel)⟩
    · exact ⟨_, GlobalVariable.parse_of_words hvisits (by decide +kernel)⟩
  rw [Configuration.build_of_checkLists (by decide) Encoding.check_utf8 hlists, hvariables]
  rfl

theorem trims_padded : padded.Trims unpadded where
  packages := .cons (.inr (by decide)) (.cons (.inl rfl) .nil)
  classes := .cons (.inr (by decide)) .nil
  methods := .cons (.inr (by decide)) .nil
  functions := .cons (.inr (by decide)) .nil
  tags := .cons (.inr (by decide)) .nil
  globals := .cons (.inr (by decide)) (.cons (.inl rfl) .nil)
  autoscanPackages := .cons (.inl rfl) .nil
  rest := rfl

theorem imports_of_padded :
    padded.build = .ok padded ∧ padded.Trims unpadded
      ∧ unpadded.build = .ok unpadded
      ∧ (ofConfiguration Builtin.providers unpadded).toOption
        = (ofConfiguration Builtin.providers padded).toOption
      ∧ (ofConfiguration Builtin.providers padded).toOption.map modules
        = some ["stencil.builtin.values", "stencil.builtin.strings", "stencil.builtin.text"] := by
  obtain ⟨hbuild, hsame, -, -⟩ :=
    trimmed_imports Builtin.providers padded unpadded build_padded trims_padded
  exact ⟨build_padded, trims_padded, hbuild, hsame (.inr rfl), by decide +kernel⟩

/-- A scan of the built-in package finds all built-in providers, and none with a space in front. -/
theorem missed_by_padded_scan :
    let config : Configuration := { autoscan := true, autoscanPackages := [" stencil.builtin"] }
    let other : Configuration := { autoscan := true, autoscanPackages := ["stencil.builtin"] }
    config.build = .ok config ∧ config.Trims other
      ∧ (ofConfiguration Builtin.providers config).toOption.map modules = some []
      ∧ (ofConfiguration Builtin.providers other).toOption.map modules
        = some ["stencil.builtin.strings", "stencil.builtin.values", "stencil.builtin.text"] := by
  intro config other
  refine ⟨?_, ?_, ?_, ?_⟩
  · rw [Configuration.build_of_checkLists (by decide) Encoding.check_utf8 (by decide)]
    rfl
  · refine ⟨.nil, .nil, .nil, .nil, .nil, .nil, .cons (.inr ?_) .nil, rfl⟩
    decide
  · decide +kernel
  · decide +kernel

end SymbolTable

end LiveTemplates
