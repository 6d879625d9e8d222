import LiveTemplates.Proofs.Config.Listed
import LiveTemplates.Proofs.Dictionary.Order
import LiveTemplates.Proofs.Language.Shown
import LiveTemplates.Proofs.Symbols.Registration

set_option autoImplicit false

/-! # What declared globals do

Nothing that is imported depends on the globals that are declared (`ofConfiguration_declared`), and
neither does what is compiled: they only stand in the table, under each identifier the last variable
declared with it (`mem_declared`). A program asks them in key order before it renders, so it does what
it would do without them, or else it fails with the first that is violated
(`violation?_of_not_fits`). -/

namespace LiveTemplates

/-! ## Fitting data -/

/-- The values that a type is for. -/
def ValueType.Covers : ValueType → Json → Prop
  | any, _ => True
  | string, value => ∃ text, value = .string text
  | number, value => ∃ n, value = .number n
  | boolean, value => ∃ b, value = .bool b
  | array, value => ∃ items, value = .array items
  | object, value => ∃ fields, value = .object fields

theorem ValueType.accepts_iff (type : ValueType) (value : Json) :
    type.accepts value = true ↔ value = .null ∨ type.Covers value := by
  cases type <;> cases value <;> simp [accepts, Covers]

namespace GlobalVariable

variable {declared : GlobalVariable} {data : Json}

/-- What data holds under the identifier, if it holds anything there, is null or of the type. -/
def Fits (declared : GlobalVariable) (data : Json) : Prop :=
  ∀ fields value, data = .object fields → Dictionary.find? declared.id fields = some value →
    value = .null ∨ declared.valueType.Covers value

/-- What is said of a value that is not of the type. -/
def complaint (declared : GlobalVariable) (value : Json) : String :=
  "global '" ++ declared.id ++ "' is declared as " ++ declared.typeName ++ " but got "
    ++ value.compact

theorem fits_iff :
    declared.Fits data
      ↔ ∀ value, data.field? declared.id = some value →
        declared.valueType.accepts value = true := by
  simp only [ValueType.accepts_iff]
  constructor
  · intro h value hfield
    cases data with
    | object fields => exact h fields value rfl hfield
    | _ => cases hfield
  · rintro h fields value rfl hfield
    exact h value hfield

theorem violation?_eq_none_iff : declared.violation? data = none ↔ declared.Fits data := by
  rw [fits_iff, violation?]
  cases data.field? declared.id with
  | none => simp
  | some value => cases haccepts : declared.valueType.accepts value <;> simp [haccepts]

theorem violation?_of_not_fits (h : ¬ declared.Fits data) :
    ∃ value, data.field? declared.id = some value
      ∧ ¬ (value = .null ∨ declared.valueType.Covers value)
      ∧ declared.violation? data = some (declared.complaint value) := by
  simp only [fits_iff, not_forall] at h
  obtain ⟨value, hfield, haccepts⟩ := h
  refine ⟨value, hfield, (ValueType.accepts_iff _ _).not.1 haccepts, ?_⟩
  simp [violation?, hfield, haccepts, complaint]

/-- The last variable that is declared with an identifier. -/
def lastDeclared? (declarations : List String) (id : String) : Option GlobalVariable :=
  let globals := declarations.filterMap fun declaration => (parse declaration).toOption
  (globals.filter fun declared => declared.id = id).getLast?

theorem id_of_lastDeclared? {declarations : List String} {id : String}
    (h : lastDeclared? declarations id = some declared) : declared.id = id := by
  simpa using (List.mem_filter.1 (List.mem_of_getLast? h)).2

end GlobalVariable

namespace SymbolTable

variable {declarations : List String} {globals : List GlobalVariable}

/-! ## The globals of a table -/

theorem lastDeclared?_eq (h : declarations.map GlobalVariable.parse = globals.map .ok)
    (id : String) :
    GlobalVariable.lastDeclared? declarations id
      = Dictionary.last? id (globals.map fun declared => (declared.id, declared)) := by
  have hglobals : declarations.filterMap (fun declaration =>
      (GlobalVariable.parse declaration).toOption) = globals := by
    have hmap := congrArg (List.filterMap Except.toOption) h
    rw [List.filterMap_map, List.filterMap_map] at hmap
    exact hmap.trans List.filterMap_some
  rw [GlobalVariable.lastDeclared?, hglobals, Dictionary.last?, List.filter_map, List.getLast?_map,
    Option.map_map]
  exact (congrFun Option.map_id _).symm

/-- Under each identifier stands the last variable declared with it. -/
theorem mem_declared (h : declarations.map GlobalVariable.parse = globals.map .ok) {id : String}
    {declared : GlobalVariable} :
    (id, declared) ∈ Dictionary.ofList (globals.map fun declared => (declared.id, declared))
      ↔ GlobalVariable.lastDeclared? declarations id = some declared := by
  have hmerge : ∀ entries : List (String × GlobalVariable),
      Dictionary.ofList entries = Dictionary.merge entries [] := fun _ => rfl
  rw [← (Dictionary.ordered_ofList _).find?_eq_some_iff, hmerge, Dictionary.find?_merge,
    lastDeclared?_eq h]
  exact Option.or_none ▸ Iff.rfl

/-! ## Imports without globals -/

/-- What a configuration imports by name, before any global is declared. -/
def named (providers : List Provider) (config : Configuration) :
    Except SymbolFault SymbolTable := do
  let table := config.packages.foldl addPackage {}
  let table ← config.classes.foldlM addClass table
  let table ← config.methods.foldlM (addProviderNamed providers .methods) table
  let table ← config.functions.foldlM (addProviderNamed providers .functions) table
  config.tags.foldlM (addProviderNamed providers .tags) table

theorem globals_addPackage (table : SymbolTable) (package : String) :
    (table.addPackage package).globals = table.globals := by
  unfold addPackage
  dsimp only
  split <;> rfl

theorem globals_addClass {table other : SymbolTable} {qualified : String}
    (h : table.addClass qualified = .ok other) : other.globals = table.globals := by
  unfold addClass at h
  dsimp only at h
  split at h
  · cases h
  · cases h
    rfl

theorem globals_addProvider (table : SymbolTable) (provider : Provider) :
    (table.addProvider provider).globals = table.globals := by
  have hadded := foldl_addProvider [provider] table
  rw [List.foldl_cons, List.foldl_nil] at hadded
  rw [hadded]

theorem globals_addProviderNamed {providers : List Provider} {wanted : Capability}
    {table other : SymbolTable} {name : String}
    (h : table.addProviderNamed providers wanted name = .ok other) :
    other.globals = table.globals := by
  unfold addProviderNamed at h
  split at h
  · cases h
  · split at h
    · cases h
      exact globals_addProvider table _
    · cases h

theorem globals_foldlM {read : SymbolTable → String → Except SymbolFault SymbolTable}
    (keeps : ∀ {table other : SymbolTable} {entry : String},
      read table entry = .ok other → other.globals = table.globals)
    {entries : List String} {table other : SymbolTable}
    (h : entries.foldlM read table = .ok other) : other.globals = table.globals := by
  induction entries generalizing table with
  | nil =>
      cases h
      rfl
  | cons first rest ih =>
      rw [List.foldlM_cons] at h
      obtain ⟨next, hfirst, hrest⟩ := exists_of_bind_eq_ok h
      exact (ih hrest).trans (keeps hfirst)

theorem globals_foldl_addPackage (packages : List String) (table : SymbolTable) :
    (packages.foldl addPackage table).globals = table.globals := by
  induction packages generalizing table with
  | nil => rfl
  | cons first rest ih => rw [List.foldl_cons, ih, globals_addPackage]

/-- What is imported by name declares nothing. -/
theorem globals_named {providers : List Provider} {config : Configuration} {table : SymbolTable}
    (h : named providers config = .ok table) : table.globals = [] := by
  obtain ⟨afterClasses, hclasses, h⟩ := exists_of_bind_eq_ok h
  obtain ⟨afterMethods, hmethods, h⟩ := exists_of_bind_eq_ok h
  obtain ⟨afterFunctions, hfunctions, htags⟩ := exists_of_bind_eq_ok h
  rw [globals_foldlM globals_addProviderNamed htags,
    globals_foldlM globals_addProviderNamed hfunctions,
    globals_foldlM globals_addProviderNamed hmethods, globals_foldlM globals_addClass hclasses,
    globals_foldl_addPackage]

/-- What is done after that: globals are declared, and then there may be a scan. -/
def completed (providers : List Provider) (config : Configuration) (imported : SymbolTable) :
    Except SymbolFault SymbolTable :=
  (imported.addDeclarations config.globals).map fun table =>
    if config.autoscan then table.scan providers config.autoscanPackages else table

theorem ofConfiguration_eq_completed (providers : List Provider) (config : Configuration) :
    ofConfiguration providers config = named providers config >>= completed providers config := by
  have hmap : ∀ {α β : Type} (change : α → β) (first : Except SymbolFault α),
      first.map change = change <$> first := fun _ _ => rfl
  unfold completed
  simp only [ofConfiguration, named, hmap, map_eq_pure_bind, bind_assoc]

/-- A scan leaves the globals as they are, and goes by none of them. -/
theorem scan_with_globals (providers : List Provider) (packages : List String)
    (table : SymbolTable) (globals : List (String × GlobalVariable)) :
    scan providers packages { table with globals }
      = { scan providers packages table with globals } := by
  rw [scan, scan, foldl_addProvider, foldl_addProvider]

/-- Declarations that can be read are accepted wherever the other imports are, and nothing but their
dictionary is added to the table. -/
theorem ofConfiguration_declared {providers : List Provider} {config : Configuration}
    {bare : SymbolTable} (parsed : config.globals.map GlobalVariable.parse = globals.map .ok)
    (imported : ofConfiguration providers { config with globals := [] } = .ok bare) :
    bare.globals = []
      ∧ ofConfiguration providers config = .ok { bare with
        globals := Dictionary.ofList (globals.map fun declared => (declared.id, declared)) } := by
  rw [ofConfiguration_eq_completed] at imported
  obtain ⟨table, hnamed, hbare⟩ := exists_of_bind_eq_ok imported
  have hnone := globals_named hnamed
  have hsame : named providers config = .ok table := hnamed
  rw [ofConfiguration_eq_completed, hsame]
  show bare.globals = [] ∧ completed providers config table = _
  rw [completed, addDeclarations_of_variables parsed, hnone]
  cases hbare
  -- the scan comes last, and it is the same for both
  refine ⟨?_, congrArg Except.ok ?_⟩
  · split
    · show (scan providers config.autoscanPackages table).globals = []
      rw [scan, foldl_addProvider]
      exact hnone
    · exact hnone
  · split
    · exact scan_with_globals ..
    · rfl

end SymbolTable

/-! ## Running with globals -/

/-- The data fits every global that a configuration declares. -/
def Configuration.Admits (config : Configuration) (data : Json) : Prop :=
  ∀ id declared, GlobalVariable.lastDeclared? config.globals id = some declared →
    declared.Fits data

namespace Program

variable {program : Program} {name source : String} {data : Json}
  {entries : List (String × GlobalVariable)}

theorem violation?_eq_none_iff :
    violation? data entries = none ↔ ∀ entry ∈ entries, entry.2.Fits data := by
  induction entries with
  | nil => simp [violation?]
  | cons first rest ih =>
      rw [List.forall_mem_cons, ← ih, ← GlobalVariable.violation?_eq_none_iff, violation?]
      cases first.2.violation? data <;> simp

/-- Of the globals that the data does not fit, the one with the least identifier counts. -/
theorem violation?_of_not_fits (ordered : Dictionary.Ordered entries)
    (h : ¬ ∀ entry ∈ entries, entry.2.Fits data) :
    ∃ first ∈ entries, ¬ first.2.Fits data
      ∧ violation? data entries = first.2.violation? data
      ∧ ∀ other ∈ entries, ¬ other.2.Fits data → first.1 ≤ other.1 := by
  induction entries with
  | nil => simp at h
  | cons entry rest ih =>
      obtain ⟨hentry, hrest⟩ := List.pairwise_cons.1 ordered
      -- only a global that the data fits is passed over
      by_cases hfits : entry.2.Fits data
      · have hlater : ¬ ∀ entry ∈ rest, entry.2.Fits data := fun hall =>
          h (List.forall_mem_cons.2 ⟨hfits, hall⟩)
        obtain ⟨first, hmem, hfirst, hviolation, hleast⟩ := ih hrest hlater
        refine ⟨first, List.mem_cons_of_mem _ hmem, hfirst, ?_, ?_⟩
        · rw [violation?, GlobalVariable.violation?_eq_none_iff.2 hfits]
          exact hviolation
        · exact List.forall_mem_cons.2 ⟨absurd hfits, hleast⟩
      · refine ⟨entry, List.mem_cons_self, hfits, ?_, ?_⟩
        · obtain ⟨value, -, -, hviolation⟩ := GlobalVariable.violation?_of_not_fits hfits
          rw [violation?, hviolation]
        · refine List.forall_mem_cons.2 ⟨fun _ => String.le_refl _, fun other hmem _ => ?_⟩
          exact Std.le_of_lt (hentry other hmem)

theorem exists_compiled {symbols : SymbolTable} (h : ofSource symbols name source = .ok program) :
    ∃ template, Language.readTemplate source = .ok template
      ∧ program
        = { name, template, vocabulary := symbols.vocabulary, globals := symbols.globals } := by
  cases hread : Language.readTemplate source with
  | error fault => simp [ofSource, compile, hread, Except.map] at h
  | ok template =>
      rw [ofSource_eq symbols name hread] at h
      cases h
      exact ⟨template, rfl, rfl⟩

/-- A source that compiles without globals compiles with those that are declared, to a program that
differs in its globals only. -/
theorem exists_guarded {providers : List Provider} {config : Configuration} {bare : SymbolTable}
    {plain : Program}
    (accepted : ∀ declaration ∈ config.globals,
      ∃ declared, GlobalVariable.parse declaration = .ok declared)
    (imported : SymbolTable.ofConfiguration providers { config with globals := [] } = .ok bare)
    (compiled : ofSource bare name source = .ok plain) :
    ∃ table program, SymbolTable.ofConfiguration providers config = .ok table
      ∧ ofSource table name source = .ok program
      ∧ plain = { program with globals := [] }
      ∧ program.name = name
      ∧ Dictionary.Ordered program.globals
      ∧ ∀ id declared, (id, declared) ∈ program.globals
        ↔ GlobalVariable.lastDeclared? config.globals id = some declared := by
  obtain ⟨globals, hparsed⟩ := SymbolTable.exists_variables accepted
  obtain ⟨hnone, htable⟩ := SymbolTable.ofConfiguration_declared hparsed imported
  obtain ⟨template, hread, rfl⟩ := exists_compiled compiled
  refine ⟨_, _, htable, ofSource_eq _ name hread, ?_, rfl, Dictionary.ordered_ofList _,
    fun id declared => SymbolTable.mem_declared hparsed⟩
  rw [hnone]
  rfl

/-- Where the data fits the globals, it does not matter which they are. -/
theorem render_of_fits (h : ∀ entry ∈ program.globals, entry.2.Fits data) :
    program.render data = { program with globals := [] }.render data := by
  rw [render, run, violation?_eq_none_iff.2 h]
  rfl

/-- Where the data does not fit them, nothing else matters. -/
theorem render_of_not_fits (ordered : Dictionary.Ordered program.globals)
    (h : ¬ ∀ entry ∈ program.globals, entry.2.Fits data) :
    ∃ first ∈ program.globals, ∃ value,
      data.field? first.2.id = some value
        ∧ ¬ (value = .null ∨ first.2.valueType.Covers value)
        ∧ (∀ other ∈ program.globals, ¬ other.2.Fits data → first.1 ≤ other.1)
        ∧ ∀ template vocabulary,
          { program with template, vocabulary }.render data
            = .error (.render program.name (first.2.complaint value)) := by
  obtain ⟨first, hmem, hfirst, hviolation, hleast⟩ := violation?_of_not_fits ordered h
  obtain ⟨value, hfield, hvalue, hcomplaint⟩ := GlobalVariable.violation?_of_not_fits hfirst
  refine ⟨first, hmem, value, hfield, hvalue, hleast, fun template vocabulary => ?_⟩
  rw [render, run]
  dsimp only
  rw [hviolation, hcomplaint]
  rfl

/-- Declared globals that are accepted make a program out of every source that compiles without them. It
renders data that fits them as it would without them, and fails on any other data with what is wrong
about the least identifier whose global is violated, whatever the template and the functions it may
call: nothing of it is run. -/
theorem render_guarded (providers : List Provider) (config : Configuration) (bare : SymbolTable)
    (accepted : ∀ declaration ∈ config.globals,
      ∃ declared, GlobalVariable.parse declaration = .ok declared)
    (imported : SymbolTable.ofConfiguration providers { config with globals := [] } = .ok bare)
    (name source : String) (plain : Program) (compiled : ofSource bare name source = .ok plain)
    (data : Json) :
    ∃ table program,
      SymbolTable.ofConfiguration providers config = .ok table
        ∧ ofSource table name source = .ok program
        ∧ (∀ text, program.render data = .ok text
          ↔ plain.render data = .ok text ∧ config.Admits data)
        ∧ (config.Admits data → program.render data = plain.render data)
        ∧ (¬ config.Admits data →
          ∃ first value,
            GlobalVariable.lastDeclared? config.globals first.id = some first
              ∧ data.field? first.id = some value
              ∧ ¬ (value = .null ∨ first.valueType.Covers value)
              ∧ (∀ id other, GlobalVariable.lastDeclared? config.globals id = some other →
                ¬ other.Fits data → first.id ≤ id)
              ∧ ∀ template vocabulary,
                { program with template, vocabulary }.render data
                  = .error (.render name (first.complaint value))) := by
  obtain ⟨table, program, htable, hprogram, rfl, rfl, hordered, hglobals⟩ :=
    exists_guarded accepted imported compiled
  have hadmits : config.Admits data ↔ ∀ entry ∈ program.globals, entry.2.Fits data := by
    constructor
    · exact fun h entry hmem => h entry.1 entry.2 ((hglobals _ _).1 hmem)
    · exact fun h id declared hlast => h (id, declared) ((hglobals _ _).2 hlast)
  have hsame := fun h : config.Admits data => render_of_fits (hadmits.1 h)
  have hbroken := fun h : ¬ config.Admits data => render_of_not_fits hordered (mt hadmits.2 h)
  refine ⟨table, program, htable, hprogram, fun text => ⟨fun htext => ?_, ?_⟩, hsame, fun h => ?_⟩
  · by_cases h : config.Admits data
    · exact ⟨hsame h ▸ htext, h⟩
    · obtain ⟨first, -, value, -, -, -, herror⟩ := hbroken h
      have hfails := herror program.template program.vocabulary
      cases hfails.symm.trans htext
  · rintro ⟨htext, h⟩
    rwa [hsame h]
  · obtain ⟨first, hmem, value, hfield, hvalue, hleast, herror⟩ := hbroken h
    have hlast := (hglobals _ _).1 hmem
    have hid := GlobalVariable.id_of_lastDeclared? hlast
    refine ⟨first.2, value, hid ▸ hlast, hfield, hvalue, fun id other hother hnot => ?_, herror⟩
    rw [hid]
    exact hleast (id, other) ((hglobals _ _).2 hother) hnot

/-- Declarations of which the last takes the place of the first. -/
def redeclared : Configuration := { globals := ["int x", "int visits", "String x"] }

/-- The variables that they declare. -/
def redeclaredGlobals : List GlobalVariable :=
  [⟨"int", "x", .number⟩, ⟨"int", "visits", .number⟩, ⟨"String", "x", .string⟩]

theorem parse_redeclared :
    redeclared.globals.map GlobalVariable.parse = redeclaredGlobals.map .ok := by
  have hx : Text.isIdentifier "x" = true := by decide +kernel
  have hvisits : Text.isIdentifier "visits" = true := by decide +kernel
  have hfirst : Text.words "int x" = ["int", "x"] := by decide
  have hsecond : Text.words "int visits" = ["int", "visits"] := by decide
  have hthird : Text.words "String x" = ["String", "x"] := by decide
  simp only [redeclared, List.map_cons, List.map_nil, GlobalVariable.parse_of_words hfirst hx,
    GlobalVariable.parse_of_words hsecond hvisits, GlobalVariable.parse_of_words hthird hx]
  rfl

theorem lastDeclared?_redeclared {id : String} {declared : GlobalVariable} :
    GlobalVariable.lastDeclared? redeclared.globals id = some declared
      ↔ (id = "visits" ∧ declared = ⟨"int", "visits", .number⟩)
        ∨ (id = "x" ∧ declared = ⟨"String", "x", .string⟩) := by
  have hlisted : Dictionary.ofList (redeclaredGlobals.map fun declared => (declared.id, declared))
      = [("visits", ⟨"int", "visits", .number⟩), ("x", ⟨"String", "x", .string⟩)] := by
    decide +kernel
  rw [← SymbolTable.mem_declared parse_redeclared, hlisted]
  simp

theorem render_guarded_redeclared :
    (∀ declaration ∈ redeclared.globals,
        ∃ declared, GlobalVariable.parse declaration = .ok declared)
      ∧ SymbolTable.ofConfiguration [] { redeclared with globals := [] } = .ok {}
      ∧ ∃ plain, ofSource {} "page" "\x7b\x7bx\x7d\x7d" = .ok plain
        ∧ ∃ table program, SymbolTable.ofConfiguration [] redeclared = .ok table
          ∧ ofSource table "page" "\x7b\x7bx\x7d\x7d" = .ok program
          ∧ program.render (.object [("visits", .null), ("x", .string "home")]) = .ok "home"
          ∧ program.render (.object [("visits", .bool true), ("x", .bool false)])
            = .error (.render "page" "global 'visits' is declared as int but got true") := by
  have haccepted : ∀ declaration ∈ redeclared.globals,
      ∃ declared, GlobalVariable.parse declaration = .ok declared := by
    intro declaration hmem
    have hparsed := List.mem_map_of_mem (f := GlobalVariable.parse) hmem
    rw [parse_redeclared] at hparsed
    obtain ⟨declared, -, hdeclared⟩ := List.mem_map.1 hparsed
    exact ⟨declared, hdeclared.symm⟩
  obtain ⟨plain, hplain, htext⟩ := render_variable {} "page"
    (.object [("visits", .null), ("x", .string "home")]) rfl rfl rfl
  have hguarded := render_guarded [] redeclared {} haccepted rfl "page" _ plain hplain
  obtain ⟨table, program, htable, hprogram, -, hsame, -⟩ :=
    hguarded (.object [("visits", .null), ("x", .string "home")])
  obtain ⟨table', program', htable', hprogram', -, -, hbroken⟩ :=
    hguarded (.object [("visits", .bool true), ("x", .bool false)])
  cases htable.symm.trans htable'
  cases hprogram.symm.trans hprogram'
  refine ⟨haccepted, rfl, plain, hplain, table, program, htable, hprogram, ?_, ?_⟩
  · have hadmits : redeclared.Admits (.object [("visits", .null), ("x", .string "home")]) := by
      intro id declared hlast
      rcases lastDeclared?_redeclared.1 hlast with ⟨-, rfl⟩ | ⟨-, rfl⟩ <;>
        simp [GlobalVariable.fits_iff, Json.field?, Dictionary.find?, ValueType.accepts]
    rw [hsame hadmits, htext]
    rfl
  · have hvisits := lastDeclared?_redeclared.2 (.inl ⟨rfl, rfl⟩)
    have hnot : ¬ GlobalVariable.Fits ⟨"int", "visits", .number⟩
        (.object [("visits", .bool true), ("x", .bool false)]) := by
      simp [GlobalVariable.fits_iff, Json.field?, Dictionary.find?, ValueType.accepts]
    obtain ⟨first, value, hlast, hfield, -, hleast, herror⟩ :=
      hbroken fun h => hnot (h _ _ hvisits)
    have hfirst := hleast _ _ hvisits hnot
    rcases lastDeclared?_redeclared.1 hlast with ⟨-, rfl⟩ | ⟨-, rfl⟩
    · cases hfield
      have hshown : (Json.bool true).compact = "true" := by
        rw [Json.compact, Json.print]
        rfl
      rw [herror, GlobalVariable.complaint, hshown]
      rfl
    · exact absurd hfirst (by decide)

end Program

end LiveTemplates
