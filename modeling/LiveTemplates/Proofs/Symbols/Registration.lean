import LiveTemplates.Symbols.Table

set_option autoImplicit false

/-! # What a history of registrations leaves in a symbol table

Whichever way providers are registered, it comes to adding a list of them one after the other
(`after_eq`). Of those with one qualified name only the first counts, and what they export goes into
three dictionaries in turn (`foldl_addProvider`). So a name stands for the last export of that name
that is of the right kind. -/

namespace LiveTemplates

namespace Dictionary

variable {α : Type}

/-- The value of the last entry under a key. -/
def last? (key : String) (entries : List (String × α)) : Option α :=
  (entries.filter fun entry => entry.1 = key).getLast?.map Prod.snd

theorem last?_cons (key : String) (entry : String × α) (rest : List (String × α)) :
    last? key (entry :: rest)
      = (last? key rest).or (if entry.1 = key then some entry.2 else none) := by
  unfold last?
  by_cases hkey : entry.1 = key
  · rw [List.filter_cons_of_pos (by simpa using hkey), List.getLast?_cons, if_pos hkey]
    cases (rest.filter fun entry => entry.1 = key).getLast? <;> rfl
  · rw [List.filter_cons_of_neg (by simpa using hkey), if_neg hkey, Option.or_none]

theorem mem_of_last? {key : String} {value : α} {entries : List (String × α)}
    (h : last? key entries = some value) : (key, value) ∈ entries := by
  obtain ⟨entry, hlast, rfl⟩ := Option.map_eq_some_iff.1 h
  obtain ⟨hmem, hkey⟩ := List.mem_filter.1 (List.mem_of_getLast? hlast)
  rw [decide_eq_true_eq] at hkey
  rwa [← hkey]

theorem merge_append (first second table : List (String × α)) :
    merge (first ++ second) table = merge second (merge first table) :=
  List.foldl_append

theorem find?_merge (key : String) (entries table : List (String × α)) :
    find? key (merge entries table) = (last? key entries).or (find? key table) := by
  induction entries generalizing table with
  | nil => rfl
  | cons entry rest ih =>
      have hcons : merge (entry :: rest) table = merge rest (insert entry.1 entry.2 table) := rfl
      rw [hcons, ih, find?_insert, last?_cons, Option.or_assoc]
      congr 1
      by_cases hkey : entry.1 = key
      · rw [if_pos hkey.symm, if_pos hkey, Option.some_or]
      · rw [if_neg (Ne.symm hkey), if_neg hkey, Option.none_or]

end Dictionary

namespace Export

/-- A function under its name. -/
def function? : Export → Option (String × TemplateFunction)
  | function name apply => some (name, apply)
  | tag _ _ => none

/-- A tag under its name. -/
def tag? : Export → Option (String × TemplateTag)
  | function _ _ => none
  | tag name apply => some (name, apply)

theorem function?_eq_some_iff {exported : Export} {name : String} {apply : TemplateFunction} :
    exported.function? = some (name, apply) ↔ exported = .function name apply := by
  cases exported <;> simp [function?]

theorem tag?_eq_some_iff {exported : Export} {name : String} {apply : TemplateTag} :
    exported.tag? = some (name, apply) ↔ exported = .tag name apply := by
  cases exported <;> simp [tag?]

end Export

namespace Provider

variable {added : List Provider}

/-- The exports of one kind that providers of a capability have, in order. -/
def exportsOf {α : Type} (capability : Capability) (kind : Export → Option (String × α))
    (added : List Provider) : List (String × α) :=
  (added.filter fun provider => provider.capability = capability).flatMap fun provider =>
    provider.exports.filterMap kind

/-- The functions that providers of a capability export. -/
abbrev functionsOf (capability : Capability) (added : List Provider) :
    List (String × TemplateFunction) :=
  exportsOf capability Export.function? added

/-- The tags that providers of tags export. -/
abbrev tagsOf (added : List Provider) : List (String × TemplateTag) :=
  exportsOf .tags Export.tag? added

section kinds

variable {α : Type} {capability : Capability} {kind : Export → Option (String × α)}

theorem exportsOf_cons (capability : Capability) (kind : Export → Option (String × α))
    (provider : Provider) (rest : List Provider) :
    exportsOf capability kind (provider :: rest)
      = exportsOf capability kind [provider] ++ exportsOf capability kind rest := by
  have hparts : provider :: rest = [provider] ++ rest := rfl
  rw [hparts, exportsOf, List.filter_append, List.flatMap_append]
  rfl

theorem mem_exportsOf {entry : String × α} :
    entry ∈ exportsOf capability kind added
      ↔ ∃ provider ∈ added, provider.capability = capability
        ∧ ∃ exported ∈ provider.exports, kind exported = some entry := by
  simp [exportsOf, and_assoc]

end kinds

theorem mem_functionsOf {capability : Capability} {name : String} {apply : TemplateFunction}
    (h : (name, apply) ∈ functionsOf capability added) :
    ∃ provider ∈ added, provider.capability = capability
      ∧ .function name apply ∈ provider.exports := by
  obtain ⟨provider, hmem, hcapability, exported, hexported, hfunction⟩ := mem_exportsOf.1 h
  rw [Export.function?_eq_some_iff] at hfunction
  exact ⟨provider, hmem, hcapability, hfunction ▸ hexported⟩

theorem mem_tagsOf {name : String} {apply : TemplateTag} (h : (name, apply) ∈ tagsOf added) :
    ∃ provider ∈ added, provider.capability = .tags ∧ .tag name apply ∈ provider.exports := by
  obtain ⟨provider, hmem, hcapability, exported, hexported, htag⟩ := mem_exportsOf.1 h
  rw [Export.tag?_eq_some_iff] at htag
  exact ⟨provider, hmem, hcapability, htag ▸ hexported⟩

/-! ## The first of each qualified name -/

/-- The first provider of each qualified name, in order. -/
def firsts : List Provider → List Provider
  | [] => []
  | provider :: rest =>
    provider :: (firsts rest).filter fun other => other.qualifiedName ≠ provider.qualifiedName

/-- The first provider of each qualified name that is not known yet. -/
def newcomers (known : List String) (added : List Provider) : List Provider :=
  (firsts added).filter fun provider => provider.qualifiedName ∉ known

theorem newcomers_nil (added : List Provider) : newcomers [] added = firsts added := by
  simp [newcomers]

theorem newcomers_cons_of_mem {known : List String} {provider : Provider}
    (h : provider.qualifiedName ∈ known) (rest : List Provider) :
    newcomers known (provider :: rest) = newcomers known rest := by
  rw [newcomers, firsts, List.filter_cons_of_neg (by simpa using h), List.filter_filter, newcomers]
  refine List.filter_congr fun other _ => ?_
  by_cases hknown : other.qualifiedName ∈ known
  · simp [hknown]
  · have hne : other.qualifiedName ≠ provider.qualifiedName := by
      rintro heq
      exact hknown (heq ▸ h)
    simp [hknown, hne]

theorem newcomers_cons_of_not_mem {known : List String} {provider : Provider}
    (h : provider.qualifiedName ∉ known) (rest : List Provider) :
    newcomers known (provider :: rest)
      = provider :: newcomers (known ++ [provider.qualifiedName]) rest := by
  rw [newcomers, firsts, List.filter_cons_of_pos (by simpa using h), List.filter_filter, newcomers]
  congr 1
  refine List.filter_congr fun other _ => ?_
  simp [not_or]

theorem mem_of_mem_firsts {provider : Provider} (h : provider ∈ firsts added) :
    provider ∈ added := by
  induction added with
  | nil => exact h
  | cons first rest ih =>
      rcases List.mem_cons.1 h with rfl | hrest
      · exact List.mem_cons_self
      · exact List.mem_cons_of_mem _ (ih (List.mem_filter.1 hrest).1)

theorem nodup_firsts (added : List Provider) : ((firsts added).map qualifiedName).Nodup := by
  induction added with
  | nil => simp [firsts]
  | cons first rest ih =>
      rw [firsts, List.map_cons, List.nodup_cons]
      refine ⟨?_, ?_⟩
      · intro hmem
        obtain ⟨other, hother, hname⟩ := List.mem_map.1 hmem
        simp [hname] at hother
      · exact ih.sublist ((List.filter_sublist).map qualifiedName)

end Provider

namespace SymbolTable

open Provider

/-! ## Adding a list of providers -/

theorem foldl_addExport (capability : Capability) (exports : List Export) (table : SymbolTable) :
    exports.foldl (addExport capability) table
      = { table with
          methods := Dictionary.merge
            (if capability = .methods then exports.filterMap Export.function? else []) table.methods
          functions := Dictionary.merge
            (if capability = .functions then exports.filterMap Export.function? else [])
            table.functions
          tags := Dictionary.merge
            (if capability = .tags then exports.filterMap Export.tag? else []) table.tags } := by
  induction exports generalizing table with
  | nil => cases capability <;> rfl
  | cons entry rest ih =>
      rw [List.foldl_cons, ih]
      cases capability <;> cases entry <;> rfl

theorem addProvider_of_mem {table : SymbolTable} {provider : Provider}
    (h : provider.qualifiedName ∈ table.modules) : table.addProvider provider = table := by
  rw [addProvider, if_pos (by simpa using h)]

theorem addProvider_of_not_mem {table : SymbolTable} {provider : Provider}
    (h : provider.qualifiedName ∉ table.modules) :
    table.addProvider provider
      = { table with
          methods := Dictionary.merge (functionsOf .methods [provider]) table.methods
          functions := Dictionary.merge (functionsOf .functions [provider]) table.functions
          tags := Dictionary.merge (tagsOf [provider]) table.tags
          modules := table.modules ++ [provider.qualifiedName] } := by
  rw [addProvider, if_neg (by simpa using h)]
  dsimp only
  rw [foldl_addExport]
  cases hcapability : provider.capability <;> simp [exportsOf, hcapability]

/-- All that adding providers does to a table. -/
theorem foldl_addProvider (added : List Provider) (table : SymbolTable) :
    added.foldl addProvider table
      = { table with
          methods := Dictionary.merge (functionsOf .methods (newcomers table.modules added))
            table.methods
          functions := Dictionary.merge (functionsOf .functions (newcomers table.modules added))
            table.functions
          tags := Dictionary.merge (tagsOf (newcomers table.modules added)) table.tags
          modules := table.modules ++ (newcomers table.modules added).map qualifiedName } := by
  induction added generalizing table with
  | nil => simp [newcomers, firsts, exportsOf, Dictionary.merge]
  | cons provider rest ih =>
      rw [List.foldl_cons]
      -- one whose name is known is passed over, any other is known from then on
      by_cases hknown : provider.qualifiedName ∈ table.modules
      · rw [addProvider_of_mem hknown, ih, newcomers_cons_of_mem hknown]
      · rw [addProvider_of_not_mem hknown, ih, newcomers_cons_of_not_mem hknown]
        generalize newcomers (table.modules ++ [provider.qualifiedName]) rest = fresh
        simp only [functionsOf, tagsOf, exportsOf_cons _ _ provider fresh, Dictionary.merge_append]
        simp

theorem function?_foldl_addProvider (added : List Provider) (table : SymbolTable) (name : String) :
    (added.foldl addProvider table).function? name
      = (Dictionary.last? name (functionsOf .functions (newcomers table.modules added))).or
        (table.function? name) := by
  rw [foldl_addProvider]
  exact Dictionary.find?_merge ..

theorem method?_foldl_addProvider (added : List Provider) (table : SymbolTable) (name : String) :
    (added.foldl addProvider table).method? name
      = (Dictionary.last? name (functionsOf .methods (newcomers table.modules added))).or
        (table.method? name) := by
  rw [foldl_addProvider]
  exact Dictionary.find?_merge ..

theorem tag?_foldl_addProvider (added : List Provider) (table : SymbolTable) (name : String) :
    (added.foldl addProvider table).tag? name
      = (Dictionary.last? name (tagsOf (newcomers table.modules added))).or (table.tag? name) := by
  rw [foldl_addProvider]
  exact Dictionary.find?_merge ..

end SymbolTable

/-! ## Histories -/

/-- A call that may register providers: one that is given, one by its name, or those of a scan. -/
inductive Registration where
  | given (provider : Provider)
  | named (wanted : Capability) (name : String)
  | scan (packages : List String)

/-- The providers that a call registers: none if it fails. -/
def Registration.found (providers : List Provider) : Registration → List Provider
  | given provider => [provider]
  | named wanted name =>
    (Provider.find? providers name).toList.filter fun provider => provider.capability = wanted
  | scan packages => Provider.scan providers packages

/-- The providers that count in a history, in order: the first of each qualified name. -/
def Registration.counted (providers : List Provider) (calls : List Registration) : List Provider :=
  Provider.firsts (calls.flatMap (found providers))

namespace SymbolTable

open Provider

variable {providers : List Provider}

/-- The table after a call. A call that fails gives no other table. -/
def register (providers : List Provider) (table : SymbolTable) : Registration → SymbolTable
  | .given provider => table.addProvider provider
  | .named wanted name =>
    match table.addProviderNamed providers wanted name with
    | .ok changed => changed
    | .error _ => table
  | .scan packages => table.scan providers packages

/-- The table after several calls. -/
def after (providers : List Provider) (table : SymbolTable) (calls : List Registration) :
    SymbolTable :=
  calls.foldl (register providers) table

theorem register_eq (table : SymbolTable) (call : Registration) :
    table.register providers call = (call.found providers).foldl addProvider table := by
  cases call with
  | given provider => rfl
  | scan packages => rfl
  | named wanted name =>
      cases hfind : Provider.find? providers name with
      | none => simp [register, addProviderNamed, Registration.found, hfind]
      | some provider =>
          by_cases hcapability : provider.capability = wanted
          · simp [register, addProviderNamed, Registration.found, hfind, hcapability]
          · simp [register, addProviderNamed, Registration.found, hfind, hcapability]

theorem found_of_error {table : SymbolTable} {wanted : Capability} {name : String}
    {fault : SymbolFault} (h : table.addProviderNamed providers wanted name = .error fault) :
    (Registration.named wanted name).found providers = [] := by
  cases hfind : Provider.find? providers name with
  | none => simp [Registration.found, hfind]
  | some provider =>
      by_cases hcapability : provider.capability = wanted
      · simp [addProviderNamed, hfind, hcapability] at h
      · simp [Registration.found, hfind, hcapability]

theorem after_eq (table : SymbolTable) (calls : List Registration) :
    table.after providers calls
      = (calls.flatMap (Registration.found providers)).foldl addProvider table := by
  rw [List.foldl_flatMap, after]
  simp only [← register_eq]

/-- A call whose providers are all there changes nothing, now or later. -/
theorem after_idle {call : Registration} (table : SymbolTable) (calls later : List Registration)
    (h : ∀ provider ∈ call.found providers,
      provider.qualifiedName ∈ (table.after providers calls).modules) :
    table.after providers (calls ++ call :: later) = table.after providers (calls ++ later) := by
  have hidle : (table.after providers calls).register providers call
      = table.after providers calls := by
    rw [register_eq]
    -- none of its providers changes the table, so all of them find the same table
    generalize table.after providers calls = reached at h
    generalize call.found providers = found at h
    induction found with
    | nil => rfl
    | cons provider rest ih =>
        rw [List.foldl_cons, addProvider_of_mem (h provider List.mem_cons_self)]
        exact ih fun other hmem => h other (List.mem_cons_of_mem _ hmem)
  rw [after, after, List.foldl_append, List.foldl_append, List.foldl_cons]
  exact congrArg (later.foldl (register providers)) hidle

/-- After any history of registrations from an empty table, the modules are the providers registered,
each qualified name once and in the order in which it came first, and a name stands for the last
export of it that fits the capability of its provider. A call that fails or repeats leaves no trace. -/
theorem resolved_by_history (providers : List Provider) (calls : List Registration) :
    (after providers {} calls).modules
        = (Registration.counted providers calls).map Provider.qualifiedName
      ∧ (after providers {} calls).modules.Nodup
      ∧ (∀ name, (after providers {} calls).function? name
        = Dictionary.last? name (functionsOf .functions (Registration.counted providers calls)))
      ∧ (∀ name, (after providers {} calls).method? name
        = Dictionary.last? name (functionsOf .methods (Registration.counted providers calls)))
      ∧ (∀ name, (after providers {} calls).tag? name
        = Dictionary.last? name (tagsOf (Registration.counted providers calls)))
      ∧ (∀ name apply, (after providers {} calls).function? name = some apply →
        ∃ provider ∈ Registration.counted providers calls,
          provider.capability = .functions ∧ .function name apply ∈ provider.exports)
      ∧ (∀ name apply, (after providers {} calls).method? name = some apply →
        ∃ provider ∈ Registration.counted providers calls,
          provider.capability = .methods ∧ .function name apply ∈ provider.exports)
      ∧ (∀ name apply, (after providers {} calls).tag? name = some apply →
        ∃ provider ∈ Registration.counted providers calls,
          provider.capability = .tags ∧ .tag name apply ∈ provider.exports)
      ∧ (∀ wanted name fault later,
        (after providers {} calls).addProviderNamed providers wanted name = .error fault →
          after providers {} (calls ++ .named wanted name :: later)
            = after providers {} (calls ++ later))
      ∧ ∀ call later,
        (∀ provider ∈ call.found providers,
          provider.qualifiedName ∈ (after providers {} calls).modules) →
        after providers {} (calls ++ call :: later) = after providers {} (calls ++ later) := by
  have hmodules : (after providers {} calls).modules
      = (Registration.counted providers calls).map Provider.qualifiedName := by
    rw [after_eq, foldl_addProvider, newcomers_nil]
    rfl
  have hfunction : ∀ name, (after providers {} calls).function? name
      = Dictionary.last? name (functionsOf .functions (Registration.counted providers calls)) := by
    intro name
    rw [after_eq, function?_foldl_addProvider, newcomers_nil]
    exact Option.or_none
  have hmethod : ∀ name, (after providers {} calls).method? name
      = Dictionary.last? name (functionsOf .methods (Registration.counted providers calls)) := by
    intro name
    rw [after_eq, method?_foldl_addProvider, newcomers_nil]
    exact Option.or_none
  have htag : ∀ name, (after providers {} calls).tag? name
      = Dictionary.last? name (tagsOf (Registration.counted providers calls)) := by
    intro name
    rw [after_eq, tag?_foldl_addProvider, newcomers_nil]
    exact Option.or_none
  refine ⟨hmodules, ?_, hfunction, hmethod, htag, ?_, ?_, ?_, ?_, ?_⟩
  · rw [hmodules]
    exact nodup_firsts _
  · intro name apply hfound
    rw [hfunction] at hfound
    exact mem_functionsOf (Dictionary.mem_of_last? hfound)
  · intro name apply hfound
    rw [hmethod] at hfound
    exact mem_functionsOf (Dictionary.mem_of_last? hfound)
  · intro name apply hfound
    rw [htag] at hfound
    exact mem_tagsOf (Dictionary.mem_of_last? hfound)
  · intro wanted name fault later hfails
    refine after_idle {} calls later fun provider hfound => ?_
    rw [found_of_error hfails] at hfound
    cases hfound
  · intro call later hknown
    exact after_idle {} calls later hknown

end SymbolTable

end LiveTemplates
