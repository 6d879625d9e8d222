import LiveTemplates.Proofs.Symbols.Registration
import LiveTemplates.Symbols.Builtin
import Mathlib.Data.List.Nodup
import Mathlib.Data.List.Pairwise

set_option autoImplicit false

/-! # Providers in any order

Two entries under different keys can be put into a dictionary in either order (`insert_comm`), so two
providers that share no name can be added in either order, and by permutation any number of them. How
often a provider is added does not count. The table they are added to may hold anything: what is
there under a name that one of them exports is replaced in every order. -/

namespace LiveTemplates

namespace Dictionary

variable {α : Type}

theorem insert_comm_of_lt {one other : String} (h : one < other) (first second : α)
    (table : List (String × α)) :
    insert one first (insert other second table) = insert other second (insert one first table) := by
  have hne : one ≠ other := by
    rintro rfl
    exact String.lt_irrefl _ h
  have hnlt : ¬ other < one := String.lt_asymm h
  induction table with
  | nil => simp [insert, h, hnlt, hne, hne.symm]
  | cons entry rest ih =>
      obtain ⟨key, value⟩ := entry
      -- the first key of the table is compared with the larger of the two keys first: what is
      -- in front of it or at it is settled there, and only then the smaller one matters
      by_cases hother : other = key
      · subst hother
        simp [insert, h, hnlt, hne, hne.symm]
      · by_cases hbefore : other < key
        · have hone : one < key := String.lt_trans h hbefore
          have honekey : one ≠ key := by
            rintro rfl
            exact String.lt_irrefl _ hone
          simp [insert, h, hnlt, hne, hne.symm, hother, hbefore, hone, honekey]
        · by_cases hone : one = key
          · subst hone
            simp [insert, hnlt, hne.symm]
          · by_cases hsmall : one < key
            · simp [insert, hnlt, hne.symm, hother, hbefore, hone, hsmall]
            · simp [insert, hother, hbefore, hone, hsmall, ih]

theorem insert_comm {one other : String} (h : one ≠ other) (first second : α)
    (table : List (String × α)) :
    insert one first (insert other second table) = insert other second (insert one first table) := by
  by_cases hlt : one < other
  · exact insert_comm_of_lt hlt first second table
  · by_cases hgt : other < one
    · exact (insert_comm_of_lt hgt second first table).symm
    · exact absurd (String.le_antisymm (String.not_lt.1 hgt) (String.not_lt.1 hlt)) h

theorem insert_merge {key : String} {entries : List (String × α)}
    (apart : ∀ entry ∈ entries, key ≠ entry.1) (value : α) (table : List (String × α)) :
    insert key value (merge entries table) = merge entries (insert key value table) := by
  induction entries generalizing table with
  | nil => rfl
  | cons entry rest ih =>
      have hrest := ih (fun other hmem => apart other (List.mem_cons_of_mem _ hmem))
        (insert entry.1 entry.2 table)
      rw [insert_comm (apart entry List.mem_cons_self)] at hrest
      exact hrest

theorem merge_comm {first second : List (String × α)}
    (apart : ∀ one ∈ first, ∀ other ∈ second, one.1 ≠ other.1) (table : List (String × α)) :
    merge first (merge second table) = merge second (merge first table) := by
  induction first generalizing table with
  | nil => rfl
  | cons entry rest ih =>
      have hrest := ih (fun one hmem => apart one (List.mem_cons_of_mem _ hmem))
        (insert entry.1 entry.2 table)
      rw [← insert_merge (apart entry List.mem_cons_self)] at hrest
      exact hrest

/-- Groups of entries that share no key can be put in in any order. -/
theorem merge_flatMap_perm {ι : Type} {first second : List ι} {entriesOf : ι → List (String × α)}
    (h : first.Perm second)
    (apart : ∀ i ∈ first, ∀ j ∈ first,
      i = j ∨ ∀ one ∈ entriesOf i, ∀ other ∈ entriesOf j, one.1 ≠ other.1)
    (table : List (String × α)) :
    merge (first.flatMap entriesOf) table = merge (second.flatMap entriesOf) table := by
  rw [merge, merge, List.foldl_flatMap, List.foldl_flatMap]
  refine h.foldl_eq' (fun i hi j hj reached => ?_) table
  rcases apart i hi j hj with rfl | hij
  · rfl
  · exact (merge_comm hij reached).symm

end Dictionary

/-- Whether an export is of the kind that a capability has. -/
def Export.fits : Capability → Export → Bool
  | .methods, function _ _ => true
  | .functions, function _ _ => true
  | .tags, tag _ _ => true
  | _, _ => false

theorem Export.fits_of_function? {capability : Capability} (hcapability : capability ≠ .tags)
    (exported : Export) (entry : String × TemplateFunction)
    (h : exported.function? = some entry) :
    exported.fits capability = true ∧ exported.name = entry.1 := by
  rw [function?_eq_some_iff] at h
  subst h
  cases capability with
  | methods => exact ⟨rfl, rfl⟩
  | functions => exact ⟨rfl, rfl⟩
  | tags => exact absurd rfl hcapability

theorem Export.fits_of_tag? (exported : Export) (entry : String × TemplateTag)
    (h : exported.tag? = some entry) :
    exported.fits .tags = true ∧ exported.name = entry.1 := by
  rw [tag?_eq_some_iff] at h
  subst h
  exact ⟨rfl, rfl⟩

namespace Provider

variable {first second : List Provider}

/-- The names of the exports that fit the capability. -/
def exportedNames (provider : Provider) : List String :=
  (provider.exports.filter (Export.fits provider.capability)).map Export.name

/-- If the capability is the same, no name is exported by both. -/
def Apart (one other : Provider) : Prop :=
  one.capability = other.capability → ∀ name ∈ one.exportedNames, name ∉ other.exportedNames

instance : DecidableRel Apart := fun one other =>
  inferInstanceAs (Decidable
    (one.capability = other.capability → ∀ name ∈ one.exportedNames, name ∉ other.exportedNames))

theorem Apart.symm {one other : Provider} (h : Apart one other) : Apart other one :=
  fun same name hother hone => h same.symm name hone hother

section kinds

variable {α : Type} {capability : Capability} {kind : Export → Option (String × α)}

theorem mem_exportedNames {provider : Provider} {entry : String × α}
    (fits : ∀ exported entry, kind exported = some entry →
      Export.fits provider.capability exported = true ∧ exported.name = entry.1)
    (h : entry ∈ provider.exports.filterMap kind) : entry.1 ∈ provider.exportedNames := by
  obtain ⟨exported, hmem, hkind⟩ := List.mem_filterMap.1 h
  obtain ⟨hfits, hname⟩ := fits exported entry hkind
  exact List.mem_map.2 ⟨exported, List.mem_filter.2 ⟨hmem, hfits⟩, hname⟩

/-- Exports of a kind that fits the capability can be put in in any order of their providers. -/
theorem merge_exportsOf_perm
    (fits : ∀ exported entry, kind exported = some entry →
      Export.fits capability exported = true ∧ exported.name = entry.1)
    (h : first.Perm second)
    (apart : ∀ one ∈ first, ∀ other ∈ first, one = other ∨ Apart one other)
    (table : List (String × α)) :
    Dictionary.merge (exportsOf capability kind first) table
      = Dictionary.merge (exportsOf capability kind second) table := by
  refine Dictionary.merge_flatMap_perm (h.filter _) (fun one hone other hother => ?_) table
  obtain ⟨hone, hcapability⟩ := List.mem_filter.1 hone
  obtain ⟨hother, hcapability'⟩ := List.mem_filter.1 hother
  rw [decide_eq_true_eq] at hcapability hcapability'
  refine (apart one hone other hother).imp_right fun hapart entry hentry entry' hentry' heq => ?_
  have hname := mem_exportedNames (hcapability ▸ fits) hentry
  have hname' := mem_exportedNames (hcapability' ▸ fits) hentry'
  exact hapart (hcapability.trans hcapability'.symm) _ hname (heq ▸ hname')

end kinds

/-! ## Which providers count -/

theorem exists_first {added : List Provider} {provider : Provider} (h : provider ∈ added) :
    ∃ other ∈ firsts added, other.qualifiedName = provider.qualifiedName := by
  induction added with
  | nil => simp at h
  | cons head rest ih =>
      by_cases hname : head.qualifiedName = provider.qualifiedName
      · exact ⟨head, List.mem_cons_self, hname⟩
      · rcases List.mem_cons.1 h with rfl | hrest
        · exact absurd rfl hname
        · obtain ⟨other, hother, heq⟩ := ih hrest
          refine ⟨other, List.mem_cons_of_mem _ (List.mem_filter.2 ⟨hother, ?_⟩), heq⟩
          rw [heq]
          simpa using Ne.symm hname

/-- Where names are distinct, every provider is the first of its name. -/
theorem mem_firsts_iff {added : List Provider}
    (distinct : ∀ one ∈ added, ∀ other ∈ added, one.qualifiedName = other.qualifiedName → one = other)
    (provider : Provider) : provider ∈ firsts added ↔ provider ∈ added := by
  refine ⟨mem_of_mem_firsts, fun hmem => ?_⟩
  obtain ⟨other, hother, hname⟩ := exists_first hmem
  rwa [← distinct other (mem_of_mem_firsts hother) provider hmem hname]

theorem newcomers_perm (known : List String)
    (distinct : ∀ one ∈ first, ∀ other ∈ first, one.qualifiedName = other.qualifiedName → one = other)
    (same : ∀ provider, provider ∈ first ↔ provider ∈ second) :
    (newcomers known first).Perm (newcomers known second) := by
  have hdistinct : ∀ one ∈ second, ∀ other ∈ second,
      one.qualifiedName = other.qualifiedName → one = other := by
    intro one hone other hother
    exact distinct one ((same one).2 hone) other ((same other).2 hother)
  -- both list the same providers and none of them twice
  have hperm : (firsts first).Perm (firsts second) := by
    have hfirst := (nodup_firsts first).of_map
    have hsecond := (nodup_firsts second).of_map
    refine (List.perm_ext_iff_of_nodup hfirst hsecond).2 fun provider => ?_
    rw [mem_firsts_iff distinct, mem_firsts_iff hdistinct, same]
  exact hperm.filter _

end Provider

namespace SymbolTable

open Provider

/-- The tables hold the same symbols, and the same modules in some order. -/
structure SameSymbols (one other : SymbolTable) : Prop where
  packages : one.packages = other.packages
  classes : one.classes = other.classes
  methods : one.methods = other.methods
  functions : one.functions = other.functions
  tags : one.tags = other.tags
  globals : one.globals = other.globals
  modules : one.modules.Perm other.modules

theorem sameSymbols_of_same_members {first second : List Provider}
    (distinct : ∀ one ∈ first, ∀ other ∈ first, one.qualifiedName = other.qualifiedName → one = other)
    (apart : ∀ one ∈ first, ∀ other ∈ first, one = other ∨ Apart one other)
    (same : ∀ provider, provider ∈ first ↔ provider ∈ second) (table : SymbolTable) :
    SameSymbols (first.foldl addProvider table) (second.foldl addProvider table) := by
  have hperm := newcomers_perm table.modules distinct same
  have hmem : ∀ provider ∈ newcomers table.modules first, provider ∈ first :=
    fun provider h => mem_of_mem_firsts (List.mem_filter.1 h).1
  have hapart : ∀ one ∈ newcomers table.modules first, ∀ other ∈ newcomers table.modules first,
      one = other ∨ Apart one other :=
    fun one hone other hother => apart one (hmem one hone) other (hmem other hother)
  rw [foldl_addProvider, foldl_addProvider]
  exact {
    packages := rfl
    classes := rfl
    methods :=
      merge_exportsOf_perm (Export.fits_of_function? (by decide)) hperm hapart table.methods
    functions :=
      merge_exportsOf_perm (Export.fits_of_function? (by decide)) hperm hapart table.functions
    tags := merge_exportsOf_perm Export.fits_of_tag? hperm hapart table.tags
    globals := rfl
    modules := (hperm.map qualifiedName).append_left table.modules }

/-- Providers with distinct qualified names, of which no two of one capability export the same name,
can be added in any order and any number of times, to any table: the symbols are the same, and so are
the modules up to their order. So a scan finds the same in whatever order providers are listed. -/
theorem registered_in_any_order (modules first second : List Provider) (start : SymbolTable)
    (distinct : modules.Pairwise fun one other => one.qualifiedName ≠ other.qualifiedName)
    (apart : modules.Pairwise Apart)
    (hfirst : ∀ provider, provider ∈ first ↔ provider ∈ modules)
    (hsecond : ∀ provider, provider ∈ second ↔ provider ∈ modules) :
    SameSymbols (first.foldl addProvider start) (second.foldl addProvider start)
      ∧ ∀ registry packages, registry.Perm modules →
        SameSymbols (start.scan registry packages) (start.scan modules packages) := by
  have hdistinct : ∀ one ∈ modules, ∀ other ∈ modules,
      one.qualifiedName = other.qualifiedName → one = other := by
    intro one hone other hother hname
    have hsymm : Std.Symm fun one other : Provider => one.qualifiedName ≠ other.qualifiedName :=
      ⟨fun _ _ => Ne.symm⟩
    by_contra hne
    exact distinct.forall hone hother hne hname
  have hapart : ∀ one ∈ modules, ∀ other ∈ modules, one = other ∨ Apart one other := by
    intro one hone other hother
    have hsymm : Std.Symm Apart := ⟨fun _ _ => Apart.symm⟩
    by_cases heq : one = other
    · exact .inl heq
    · exact .inr (apart.forall hone hother heq)
  -- what is asked of the modules holds of all lists of some of them
  have hsame : ∀ one other : List Provider, (∀ provider ∈ one, provider ∈ modules) →
      (∀ provider, provider ∈ one ↔ provider ∈ other) →
      SameSymbols (one.foldl addProvider start) (other.foldl addProvider start) := by
    intro one other hpart hmembers
    refine sameSymbols_of_same_members ?_ ?_ hmembers start
    · exact fun p hp q hq => hdistinct p (hpart p hp) q (hpart q hq)
    · exact fun p hp q hq => hapart p (hpart p hp) q (hpart q hq)
  refine ⟨?_, ?_⟩
  · refine hsame first second (fun provider hmem => (hfirst provider).1 hmem) fun provider => ?_
    rw [hfirst, hsecond]
  · intro registry packages hperm
    refine hsame _ _ ?_ fun provider => (hperm.filter _).mem_iff
    intro provider hmem
    exact hperm.mem_iff.1 (List.mem_filter.1 hmem).1

/-- A provider of functions that also exports a tag, which does not count. -/
def slugs : Provider :=
  ⟨"acme.text", "slugs", .functions, [.function "slugify" Builtin.lower, .tag "wrap" Builtin.trim]⟩

theorem registered_in_any_order_slugs :
    let modules := slugs :: Builtin.providers
    let start : SymbolTable := { functions := [("upper", Builtin.lower)] }
    modules.Pairwise (fun one other => one.qualifiedName ≠ other.qualifiedName)
      ∧ modules.Pairwise Apart
      ∧ SameSymbols ((slugs :: slugs :: Builtin.providers).foldl addProvider start)
        ((Builtin.providers.reverse ++ slugs :: Builtin.providers).foldl addProvider start)
      ∧ SameSymbols (start.scan (Builtin.providers ++ [slugs]) []) (start.scan modules []) := by
  intro modules start
  have hdistinct : modules.Pairwise fun one other => one.qualifiedName ≠ other.qualifiedName := by
    decide
  have hapart : modules.Pairwise Apart := by decide
  have hrepeated : ∀ provider,
      provider ∈ slugs :: slugs :: Builtin.providers ↔ provider ∈ modules := by
    intro provider
    simp [modules]
  have hturned : ∀ provider,
      provider ∈ Builtin.providers.reverse ++ slugs :: Builtin.providers ↔ provider ∈ modules := by
    intro provider
    simp only [modules, List.mem_append, List.mem_reverse, List.mem_cons]
    grind
  obtain ⟨hsame, hscan⟩ :=
    registered_in_any_order modules _ _ start hdistinct hapart hrepeated hturned
  exact ⟨hdistinct, hapart, hsame, hscan _ [] (List.perm_append_singleton slugs Builtin.providers)⟩

end SymbolTable

end LiveTemplates
