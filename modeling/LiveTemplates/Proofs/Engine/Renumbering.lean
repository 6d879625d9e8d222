import LiveTemplates.Proofs.Cache.Mapping
import LiveTemplates.Proofs.Engine.Stores
import Mathlib.Data.Set.Function
import Mathlib.Data.Set.Insert
import Mathlib.Order.Monotone.Basic

set_option autoImplicit false

/-! # Caches that differ in the numbers of units

Units are numbered in the order in which they are defined. When a source without a name is compiled
in between, the units that come later get other numbers, and that is all that can be seen of it in the
caches: the same lookups come to the same templates under other numbers (`Caches.Mirrors`). The
numbers are told from one another exactly as before, since they keep their order
(`Renumbering.isSame_renumber`). -/

namespace LiveTemplates

/-- The template with another number for its unit. -/
def LiveTemplate.renumber (number : Nat → Nat) (template : LiveTemplate) : LiveTemplate :=
  { template with unit := { template.unit with id := number template.unit.id } }

/-- A template works the same under another number. -/
@[simp] theorem LiveTemplate.render_renumber (number : Nat → Nat) (template : LiveTemplate)
    (data : Json) : (template.renumber number).render data = template.render data :=
  rfl

/-- Numbers that were given to units, and other numbers for them in the same order. -/
structure Renumbering where
  given : Set Nat
  number : Nat → Nat
  mono : StrictMonoOn number given

namespace Renumbering

/-- The unit of a template has one of the numbers. -/
def Covers (numbering : Renumbering) (template : LiveTemplate) : Prop :=
  template.unit.id ∈ numbering.given

/-- There are more numbers, and those that were there stand for the same as before. -/
structure Extends (later earlier : Renumbering) : Prop where
  given : earlier.given ⊆ later.given
  number : Set.EqOn later.number earlier.number earlier.given

/-- Outcomes of lookups are the same, but for the numbers of units. -/
inductive Relates (numbering : Renumbering) :
    Except TemplateError LiveTemplate → Except TemplateError LiveTemplate → Prop
  | ok {template : LiveTemplate} (covers : numbering.Covers template) :
      Relates numbering (.ok template) (.ok (template.renumber numbering.number))
  | error (e : TemplateError) : Relates numbering (.error e) (.error e)

/-- Ends of runs are the same, but for the numbers of units. -/
inductive RelatesEndings (numbering : Renumbering) :
    Ending LiveTemplate TemplateError → Ending LiveTemplate TemplateError → Prop
  | value {template : LiveTemplate} (covers : numbering.Covers template) :
      RelatesEndings numbering (.value template) (.value (template.renumber numbering.number))
  | error (e : TemplateError) : RelatesEndings numbering (.error e) (.error e)
  | broken (explanation : Option String) :
      RelatesEndings numbering (.broken explanation) (.broken explanation)

variable {numbering later latest : Renumbering}

namespace Extends

theorem refl (numbering : Renumbering) : numbering.Extends numbering :=
  ⟨subset_rfl, fun _ _ => rfl⟩

theorem trans (second : latest.Extends later) (first : later.Extends numbering) :
    latest.Extends numbering :=
  ⟨first.given.trans second.given,
    fun _ hmem => (second.number (first.given hmem)).trans (first.number hmem)⟩

theorem covers (more : later.Extends numbering) {template : LiveTemplate}
    (covers : numbering.Covers template) : later.Covers template :=
  more.given covers

theorem renumber (more : later.Extends numbering) {template : LiveTemplate}
    (covers : numbering.Covers template) :
    template.renumber later.number = template.renumber numbering.number := by
  unfold LiveTemplate.renumber
  rw [more.number covers]

theorem relates (more : later.Extends numbering)
    {outcome mirrored : Except TemplateError LiveTemplate}
    (related : numbering.Relates outcome mirrored) : later.Relates outcome mirrored := by
  cases related with
  | ok covers => exact more.renumber covers ▸ .ok (more.covers covers)
  | error e => exact .error e

end Extends

/-- Templates are the same instance exactly if they are so under other numbers. -/
theorem isSame_renumber {first second : LiveTemplate} (covers : numbering.Covers first)
    (covers' : numbering.Covers second) :
    (first.renumber numbering.number).isSame (second.renumber numbering.number)
      = first.isSame second := by
  have hinjective : numbering.number first.unit.id = numbering.number second.unit.id
      ↔ first.unit.id = second.unit.id := numbering.mono.injOn.eq_iff covers covers'
  have hunit : decide (numbering.number first.unit.id = numbering.number second.unit.id)
      = decide (first.unit.id = second.unit.id) := decide_eq_decide.2 hinjective
  show (decide _ && decide (numbering.number _ = numbering.number _)) = _
  rw [hunit]
  rfl

/-- No numbers have been given yet. -/
def unused : Renumbering where
  given := ∅
  number := id
  mono := fun first hfirst => absurd hfirst (Set.notMem_empty first)

/-- A number after all others, for which there is one after all others too. -/
def extend (numbering : Renumbering) (id image : Nat)
    (above : ∀ old ∈ numbering.given, old < id ∧ numbering.number old < image) : Renumbering where
  given := insert id numbering.given
  number := Function.update numbering.number id image
  mono := by
    intro first hfirst second hsecond hlt
    have hold : ∀ old ∈ numbering.given,
        Function.update numbering.number id image old = numbering.number old :=
      fun old hmem => Function.update_of_ne (above old hmem).1.ne _ _
    rcases Set.mem_insert_iff.1 hfirst with hnew | hfirst
    · -- nothing comes after the new number
      rcases Set.mem_insert_iff.1 hsecond with hsame | hsecond
      · omega
      · have := (above second hsecond).1
        omega
    · rw [hold first hfirst]
      rcases Set.mem_insert_iff.1 hsecond with hnew | hsecond
      · rw [hnew, Function.update_self]
        exact (above first hfirst).2
      · rw [hold second hsecond]
        exact numbering.mono hfirst hsecond hlt

theorem extends_extend {id image : Nat}
    (above : ∀ old ∈ numbering.given, old < id ∧ numbering.number old < image) :
    (numbering.extend id image above).Extends numbering where
  given := Set.subset_insert _ _
  number := fun old hmem => Function.update_of_ne (above old hmem).1.ne _ _

/-- What a caller is told of the end of a run is the same, but for the numbers of units. -/
theorem RelatesEndings.outcome {ending mirrored : Ending LiveTemplate TemplateError}
    (related : numbering.RelatesEndings ending mirrored) (name : String) :
    numbering.Relates (ending.outcome name) (mirrored.outcome name) := by
  cases related with
  | value covers => exact .ok covers
  | error e => exact .error e
  | broken explanation => exact .error _

end Renumbering

/-- Registries of units are in the same generation, and the next unit comes after all that have a
number, in both. -/
structure Units.Mirrors (numbering : Renumbering) (units mirror : Units) : Prop where
  reloadable : mirror.reloadable = units.reloadable
  generation : mirror.generation = units.generation
  above : ∀ old ∈ numbering.given, old < units.nextId ∧ numbering.number old < mirror.nextId

namespace Units.Mirrors

variable {numbering : Renumbering} {units mirror : Units}

theorem advance (mirrors : Mirrors numbering units mirror) :
    Mirrors numbering units.advance mirror.advance := by
  unfold Units.advance
  rw [mirrors.reloadable]
  split
  · exact { reloadable := rfl, generation := by rw [mirrors.generation], above := mirrors.above }
  · exact mirrors

/-- A unit that is defined in both gets the next number of each. -/
theorem define (mirrors : Mirrors numbering units mirror) (name : String) (program : Runnable) :
    Mirrors (numbering.extend units.nextId mirror.nextId mirrors.above) (units.define name program).1
      (mirror.define name program).1 where
  reloadable := mirrors.reloadable
  generation := mirrors.generation
  above := by
    intro old hmem
    rcases Set.mem_insert_iff.1 hmem with rfl | hmem
    · show _ < _ + 1 ∧ Function.update numbering.number _ mirror.nextId _ < mirror.nextId + 1
      rw [Function.update_self]
      exact ⟨Nat.lt_succ_self _, Nat.lt_succ_self _⟩
    · have hsame := (numbering.extends_extend mirrors.above).number hmem
      have hold := mirrors.above old hmem
      rw [hsame]
      exact ⟨Nat.lt_succ_of_lt hold.1, Nat.lt_succ_of_lt hold.2⟩

/-- The units that are defined differ in their numbers. -/
theorem define_snd (mirrors : Mirrors numbering units mirror) (name : String)
    (program : Runnable) :
    (mirror.define name program).2
      = { (units.define name program).2 with
          id := (numbering.extend _ mirror.nextId mirrors.above).number units.nextId } := by
  have hnumber : (numbering.extend units.nextId mirror.nextId mirrors.above).number units.nextId
      = mirror.nextId := Function.update_self ..
  rw [hnumber]
  show ExecutableUnit.mk mirror.nextId name mirror.generation program = _
  rw [mirrors.generation]
  rfl

end Units.Mirrors

/-- A source reads nothing but stores. -/
structure Source.ReadsStores (source : Source) : Prop where
  load {world other : World} (same : other.stores = world.stores) (name : String) :
    source.load other name = source.load world name
  fingerprint {world other : World} (same : other.stores = world.stores) (name : String) :
    source.fingerprint other name = source.fingerprint world name

theorem Loader.readsStores_memory (index : Nat) : (Loader.memory index).source.ReadsStores := by
  constructor
  · intro world other same name
    exact congrArg (fun store => Except.ok (store.load name)) (World.store_congr same index)
  · intro world other same name
    exact congrArg (fun store => Except.ok (store.fingerprint name)) (World.store_congr same index)

namespace Caches

/-- Caches keep the same under the same names and have counted the same, but for the numbers of
units. -/
structure Mirrors (numbering : Renumbering) (caches mirror : Caches) : Prop where
  resources : mirror.resources = caches.resources
  templates : mirror.templates = caches.templates.map (LiveTemplate.renumber numbering.number)
  covered : caches.templates.All numbering.Covers
  units : caches.units.Mirrors numbering mirror.units

/-- Nothing was done to caches in between, but that units may have been defined. -/
structure Undisturbed (before after : Caches) : Prop where
  resources : after.resources = before.resources
  templates : after.templates = before.templates
  reloadable : after.units.reloadable = before.units.reloadable
  generation : after.units.generation = before.units.generation
  nextId : before.units.nextId ≤ after.units.nextId

theorem Undisturbed.refl (caches : Caches) : caches.Undisturbed caches :=
  ⟨rfl, rfl, rfl, rfl, Nat.le_refl _⟩

/-- A source without a name that is compiled leaves no entry, whatever comes of it. -/
theorem undisturbed_compileLoose (caches : Caches) (workshop : Workshop) (world : World)
    (name source : String) :
    caches.Undisturbed (caches.compileLoose workshop world name source).1 := by
  unfold compileLoose
  dsimp only
  cases workshop.compiler name source with
  | program program => exact ⟨rfl, rfl, rfl, rfl, Nat.le_succ _⟩
  | rejected e => exact ⟨rfl, rfl, rfl, rfl, Nat.le_refl _⟩
  | broken explanation => exact ⟨rfl, rfl, rfl, rfl, Nat.le_refl _⟩

namespace Mirrors

variable {numbering later : Renumbering} {caches mirror : Caches} {workshop : Workshop}
  {world other : World}

/-! ## Taking entries out -/

theorem withResources (mirrors : Mirrors numbering caches mirror)
    (resources : SingleFlight String Resource) :
    Mirrors numbering { caches with resources } { mirror with resources } :=
  { mirrors with resources := rfl }

theorem withTemplates (mirrors : Mirrors numbering caches mirror)
    {templates : SingleFlight String LiveTemplate} (covered : templates.All numbering.Covers) :
    Mirrors numbering { caches with templates }
      { mirror with templates := templates.map (LiveTemplate.renumber numbering.number) } :=
  { mirrors with templates := rfl, covered }

theorem withUnits (mirrors : Mirrors numbering caches mirror) {units units' : Units}
    (mirrored : units.Mirrors numbering units') :
    Mirrors numbering { caches with units } { mirror with units := units' } :=
  { mirrors with units := mirrored }

/-- How often the compiler was called makes no difference. -/
theorem withCompilations (mirrors : Mirrors numbering caches mirror) (count count' : Nat) :
    Mirrors numbering { caches with compilations := count }
      { mirror with compilations := count' } :=
  { mirrors with }

/-- Numbers that are added change nothing of what is kept. -/
theorem extended (mirrors : Mirrors numbering caches mirror) (more : later.Extends numbering)
    {units units' : Units} (mirrored : units.Mirrors later units') :
    Mirrors later { caches with units } { mirror with units := units' } where
  resources := mirrors.resources
  templates := by
    refine mirrors.templates.trans (SingleFlight.map_congr (mirrors.covered.imp ?_))
    exact fun template covers => (more.renumber covers).symm
  covered := mirrors.covered.imp fun template covers => more.covers covers
  units := mirrored

theorem dropResource (mirrors : Mirrors numbering caches mirror) (name : String)
    (fingerprint : Fingerprint) :
    Mirrors numbering (caches.dropResource name fingerprint).1
      (mirror.dropResource name fingerprint).1 := by
  unfold Caches.dropResource
  rw [mirrors.resources]
  exact mirrors.withResources _

theorem dropSource (mirrors : Mirrors numbering caches mirror) (name : String)
    (template : LiveTemplate) (number : Nat → Nat) :
    Mirrors numbering (caches.dropSource name template)
      (mirror.dropSource name (template.renumber number)) := by
  unfold Caches.dropSource LiveTemplate.renumber
  cases template.fingerprint with
  | none => exact mirrors
  | some fingerprint => exact mirrors.dropResource name fingerprint

theorem evict (mirrors : Mirrors numbering caches mirror) (name : String)
    {template : LiveTemplate} (covers : numbering.Covers template) :
    Mirrors numbering (caches.evict name template)
      (mirror.evict name (template.renumber numbering.number)) := by
  have htaken : mirror.templates.invalidateIf name (template.renumber numbering.number).isSame
      = ((caches.templates.invalidateIf name template.isSame).1.map
          (LiveTemplate.renumber numbering.number),
        (caches.templates.invalidateIf name template.isSame).2) := by
    rw [mirrors.templates]
    exact SingleFlight.invalidateIf_map _ _ _ fun cached hpeek =>
      Renumbering.isSame_renumber covers (mirrors.covered.peek hpeek)
  have hcovered : (caches.templates.invalidateIf name template.isSame).1.All numbering.Covers :=
    mirrors.covered.invalidateIf _
  rw [Caches.evict_eq, Caches.evict_eq, htaken]
  generalize caches.templates.invalidateIf name template.isSame = taken at hcovered
  obtain ⟨templates, removed⟩ := taken
  cases removed with
  | false => exact mirrors.withTemplates hcovered
  | true => exact (mirrors.withTemplates hcovered).withUnits mirrors.units.advance

theorem discard (mirrors : Mirrors numbering caches mirror) (name : String)
    {template : LiveTemplate} (covers : numbering.Covers template) :
    Mirrors numbering (caches.discard name template)
      (mirror.discard name (template.renumber numbering.number)) :=
  (mirrors.dropSource name template numbering.number).evict name covers

theorem clear (mirrors : Mirrors numbering caches mirror) :
    Mirrors numbering caches.clear mirror.clear := by
  unfold Caches.clear
  rw [mirrors.resources, mirrors.templates, SingleFlight.clear_map]
  exact (mirrors.withResources caches.resources.clear).withTemplates mirrors.covered.clear

/-! ## Lookups -/

/-- The resource under a name is the same. -/
theorem resource (mirrors : Mirrors numbering caches mirror)
    (reads : workshop.source.ReadsStores) (same : other.stores = world.stores) (name : String) :
    Mirrors numbering (caches.resource workshop world name).1
        (mirror.resource workshop other name).1
      ∧ (mirror.resource workshop other name).2 = (caches.resource workshop world name).2 := by
  have hproduce : workshop.produceResource other name = workshop.produceResource world name := by
    unfold Workshop.produceResource
    rw [reads.load same]
  unfold Caches.resource
  rw [mirrors.resources, hproduce]
  obtain ⟨resources, found⟩ := caches.resources.lookup name
  cases found with
  | hit resource => exact ⟨mirrors.withResources _, rfl⟩
  | join flight =>
      cases workshop.produceResource world name <;> exact ⟨mirrors.withResources _, rfl⟩
  | launch flight =>
      cases workshop.produceResource world name <;> exact ⟨mirrors.withResources _, rfl⟩

theorem currentResource (mirrors : Mirrors numbering caches mirror)
    (reads : workshop.source.ReadsStores) (same : other.stores = world.stores) (name : String) :
    Mirrors numbering (caches.currentResource workshop world name).1
        (mirror.currentResource workshop other name).1
      ∧ (mirror.currentResource workshop other name).2
        = (caches.currentResource workshop world name).2 := by
  obtain ⟨hmirrors, houtcome⟩ := mirrors.resource reads same name
  unfold Caches.currentResource
  generalize caches.resource workshop world name = result at hmirrors houtcome
  generalize mirror.resource workshop other name = result' at hmirrors houtcome
  obtain ⟨caches, outcome⟩ := result
  obtain ⟨mirror, outcome'⟩ := result'
  obtain rfl : outcome' = outcome := houtcome
  cases outcome' with
  | error e => exact ⟨hmirrors, rfl⟩
  | ok resource =>
      rw [reads.fingerprint same]
      dsimp only
      split
      · split
        · exact ⟨hmirrors, rfl⟩
        · split
          · exact ⟨hmirrors, rfl⟩
          · exact (hmirrors.dropResource name _).resource reads same name
      · exact ⟨hmirrors, rfl⟩

/-- When a template is made, its unit gets the next number of each. -/
theorem compile (mirrors : Mirrors numbering caches mirror) (workshop : Workshop)
    (world other : World) (name : String) (resource : Resource) :
    ∃ later : Renumbering, later.Extends numbering
      ∧ Mirrors later (caches.compile workshop world name resource).1
        (mirror.compile workshop other name resource).1
      ∧ later.RelatesEndings (caches.compile workshop world name resource).2.2
        (mirror.compile workshop other name resource).2.2 := by
  have hcounted := mirrors.withCompilations (caches.compilations + 1) (mirror.compilations + 1)
  unfold Caches.compile
  dsimp only
  cases workshop.compiler name resource.content with
  | program program =>
      have hunits := mirrors.units.define name program
      have hmore := numbering.extends_extend mirrors.units.above
      refine ⟨_, hmore, hcounted.extended hmore hunits, ?_⟩
      dsimp only
      rw [mirrors.units.define_snd name program]
      exact .value (Set.mem_insert _ _)
  | rejected e =>
      exact ⟨numbering, .refl numbering, hcounted.dropResource name resource.fingerprint, .error e⟩
  | broken explanation => exact ⟨numbering, .refl numbering, hcounted, .broken _⟩

theorem produceTemplate (mirrors : Mirrors numbering caches mirror)
    (reads : workshop.source.ReadsStores) (same : other.stores = world.stores) (name : String) :
    ∃ later : Renumbering, later.Extends numbering
      ∧ Mirrors later (caches.produceTemplate workshop world name).1
        (mirror.produceTemplate workshop other name).1
      ∧ later.RelatesEndings (caches.produceTemplate workshop world name).2.2
        (mirror.produceTemplate workshop other name).2.2 := by
  obtain ⟨hmirrors, houtcome⟩ := mirrors.currentResource reads same name
  unfold Caches.produceTemplate
  generalize caches.currentResource workshop world name = result at hmirrors houtcome
  generalize mirror.currentResource workshop other name = result' at hmirrors houtcome
  obtain ⟨caches, outcome⟩ := result
  obtain ⟨mirror, outcome'⟩ := result'
  obtain rfl : outcome' = outcome := houtcome
  cases outcome' with
  | error e => exact ⟨numbering, .refl numbering, hmirrors, .error e⟩
  | ok resource => exact hmirrors.compile workshop world other name resource

theorem landTemplate (mirrors : Mirrors numbering caches mirror) (name : String) (flight : Nat)
    {ending ending' : Ending LiveTemplate TemplateError}
    (related : numbering.RelatesEndings ending ending') :
    Mirrors numbering (caches.landTemplate name flight ending).1
        (mirror.landTemplate name flight ending').1
      ∧ numbering.Relates (caches.landTemplate name flight ending).2
        (mirror.landTemplate name flight ending').2 := by
  refine ⟨?_, related.outcome name⟩
  unfold Caches.landTemplate
  cases related with
  | value covers =>
      dsimp only
      rw [mirrors.templates, SingleFlight.succeed_map]
      exact mirrors.withTemplates (mirrors.covered.succeed flight covers)
  | error e =>
      dsimp only
      rw [mirrors.templates, SingleFlight.fail_map]
      exact mirrors.withTemplates (mirrors.covered.fail flight)
  | broken explanation =>
      dsimp only
      rw [mirrors.templates, SingleFlight.dropFlight_map]
      exact mirrors.withTemplates (mirrors.covered.dropFlight flight)

/-- A run that is launched or joined ends the same. -/
theorem landed (mirrors : Mirrors numbering caches mirror) (reads : workshop.source.ReadsStores)
    (same : other.stores = world.stores) (name : String) (flight : Nat) :
    ∃ later : Renumbering, later.Extends numbering
      ∧ Mirrors later
        ((caches.produceTemplate workshop world name).1.landTemplate name flight
          (caches.produceTemplate workshop world name).2.2).1
        ((mirror.produceTemplate workshop other name).1.landTemplate name flight
          (mirror.produceTemplate workshop other name).2.2).1
      ∧ later.Relates
        ((caches.produceTemplate workshop world name).1.landTemplate name flight
          (caches.produceTemplate workshop world name).2.2).2
        ((mirror.produceTemplate workshop other name).1.landTemplate name flight
          (mirror.produceTemplate workshop other name).2.2).2 := by
  obtain ⟨later, hmore, hmirrors, hrelated⟩ := mirrors.produceTemplate reads same name
  obtain ⟨hlanded, houtcome⟩ := hmirrors.landTemplate name flight hrelated
  exact ⟨later, hmore, hlanded, houtcome⟩

theorem cachedTemplate (mirrors : Mirrors numbering caches mirror)
    (reads : workshop.source.ReadsStores) (same : other.stores = world.stores) (name : String) :
    ∃ later : Renumbering, later.Extends numbering
      ∧ Mirrors later (caches.cachedTemplate workshop world name).1
        (mirror.cachedTemplate workshop other name).1
      ∧ later.Relates (caches.cachedTemplate workshop world name).2.2
        (mirror.cachedTemplate workshop other name).2.2 := by
  have hlookup := mirrors.withTemplates (mirrors.covered.lookup name)
  have hcovers : ∀ template, (caches.templates.lookup name).2 = .hit template →
      numbering.Covers template := fun _ => mirrors.covered.hit name
  unfold Caches.cachedTemplate
  rw [mirrors.templates, SingleFlight.lookup_map]
  generalize caches.templates.lookup name = result at hlookup hcovers
  obtain ⟨templates, found⟩ := result
  cases found with
  | hit template => exact ⟨numbering, .refl numbering, hlookup, .ok (hcovers template rfl)⟩
  | join flight => exact hlookup.landed reads same name flight
  | launch flight => exact hlookup.landed reads same name flight

/-- The template of a name is the same, but for the numbers of units. -/
theorem template (mirrors : Mirrors numbering caches mirror) (reads : workshop.source.ReadsStores)
    (same : other.stores = world.stores) (name : String) :
    ∃ later : Renumbering, later.Extends numbering
      ∧ Mirrors later (caches.template workshop world name).1
        (mirror.template workshop other name).1
      ∧ later.Relates (caches.template workshop world name).2.2
        (mirror.template workshop other name).2.2 := by
  obtain ⟨later, hmore, hmirrors, hrelated⟩ := mirrors.cachedTemplate reads same name
  have hsame : (mirror.cachedTemplate workshop other name).2.1.stores
      = (caches.cachedTemplate workshop world name).2.1.stores := by
    rw [stores_cachedTemplate, stores_cachedTemplate, same]
  unfold Caches.template
  generalize caches.cachedTemplate workshop world name = result at hmirrors hrelated hsame
  generalize mirror.cachedTemplate workshop other name = result' at hmirrors hrelated hsame
  obtain ⟨caches, world, outcome⟩ := result
  obtain ⟨mirror, other, outcome'⟩ := result'
  dsimp only at hsame hmirrors
  cases hrelated with
  | error e => exact ⟨later, hmore, hmirrors, .error e⟩
  | @ok template covers =>
      have hcurrent : ∀ current,
          isCurrent current (template.renumber later.number) = isCurrent current template :=
        fun _ => rfl
      simp only [reads.fingerprint hsame, hcurrent]
      split
      · split
        · exact ⟨later, hmore, hmirrors, .error _⟩
        · split
          · exact ⟨later, hmore, hmirrors, .ok covers⟩
          · obtain ⟨latest, hlatest, hanew⟩ :=
              (hmirrors.discard name covers).cachedTemplate reads hsame name
            exact ⟨latest, hlatest.trans hmore, hanew⟩
      · exact ⟨later, hmore, hmirrors, .ok covers⟩

/-- Caches that were left alone since keep the same as others. -/
theorem undisturbed (mirrors : Mirrors numbering caches mirror) {caches' mirror' : Caches}
    (left : caches.Undisturbed caches') (right : mirror.Undisturbed mirror') :
    Mirrors numbering caches' mirror' where
  resources := by rw [left.resources, right.resources, mirrors.resources]
  templates := by rw [left.templates, right.templates, mirrors.templates]
  covered := by
    rw [left.templates]
    exact mirrors.covered
  units :=
    { reloadable := by rw [left.reloadable, right.reloadable, mirrors.units.reloadable]
      generation := by rw [left.generation, right.generation, mirrors.units.generation]
      above := by
        intro old hmem
        have hbefore := mirrors.units.above old hmem
        have hleft := left.nextId
        have hright := right.nextId
        omega }

end Mirrors

end Caches

end LiveTemplates
