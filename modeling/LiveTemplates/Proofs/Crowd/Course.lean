import LiveTemplates.Proofs.Crowd.Side

set_option autoImplicit false

/-! # The course of a crowd

Whatever happens to a crowd is a number of events around each of its two caches, and in all of them
it is newcomers that call. `Leads` says so, together with what only ever grows: the runs on record,
the numbers of callers, units and generations. `Calm` says what else most of the things keep that are
done to the caches: how runs have ended, the stages that they are at, and the lookups. -/

namespace LiveTemplates

namespace Units

/-- One registry comes before another: numbers and generations only grow. -/
structure Precedes (before after : Units) : Prop where
  reloadable_eq : after.reloadable = before.reloadable
  generation_le : before.generation.value ≤ after.generation.value
  nextId_le : before.nextId ≤ after.nextId

theorem Precedes.refl (units : Units) : units.Precedes units :=
  ⟨rfl, Nat.le_refl _, Nat.le_refl _⟩

theorem Precedes.trans {before between after : Units} (first : before.Precedes between)
    (second : between.Precedes after) : before.Precedes after where
  reloadable_eq := second.reloadable_eq.trans first.reloadable_eq
  generation_le := Nat.le_trans first.generation_le second.generation_le
  nextId_le := Nat.le_trans first.nextId_le second.nextId_le

theorem precedes_advance (units : Units) : units.Precedes units.advance := by
  unfold advance
  split
  · exact ⟨rfl, Nat.le_succ _, Nat.le_refl _⟩
  · exact .refl units

theorem precedes_enrol (units : Units) (name : String) (program : Runnable)
    (generation : Generation) : units.Precedes (units.enrol name program generation).1 :=
  ⟨rfl, Nat.le_refl _, Nat.le_succ _⟩

end Units

namespace Crowd

/-- The cache of the resources and the runs that load them. -/
def resourceSide (crowd : Crowd) : Side LoadingStage Resource :=
  ⟨crowd.loadings, crowd.resources⟩

/-- The cache of the templates and the runs that make them. -/
def templateSide (crowd : Crowd) : Side MakingStage LiveTemplate :=
  ⟨crowd.makings, crowd.templates⟩

/-- The runs on record are those that were launched, and the next callers have not been heard of. -/
structure Sound (crowd : Crowd) : Prop where
  resources : crowd.resourceSide.Traced
  templates : crowd.templateSide.Traced
  free {caller : Nat} (unknown : crowd.nextCaller ≤ caller) :
    crowd.resources.Free caller ∧ crowd.templates.Free caller

/-- One crowd comes to be another. -/
structure Leads (before after : Crowd) : Prop where
  workshop_eq : after.workshop = before.workshop
  nextCaller_le : before.nextCaller ≤ after.nextCaller
  resources :
    Side.Grows before.nextCaller after.nextCaller before.resourceSide after.resourceSide
  templates :
    Side.Grows before.nextCaller after.nextCaller before.templateSide after.templateSide
  units : before.units.Precedes after.units

variable {crowd before between after : Crowd}

theorem Sound.leads_self (sound : crowd.Sound) : Leads crowd crowd :=
  ⟨rfl, Nat.le_refl _, .refl sound.resources _ _, .refl sound.templates _ _, .refl _⟩

theorem Leads.trans (first : Leads before between) (second : Leads between after) :
    Leads before after where
  workshop_eq := second.workshop_eq.trans first.workshop_eq
  nextCaller_le := Nat.le_trans first.nextCaller_le second.nextCaller_le
  resources := first.resources.trans second.resources first.nextCaller_le second.nextCaller_le
  templates := first.templates.trans second.templates first.nextCaller_le second.nextCaller_le
  units := first.units.trans second.units

theorem Leads.sound (leads : Leads before after) (sound : before.Sound) : after.Sound where
  resources := leads.resources.traced sound.resources
  templates := leads.templates.traced sound.templates
  free unknown :=
    have known := sound.free (Nat.le_trans leads.nextCaller_le unknown)
    ⟨leads.resources.free unknown known.1, leads.templates.free unknown known.2⟩

/-! ## Calls -/

/-- What becomes of a crowd when a resource is asked for. -/
theorem callResource_eq (crowd : Crowd) (name : String) :
    ∃ ready, crowd.callResource name
      = ({ crowd with
            resources := (crowd.resourceSide.call .start crowd.nextCaller name).traffic
            loadings := (crowd.resourceSide.call .start crowd.nextCaller name).records
            nextCaller := crowd.nextCaller + 1
            ready },
        crowd.nextCaller, (crowd.resources.cache.lookup name).2.value?) := by
  have hfound := crowd.resources.call_snd crowd.nextCaller name
  unfold callResource Side.call Side.recorded resourceSide
  dsimp only
  rw [← hfound]
  rcases crowd.resources.call crowd.nextCaller name with ⟨resources, _ | _ | _⟩ <;> exact ⟨_, rfl⟩

/-- What becomes of a crowd when a template is asked for. -/
theorem callTemplate_eq (crowd : Crowd) (name : String) :
    ∃ ready, crowd.callTemplate name
      = ({ crowd with
            templates := (crowd.templateSide.call .start crowd.nextCaller name).traffic
            makings := (crowd.templateSide.call .start crowd.nextCaller name).records
            nextCaller := crowd.nextCaller + 1
            ready },
        crowd.nextCaller, (crowd.templates.cache.lookup name).2.value?) := by
  have hfound := crowd.templates.call_snd crowd.nextCaller name
  unfold callTemplate Side.call Side.recorded templateSide
  dsimp only
  rw [← hfound]
  rcases crowd.templates.call crowd.nextCaller name with ⟨templates, _ | _ | _⟩ <;> exact ⟨_, rfl⟩

/-- A crowd after a resource has been asked for. -/
def askResource (crowd : Crowd) (name : String) : Crowd :=
  (crowd.callResource name).1

/-- A crowd after a template has been asked for. -/
def askTemplate (crowd : Crowd) (name : String) : Crowd :=
  (crowd.callTemplate name).1

/-- Runs may be launched, but none ends and none goes on to another stage, and no lookup does; no
source in memory changes. -/
structure Calm (before after : Crowd) : Prop where
  resources : Side.Kept .start before.resourceSide after.resourceSide
  templates : Side.Kept .start before.templateSide after.templateSide
  lookups : after.lookups = before.lookups
  stores : after.world.stores = before.world.stores

theorem calm_self (crowd : Crowd) : Calm crowd crowd :=
  ⟨.refl _ _, .refl _ _, rfl, rfl⟩

/-- A crowd without the resource of a name, if it bears a mark. -/
def withoutResource (crowd : Crowd) (name : String) (fingerprint : Fingerprint) : Crowd :=
  crowd.withCaches (crowd.caches.dropResource name fingerprint).1

/-- A crowd without the resource that a template was made from. -/
def withoutSource (crowd : Crowd) (name : String) (template : LiveTemplate) : Crowd :=
  crowd.withCaches (crowd.caches.dropSource name template)

/-- A crowd in the next generation. -/
def advanced (crowd : Crowd) : Crowd :=
  crowd.withCaches crowd.caches.advance

/-- A crowd without the template of a name. -/
def without (crowd : Crowd) (name : String) : Crowd :=
  crowd.withCaches (crowd.caches.remove name)

section Asking

variable (crowd : Crowd) (name : String)

@[simp] theorem resourceSide_askResource : (crowd.askResource name).resourceSide
    = crowd.resourceSide.call .start crowd.nextCaller name := by
  obtain ⟨ready, heq⟩ := crowd.callResource_eq name
  rw [askResource, heq]
  rfl

@[simp] theorem templateSide_askTemplate : (crowd.askTemplate name).templateSide
    = crowd.templateSide.call .start crowd.nextCaller name := by
  obtain ⟨ready, heq⟩ := crowd.callTemplate_eq name
  rw [askTemplate, heq]
  rfl

/-! Whoever asks for a resource leaves alone what has to do with templates. -/

@[simp] theorem templateSide_askResource : (crowd.askResource name).templateSide = crowd.templateSide := by
  obtain ⟨ready, heq⟩ := crowd.callResource_eq name
  rw [askResource, heq]
  rfl

@[simp] theorem lookups_askResource : (crowd.askResource name).lookups = crowd.lookups := by
  obtain ⟨ready, heq⟩ := crowd.callResource_eq name
  rw [askResource, heq]

@[simp] theorem fetches_askResource : (crowd.askResource name).fetches = crowd.fetches := by
  obtain ⟨ready, heq⟩ := crowd.callResource_eq name
  rw [askResource, heq]

@[simp] theorem world_askResource : (crowd.askResource name).world = crowd.world := by
  obtain ⟨ready, heq⟩ := crowd.callResource_eq name
  rw [askResource, heq]

@[simp] theorem units_askResource : (crowd.askResource name).units = crowd.units := by
  obtain ⟨ready, heq⟩ := crowd.callResource_eq name
  rw [askResource, heq]

@[simp] theorem nextCaller_askResource : (crowd.askResource name).nextCaller = crowd.nextCaller + 1 := by
  obtain ⟨ready, heq⟩ := crowd.callResource_eq name
  rw [askResource, heq]

/-! Whoever asks for a template leaves alone what has to do with resources. -/

@[simp] theorem resourceSide_askTemplate : (crowd.askTemplate name).resourceSide = crowd.resourceSide := by
  obtain ⟨ready, heq⟩ := crowd.callTemplate_eq name
  rw [askTemplate, heq]
  rfl

@[simp] theorem lookups_askTemplate : (crowd.askTemplate name).lookups = crowd.lookups := by
  obtain ⟨ready, heq⟩ := crowd.callTemplate_eq name
  rw [askTemplate, heq]

@[simp] theorem fetches_askTemplate : (crowd.askTemplate name).fetches = crowd.fetches := by
  obtain ⟨ready, heq⟩ := crowd.callTemplate_eq name
  rw [askTemplate, heq]

@[simp] theorem world_askTemplate : (crowd.askTemplate name).world = crowd.world := by
  obtain ⟨ready, heq⟩ := crowd.callTemplate_eq name
  rw [askTemplate, heq]

@[simp] theorem units_askTemplate : (crowd.askTemplate name).units = crowd.units := by
  obtain ⟨ready, heq⟩ := crowd.callTemplate_eq name
  rw [askTemplate, heq]

@[simp] theorem nextCaller_askTemplate : (crowd.askTemplate name).nextCaller = crowd.nextCaller + 1 := by
  obtain ⟨ready, heq⟩ := crowd.callTemplate_eq name
  rw [askTemplate, heq]

theorem calm_askResource : Calm crowd (crowd.askResource name) where
  resources := (crowd.resourceSide_askResource name).symm ▸ Side.kept_call ..
  templates := (crowd.templateSide_askResource name).symm ▸ .refl ..
  lookups := crowd.lookups_askResource name
  stores := congrArg World.stores (crowd.world_askResource name)

theorem calm_askTemplate : Calm crowd (crowd.askTemplate name) where
  resources := (crowd.resourceSide_askTemplate name).symm ▸ .refl ..
  templates := (crowd.templateSide_askTemplate name).symm ▸ Side.kept_call ..
  lookups := crowd.lookups_askTemplate name
  stores := congrArg World.stores (crowd.world_askTemplate name)

end Asking

namespace Sound

theorem leads_askResource (sound : crowd.Sound) (name : String) :
    Leads crowd (crowd.askResource name) := by
  obtain ⟨ready, heq⟩ := crowd.callResource_eq name
  rw [askResource, heq]
  have hfree := (sound.free (Nat.le_refl _)).1
  exact ⟨rfl, Nat.le_succ _, sound.resources.grows_call hfree .start name,
    .refl sound.templates _ _, .refl _⟩

theorem leads_askTemplate (sound : crowd.Sound) (name : String) :
    Leads crowd (crowd.askTemplate name) := by
  obtain ⟨ready, heq⟩ := crowd.callTemplate_eq name
  rw [askTemplate, heq]
  have hfree := (sound.free (Nat.le_refl _)).2
  exact ⟨rfl, Nat.le_succ _, .refl sound.resources _ _,
    sound.templates.grows_call hfree .start name, .refl _⟩

/-- A resource that is there was given by the run that whoever asks is led to. -/
theorem gave_askResource (sound : crowd.Sound) {name : String} {resource : Resource}
    (found : (crowd.resources.cache.lookup name).2.value? = some resource) :
    (crowd.askResource name).resourceSide.Gave name (crowd.resources.cache.flightOf name)
      resource :=
  (sound.leads_askResource name).resources.gave sound.resources (sound.resources.gave found)

/-- A template that is there was given by the run that whoever asks is led to. -/
theorem gave_askTemplate (sound : crowd.Sound) {name : String} {template : LiveTemplate}
    (found : (crowd.templates.cache.lookup name).2.value? = some template) :
    (crowd.askTemplate name).templateSide.Gave name (crowd.templates.cache.flightOf name)
      template :=
  (sound.leads_askTemplate name).templates.gave sound.templates (sound.templates.gave found)

theorem asked_askResource (sound : crowd.Sound) {name : String}
    (missing : (crowd.resources.cache.lookup name).2.value? = none) :
    (crowd.askResource name).resourceSide.Asked crowd.nextCaller name
      (crowd.resources.cache.flightOf name) := by
  rw [resourceSide_askResource]
  exact sound.resources.asked (sound.free (Nat.le_refl _)).1 .start missing

theorem asked_askTemplate (sound : crowd.Sound) {name : String}
    (missing : (crowd.templates.cache.lookup name).2.value? = none) :
    (crowd.askTemplate name).templateSide.Asked crowd.nextCaller name
      (crowd.templates.cache.flightOf name) := by
  rw [templateSide_askTemplate]
  exact sound.templates.asked (sound.free (Nat.le_refl _)).2 .start missing

theorem sole_askResource (sound : crowd.Sound) (name : String) :
    (crowd.askResource name).resourceSide.traffic.cache.Sole name
      (crowd.resources.cache.flightOf name) := by
  rw [resourceSide_askResource]
  exact (sound.resources.led (sound.free (Nat.le_refl _)).1 .start name).2

theorem sole_askTemplate (sound : crowd.Sound) (name : String) :
    (crowd.askTemplate name).templateSide.traffic.cache.Sole name
      (crowd.templates.cache.flightOf name) := by
  rw [templateSide_askTemplate]
  exact (sound.templates.led (sound.free (Nat.le_refl _)).2 .start name).2

/-! ## Other things that are done to the caches -/

theorem leads_receiveResource (sound : crowd.Sound) (caller : Nat) :
    Leads crowd (crowd.receiveResource caller).1 :=
  ⟨rfl, Nat.le_refl _, .of_step sound.resources _ _ (.receive caller) trivial rfl,
    .refl sound.templates _ _, .refl _⟩

theorem leads_receiveTemplate (sound : crowd.Sound) (caller : Nat) :
    Leads crowd (crowd.receiveTemplate caller).1 :=
  ⟨rfl, Nat.le_refl _, .refl sound.resources _ _,
    .of_step sound.templates _ _ (.receive caller) trivial rfl, .refl _⟩

theorem leads_withoutResource (sound : crowd.Sound) (name : String) (fingerprint : Fingerprint) :
    Leads crowd (crowd.withoutResource name fingerprint) :=
  ⟨rfl, Nat.le_refl _,
    .of_step sound.resources _ _
      (.invalidateIf name fun resource => resource.fingerprint = fingerprint) trivial rfl,
    .refl sound.templates _ _, .refl _⟩

theorem leads_withoutSource (sound : crowd.Sound) (name : String) (template : LiveTemplate) :
    Leads crowd (crowd.withoutSource name template) := by
  unfold withoutSource Caches.dropSource
  split
  · next fingerprint _ => exact sound.leads_withoutResource name fingerprint
  · exact sound.leads_self

theorem leads_advanced (sound : crowd.Sound) : Leads crowd crowd.advanced :=
  ⟨rfl, Nat.le_refl _, .refl sound.resources _ _, .refl sound.templates _ _,
    Units.precedes_advance _⟩

theorem leads_without (sound : crowd.Sound) (name : String) : Leads crowd (crowd.without name) :=
  ⟨rfl, Nat.le_refl _, .refl sound.resources _ _,
    .of_step sound.templates _ _ (.invalidate name) trivial rfl, .refl _⟩

theorem leads_sweepResources (sound : crowd.Sound) (part : String → Bool) :
    Leads crowd { crowd with resources := crowd.resources.sweep part } :=
  ⟨rfl, Nat.le_refl _, .of_step sound.resources _ _ (.sweep part) trivial rfl,
    .refl sound.templates _ _, .refl _⟩

theorem leads_sweepTemplates (sound : crowd.Sound) (part : String → Bool) :
    Leads crowd { crowd with templates := crowd.templates.sweep part } :=
  ⟨rfl, Nat.le_refl _, .refl sound.resources _ _,
    .of_step sound.templates _ _ (.sweep part) trivial rfl, .refl _⟩

end Sound

section Calm

variable (crowd : Crowd) (name : String)

theorem calm_receiveResource (caller : Nat) : Calm crowd (crowd.receiveResource caller).1 :=
  ⟨.of_traffic fun flight => crowd.resources.outcome?_receive caller flight, .refl _ _, rfl, rfl⟩

theorem calm_receiveTemplate (caller : Nat) : Calm crowd (crowd.receiveTemplate caller).1 :=
  ⟨.refl _ _, .of_traffic fun flight => crowd.templates.outcome?_receive caller flight, rfl, rfl⟩

/-- Putting other caches in place changes nothing about runs. -/
theorem calm_withCaches (caches : Caches) : Calm crowd (crowd.withCaches caches) :=
  ⟨.of_traffic fun _ => rfl, .of_traffic fun _ => rfl, rfl, rfl⟩

end Calm

end Crowd

end LiveTemplates
