import LiveTemplates.Proofs.Engine.Afresh
import LiveTemplates.Proofs.Engine.Session

set_option autoImplicit false

/-! # What belongs to an engine

Every template in the cache of an engine, and every template that the engine gives, bears the number
of this engine; and those in the cache bear their names. Nothing that an engine can be asked for
changes that (`Engine.Bears.perform`). -/

namespace LiveTemplates

/-- A template bears a name and the number of an engine. -/
structure LiveTemplate.BelongsTo (template : LiveTemplate) (name : Option String)
    (engine : Nat) : Prop where
  name_eq : template.name = name
  engine_eq : template.engine = engine

theorem LiveTemplate.MadeFrom.belongsTo {template : LiveTemplate} {workshop : Workshop}
    {name : String} {resource : Resource} (made : template.MadeFrom workshop name resource) :
    template.BelongsTo (some name) workshop.engine :=
  ⟨made.name_eq, made.engine_eq⟩

namespace Caches

/-- No run is under way, and the templates that are there belong to this engine. -/
def Belong (caches : Caches) (engine : Nat) : Prop :=
  ∃ folder resources templates, caches.Shows folder resources templates
    ∧ ∀ name template, templates name = some template → template.BelongsTo (some name) engine

variable {caches : Caches} {workshop : Workshop}

theorem Belong.cachedTemplate (h : caches.Belong workshop.engine) (world : World) (name : String) :
    (caches.cachedTemplate workshop world name).1.Belong workshop.engine
      ∧ ∀ template, (caches.cachedTemplate workshop world name).2.2 = .ok template →
        template.BelongsTo (some name) workshop.engine := by
  obtain ⟨folder, resources, templates, hshows, hbelong⟩ := h
  obtain ⟨cached, hcached, hgiven, hafter⟩ | ⟨-, kept, ending, produced, hgiven, hafter⟩ :=
    hshows.cachedTemplate workshop world name
  · refine ⟨⟨folder, resources, templates, hafter, hbelong⟩, fun template htemplate => ?_⟩
    rw [hgiven] at htemplate
    cases htemplate
    exact hbelong name cached hcached
  · have hmade : ∀ template, ending.value? = some template →
        template.BelongsTo (some name) workshop.engine := fun template hvalue => by
      obtain ⟨resource, -, made⟩ := produced.made_of_value hvalue
      exact made.belongsTo
    refine ⟨⟨folder, _, _, hafter, fun other template hother => ?_⟩, fun template htemplate => ?_⟩
    · by_cases hname : other = name
      · subst hname
        rw [Function.update_self] at hother
        exact hmade template hother
      · rw [Function.update_of_ne hname] at hother
        exact hbelong other template hother
    · rw [hgiven] at htemplate
      cases ending with
      | value value =>
          cases htemplate
          exact hmade template rfl
      | error e => cases htemplate
      | broken explanation => cases htemplate

theorem Belong.discard {engine : Nat} (h : caches.Belong engine) (name : String)
    (template : LiveTemplate) : (caches.discard name template).Belong engine := by
  obtain ⟨folder, resources, templates, hshows, hbelong⟩ := h
  refine ⟨folder, _, _, hshows.discard name template, fun other found hfound => ?_⟩
  by_cases hname : other = name
  · subst hname
    rw [Function.update_self] at hfound
    exact hbelong other found (Option.filter_eq_some_iff.1 hfound).1
  · rw [Function.update_of_ne hname] at hfound
    exact hbelong other found hfound

/-- What a lookup gives belongs to the engine, whether it was there, was made, or was made anew. -/
theorem Belong.template (h : caches.Belong workshop.engine) (world : World) (name : String) :
    (caches.template workshop world name).1.Belong workshop.engine
      ∧ ∀ template, (caches.template workshop world name).2.2 = .ok template →
        template.BelongsTo (some name) workshop.engine := by
  have hfirst := h.cachedTemplate world name
  unfold Caches.template
  generalize caches.cachedTemplate workshop world name = result at hfirst
  obtain ⟨after, world', outcome⟩ := result
  obtain ⟨hafter, hgiven⟩ := hfirst
  cases outcome with
  | error e => exact ⟨hafter, nofun⟩
  | ok template =>
      dsimp only at hafter hgiven ⊢
      split
      · split
        · exact ⟨hafter, nofun⟩
        · split
          · exact ⟨hafter, hgiven⟩
          · exact (hafter.discard name template).cachedTemplate world' name
      · exact ⟨hafter, hgiven⟩

theorem Belong.resource {engine : Nat} (h : caches.Belong engine) (workshop : Workshop)
    (world : World) (name : String) : (caches.resource workshop world name).1.Belong engine := by
  obtain ⟨folder, resources, templates, hshows, hbelong⟩ := h
  exact ⟨folder, _, templates, hshows.resource workshop world name, hbelong⟩

/-- A template of a source without a name has no name, and is not in the cache. -/
theorem Belong.compileLoose (h : caches.Belong workshop.engine) (world : World)
    (name source : String) :
    (caches.compileLoose workshop world name source).1.Belong workshop.engine
      ∧ ∀ template, (caches.compileLoose workshop world name source).2.2 = .ok template →
        template.BelongsTo none workshop.engine := by
  obtain ⟨folder, resources, templates, hshows, hbelong⟩ := h
  refine ⟨⟨folder, resources, templates, hshows.compileLoose workshop world name source, hbelong⟩,
    fun template htemplate => ?_⟩
  unfold Caches.compileLoose at htemplate
  dsimp only at htemplate
  split at htemplate
  · cases htemplate
    exact ⟨rfl, rfl⟩
  · cases htemplate
  · cases htemplate

theorem Belong.clear {engine : Nat} (h : caches.Belong engine) : caches.clear.Belong engine := by
  obtain ⟨folder, resources, templates, hshows, -⟩ := h
  exact ⟨folder, _, _, hshows.clear, nofun⟩

end Caches

namespace Engine

/-- An engine bears a number, and so do the templates in its cache. -/
structure Bears (engine : Engine) (number : Nat) : Prop where
  number_eq : engine.number = number
  caches : engine.caches.Belong number

variable {engine : Engine} {number : Nat}

theorem IsNew.bears (new : engine.IsNew) : engine.Bears engine.number where
  number_eq := rfl
  caches := by
    refine ⟨_, fun _ => none, fun _ => none, ⟨⟨rfl, ?_, rfl⟩, ?_⟩, nofun⟩
    · rw [new.resources]
      exact SingleFlight.shows_empty
    · rw [new.templates]
      exact SingleFlight.shows_empty

theorem Bears.template (h : engine.Bears number) (world : World) (spelling : String) :
    (engine.template world spelling).1.Bears number
      ∧ ∀ template, (engine.template world spelling).2.2 = .ok template →
        ∃ name, Name.canonicalOrError spelling = .ok name
          ∧ template.BelongsTo (some name) number := by
  obtain ⟨rfl, hcaches⟩ := h
  unfold Engine.template
  cases hname : Name.canonicalOrError spelling with
  | error e => exact ⟨⟨rfl, hcaches⟩, nofun⟩
  | ok name =>
      obtain ⟨hafter, hgiven⟩ := hcaches.template world name
      exact ⟨⟨rfl, hafter⟩, fun template htemplate => ⟨name, rfl, hgiven template htemplate⟩⟩

theorem Bears.compileLoose (h : engine.Bears number) (world : World) (source : String) :
    (engine.compileLoose world source).1.Bears number
      ∧ ∀ template, (engine.compileLoose world source).2.2 = .ok template →
        template.BelongsTo none number := by
  obtain ⟨rfl, hcaches⟩ := h
  obtain ⟨hafter, hgiven⟩ := hcaches.compileLoose world (inlineName engine.nextInline) source
  exact ⟨⟨rfl, hafter⟩, hgiven⟩

/-- Whatever an engine is asked for, it keeps its number, and so do its templates. -/
theorem Bears.perform (h : engine.Bears number) (world : World) (operation : Operation) :
    (Session.perform ⟨engine, world⟩ operation).engine.Bears number := by
  have hdoes := Session.does_perform ⟨engine, world⟩ operation
  generalize Session.perform ⟨engine, world⟩ operation = after at hdoes
  obtain ⟨rfl, hcaches⟩ := h
  cases hdoes with
  | change => exact ⟨rfl, hcaches⟩
  | @template spelling name canonical => exact ⟨rfl, (hcaches.template world name).1⟩
  | @resource spelling name canonical => exact ⟨rfl, hcaches.resource _ world name⟩
  | loose source => exact (Bears.compileLoose ⟨rfl, hcaches⟩ world source).1
  | clear => exact ⟨rfl, hcaches.clear⟩

end Engine

end LiveTemplates
