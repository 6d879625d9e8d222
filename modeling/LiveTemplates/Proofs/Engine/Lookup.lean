import LiveTemplates.Engine.Caches
import LiveTemplates.Proofs.Cache.Settled

set_option autoImplicit false

/-! # What lookups do to settled caches

One operation follows the other, so between them both caches are settled and can be described by
the values they show. Each part of a lookup is described here once: by what it gives, and by the
values that the caches show afterwards. -/

namespace LiveTemplates

/-! ## Relations between a lookup and its outcome -/

/-- The resource under a name for whoever has a cached one, or none. -/
def Workshop.atHand (workshop : Workshop) (world : World) (name : String)
    (cached : Option Resource) : Except TemplateError Resource :=
  match cached with
  | some resource => .ok resource
  | none => workshop.produceResource world name

/-- A template was made under a name from a resource. -/
structure LiveTemplate.MadeFrom (template : LiveTemplate) (workshop : Workshop) (name : String)
    (resource : Resource) : Prop where
  name_eq : template.name = some name
  fingerprint_eq : template.fingerprint = some resource.fingerprint
  source_eq : template.source = resource.content
  engine_eq : template.engine = workshop.engine
  unit_name : template.unit.name = name
  compiled : workshop.compiler name resource.content = .program template.unit.program

/-- How a resource is taken to make a template from it: the resource that was cached, the one that
is cached afterwards, and the outcome. -/
inductive Fetched (workshop : Workshop) (world : World) (name : String) (cached : Option Resource) :
    Option Resource → Except TemplateError Resource → Prop where
  | missing {e} (outcome : workshop.atHand world name cached = .error e) :
      Fetched workshop world name cached none (.error e)
  | current {resource} (outcome : workshop.atHand world name cached = .ok resource)
      (fresh : workshop.reloadable = true →
        workshop.source.fingerprint world name = .ok (some resource.fingerprint)) :
      Fetched workshop world name cached (some resource) (.ok resource)
  | unmarked {resource e} (outcome : workshop.atHand world name cached = .ok resource)
      (reloadable : workshop.reloadable = true)
      (mark : workshop.source.fingerprint world name = .error e) :
      Fetched workshop world name cached (some resource) (.error e)
  | reloaded {resource mark} (outcome : workshop.atHand world name cached = .ok resource)
      (reloadable : workshop.reloadable = true)
      (mark_eq : workshop.source.fingerprint world name = .ok mark)
      (stale : mark ≠ some resource.fingerprint) :
      Fetched workshop world name cached (workshop.produceResource world name).toOption
        (workshop.produceResource world name)

/-- A resource that is taken is the one that is cached afterwards. -/
theorem Fetched.kept_of_ok {workshop : Workshop} {world : World} {name : String}
    {cached kept : Option Resource} {resource : Resource}
    (fetched : Fetched workshop world name cached kept (.ok resource)) : kept = some resource := by
  generalize houtcome : Except.ok resource = outcome at fetched
  cases fetched with
  | missing => cases houtcome
  | current => cases houtcome; rfl
  | unmarked => cases houtcome
  | reloaded => rw [← houtcome]; rfl

/-- How a template is made: the resource that was cached, the one that is cached afterwards, the
world afterwards, and how the run ends. Copies are written to a folder. -/
inductive Produced (workshop : Workshop) (folder : Option String) (world : World) (name : String)
    (cached : Option Resource) :
    Option Resource → World → Ending LiveTemplate TemplateError → Prop where
  | unfetched {kept e} (fetched : Fetched workshop world name cached kept (.error e)) :
      Produced workshop folder world name cached kept world (.error e)
  | made {resource template} {units : Units}
      (fetched : Fetched workshop world name cached (some resource) (.ok resource))
      (made : template.MadeFrom workshop name resource) (copies : units.directory = folder) :
      Produced workshop folder world name cached (some resource)
        (units.persist template.unit resource.content world) (.value template)
  | rejected {resource e}
      (fetched : Fetched workshop world name cached (some resource) (.ok resource))
      (fault : workshop.compiler name resource.content = .rejected e) :
      Produced workshop folder world name cached none world (.error e)
  | broken {resource explanation}
      (fetched : Fetched workshop world name cached (some resource) (.ok resource))
      (fault : workshop.compiler name resource.content = .broken explanation) :
      Produced workshop folder world name cached (some resource) world (.broken (some explanation))

namespace Caches

/-- No resource is being loaded, these are the resources that are there, copies are written to this
folder, and this is the cache of the templates, in which a run may be under way. -/
structure Stocks (caches : Caches) (folder : Option String) (resources : String → Option Resource)
    (templates : SingleFlight String LiveTemplate) : Prop where
  folder_eq : caches.units.directory = folder
  resources : caches.resources.Shows resources
  templates_eq : caches.templates = templates

/-- No run is under way, these are the resources and the templates that are there, and copies are
written to this folder. -/
structure Shows (caches : Caches) (folder : Option String) (resources : String → Option Resource)
    (templates : String → Option LiveTemplate) : Prop where
  stocks : caches.Stocks folder resources caches.templates
  templates : caches.templates.Shows templates

variable {caches : Caches} {folder : Option String} {resources : String → Option Resource}

section Resources

variable {templates : SingleFlight String LiveTemplate}

/-! ## Resources -/

theorem Stocks.dropResource (h : caches.Stocks folder resources templates) (name : String)
    (fingerprint : Fingerprint) :
    (caches.dropResource name fingerprint).1.Stocks folder
      (Function.update resources name
        ((resources name).filter fun resource => !decide (resource.fingerprint = fingerprint)))
      templates where
  folder_eq := h.folder_eq
  resources := h.resources.invalidateIf name _
  templates_eq := h.templates_eq

theorem Stocks.dropResource_of_some (h : caches.Stocks folder resources templates) {name : String}
    {resource : Resource} (hcached : resources name = some resource) :
    (caches.dropResource name resource.fingerprint).1.Stocks folder
      (Function.update resources name none) templates := by
  have hdropped := h.dropResource name resource.fingerprint
  rwa [hcached, Option.filter_some, decide_eq_true rfl] at hdropped

/-- The resource that is there is given, or else the source is loaded; what has been given is there
afterwards. -/
theorem Stocks.resource (h : caches.Stocks folder resources templates) (workshop : Workshop)
    (world : World) (name : String) :
    (caches.resource workshop world name).2 = workshop.atHand world name (resources name)
      ∧ (caches.resource workshop world name).1.Stocks folder
          (Function.update resources name
            (workshop.atHand world name (resources name)).toOption) templates := by
  unfold Caches.resource Workshop.atHand
  cases hcached : resources name with
  | some resource =>
      obtain ⟨hfound, hshows⟩ := h.resources.lookup_of_some hcached
      have hsame : Function.update resources name (some resource) = resources := by
        rw [← hcached, Function.update_eq_self]
      simp only [hfound, Except.toOption, hsame]
      exact ⟨trivial, h.folder_eq, hshows, h.templates_eq⟩
  | none =>
      have hfound := h.resources.lookup_of_none hcached
      have hsame : Function.update resources name none = resources := by
        rw [← hcached, Function.update_eq_self]
      cases hload : workshop.produceResource world name with
      | ok resource =>
          simp only [hfound, Except.toOption]
          exact ⟨trivial, h.folder_eq, h.resources.succeed hcached resource, h.templates_eq⟩
      | error e =>
          simp only [hfound, Except.toOption, hsame]
          exact ⟨trivial, h.folder_eq, h.resources.fail hcached, h.templates_eq⟩

/-- Where sources may change, a resource that bears another mark than its source is taken out and
loaded anew. -/
theorem Stocks.currentResource (h : caches.Stocks folder resources templates) (workshop : Workshop)
    (world : World) (name : String) :
    ∃ kept, Fetched workshop world name (resources name) kept
        (caches.currentResource workshop world name).2
      ∧ (caches.currentResource workshop world name).1.Stocks folder
          (Function.update resources name kept) templates := by
  obtain ⟨houtcome, hshows⟩ := h.resource workshop world name
  unfold Caches.currentResource
  generalize hresult : caches.resource workshop world name = result at houtcome hshows
  obtain ⟨after, outcome⟩ := result
  dsimp only at houtcome hshows
  subst houtcome
  cases hhand : workshop.atHand world name (resources name) with
  | error e =>
      rw [hhand] at hshows
      exact ⟨none, .missing hhand, hshows⟩
  | ok resource =>
      rw [hhand] at hshows
      dsimp only
      split
      · next reloadable =>
          cases hmark : workshop.source.fingerprint world name with
          | error e => exact ⟨some resource, .unmarked hhand reloadable hmark, hshows⟩
          | ok mark =>
              dsimp only
              split
              · next hsame =>
                  exact ⟨some resource, .current hhand fun _ => hsame ▸ hmark, hshows⟩
              · next hstale =>
                  -- the resource is taken out, so the second lookup loads
                  have hdropped := hshows.dropResource_of_some (Function.update_self ..)
                  rw [Function.update_idem] at hdropped
                  obtain ⟨hagain, hshown⟩ := hdropped.resource workshop world name
                  have hnone : workshop.atHand world name (Function.update resources name none name)
                      = workshop.produceResource world name := by
                    rw [Function.update_self]
                    rfl
                  rw [hnone] at hagain hshown
                  rw [Function.update_idem] at hshown
                  rw [hagain]
                  exact ⟨_, .reloaded hhand reloadable hmark hstale, hshown⟩
      · next fixed =>
          exact ⟨some resource, .current hhand fun reloadable => absurd reloadable fixed, hshows⟩

/-! ## Making a template -/

/-- A resource that is there is compiled, and taken out if it does not compile. -/
theorem Stocks.compile (h : caches.Stocks folder resources templates) (workshop : Workshop)
    (world : World) {name : String} {cached : Option Resource} {resource : Resource}
    (hcached : resources name = some resource)
    (fetched : Fetched workshop world name cached (some resource) (.ok resource)) :
    ∃ kept, Produced workshop folder world name cached kept
        (caches.compile workshop world name resource).2.1
        (caches.compile workshop world name resource).2.2
      ∧ (caches.compile workshop world name resource).1.Stocks folder
          (Function.update resources name kept) templates := by
  have hsame : Function.update resources name (some resource) = resources := by
    rw [← hcached, Function.update_eq_self]
  unfold Caches.compile
  cases hcompiled : workshop.compiler name resource.content with
  | program program =>
      have hfolder : (caches.units.define name program).1.directory = folder := h.folder_eq
      have hname : (caches.units.define name program).2.name = name := rfl
      have hprogram : (caches.units.define name program).2.program = program := rfl
      dsimp only
      generalize caches.units.define name program = defined at hfolder hname hprogram
      obtain ⟨units, unit⟩ := defined
      let template : LiveTemplate :=
        { name := some name, unit, fingerprint := some resource.fingerprint
          source := resource.content, engine := workshop.engine }
      have hmade : template.MadeFrom workshop name resource :=
        ⟨rfl, rfl, rfl, rfl, hname, hprogram ▸ hcompiled⟩
      have hproduced := Produced.made fetched hmade hfolder
      refine ⟨some resource, hproduced, ?_⟩
      rw [hsame]
      exact ⟨hfolder, h.resources, h.templates_eq⟩
  | rejected e =>
      refine ⟨none, .rejected fetched hcompiled, ?_⟩
      have hcounted : { caches with compilations := caches.compilations + 1 }.Stocks folder
          resources templates := ⟨h.folder_eq, h.resources, h.templates_eq⟩
      exact hcounted.dropResource_of_some hcached
  | broken explanation =>
      refine ⟨some resource, .broken fetched hcompiled, ?_⟩
      rw [hsame]
      exact ⟨h.folder_eq, h.resources, h.templates_eq⟩

theorem Stocks.produceTemplate (h : caches.Stocks folder resources templates) (workshop : Workshop)
    (world : World) (name : String) :
    ∃ kept, Produced workshop folder world name (resources name) kept
        (caches.produceTemplate workshop world name).2.1
        (caches.produceTemplate workshop world name).2.2
      ∧ (caches.produceTemplate workshop world name).1.Stocks folder
          (Function.update resources name kept) templates := by
  obtain ⟨held, hfetched, hstocks⟩ := h.currentResource workshop world name
  unfold Caches.produceTemplate
  generalize caches.currentResource workshop world name = result at hfetched hstocks
  obtain ⟨after, outcome⟩ := result
  dsimp only at hfetched hstocks
  cases outcome with
  | error e => exact ⟨held, .unfetched hfetched, hstocks⟩
  | ok resource =>
      obtain rfl := hfetched.kept_of_ok
      obtain ⟨kept, hproduced, hcompiled⟩ :=
        hstocks.compile workshop world (Function.update_self ..) hfetched
      rw [Function.update_idem] at hcompiled
      exact ⟨kept, hproduced, hcompiled⟩

end Resources

variable {templates : String → Option LiveTemplate}

theorem Stocks.shows {cache : SingleFlight String LiveTemplate}
    (h : caches.Stocks folder resources cache) (hshows : cache.Shows templates) :
    caches.Shows folder resources templates where
  stocks := ⟨h.folder_eq, h.resources, rfl⟩
  templates := h.templates_eq ▸ hshows

theorem Shows.resource (h : caches.Shows folder resources templates) (workshop : Workshop)
    (world : World) (name : String) :
    (caches.resource workshop world name).1.Shows folder
      (Function.update resources name (workshop.atHand world name (resources name)).toOption)
      templates :=
  (h.stocks.resource workshop world name).2.shows h.templates

/-- A source without a name goes past the caches. -/
theorem Shows.compileLoose (h : caches.Shows folder resources templates) (workshop : Workshop)
    (world : World) (name source : String) :
    (caches.compileLoose workshop world name source).1.Shows folder resources templates := by
  unfold Caches.compileLoose
  dsimp only
  split <;> exact ⟨⟨h.stocks.folder_eq, h.stocks.resources, rfl⟩, h.templates⟩

/-- A run that lands changes the template of its own name only. -/
theorem Stocks.landTemplate {cache : SingleFlight String LiveTemplate} {name : String}
    (h : caches.Stocks folder resources (cache.lookup name).1) (hshows : cache.Shows templates)
    (hnone : templates name = none) (ending : Ending LiveTemplate TemplateError) :
    (caches.landTemplate name cache.nextFlight ending).1.Shows folder resources
      (Function.update templates name ending.value?) := by
  have hsame : Function.update templates name none = templates := by
    rw [← hnone, Function.update_eq_self]
  refine ⟨⟨h.folder_eq, h.resources, rfl⟩, ?_⟩
  unfold Caches.landTemplate
  rw [h.templates_eq]
  cases ending with
  | value template => exact hshows.succeed hnone template
  | error e =>
      show (SingleFlight.fail _ _ _).Shows (Function.update templates name none)
      exact hsame.symm ▸ hshows.fail hnone
  | broken explanation =>
      show (SingleFlight.dropFlight _ _ _).Shows (Function.update templates name none)
      exact hsame.symm ▸ hshows.dropFlight hnone

/-- The template that is there is given, or else one is made; what has been given is there
afterwards. -/
theorem Shows.cachedTemplate (h : caches.Shows folder resources templates) (workshop : Workshop)
    (world : World) (name : String) :
    (∃ template, templates name = some template
        ∧ (caches.cachedTemplate workshop world name).2 = (world, .ok template)
        ∧ (caches.cachedTemplate workshop world name).1.Shows folder resources templates)
      ∨ templates name = none ∧ ∃ kept ending,
          Produced workshop folder world name (resources name) kept
            (caches.cachedTemplate workshop world name).2.1 ending
          ∧ (caches.cachedTemplate workshop world name).2.2 = ending.outcome name
          ∧ (caches.cachedTemplate workshop world name).1.Shows folder
              (Function.update resources name kept)
              (Function.update templates name ending.value?) := by
  cases hcached : templates name with
  | some template =>
      obtain ⟨hfound, hshows⟩ := h.templates.lookup_of_some hcached
      refine .inl ⟨template, rfl, ?_, ?_⟩
      · simp only [Caches.cachedTemplate, hfound]
      · simp only [Caches.cachedTemplate, hfound]
        exact ⟨⟨h.stocks.folder_eq, h.stocks.resources, rfl⟩, hshows⟩
  | none =>
      have hfound := h.templates.lookup_of_none hcached
      -- the entry is pending while the run is carried out, so only the resources are settled
      have hlaunched : { caches with templates := (caches.templates.lookup name).1 }.Stocks folder
          resources (caches.templates.lookup name).1 :=
        ⟨h.stocks.folder_eq, h.stocks.resources, rfl⟩
      obtain ⟨kept, hproduced, hstocks⟩ := hlaunched.produceTemplate workshop world name
      simp only [Caches.cachedTemplate, hfound]
      generalize { caches with templates := (caches.templates.lookup name).1 }.produceTemplate
        workshop world name = result at hproduced hstocks
      obtain ⟨after, world', ending⟩ := result
      exact .inr ⟨trivial, kept, ending, hproduced, rfl,
        hstocks.landTemplate h.templates hcached ending⟩

/-! ## Taking a template out -/

theorem Shows.dropSource (h : caches.Shows folder resources templates) (name : String)
    (template : LiveTemplate) :
    (caches.dropSource name template).Shows folder
      (Function.update resources name ((resources name).filter fun resource =>
        !decide (some resource.fingerprint = template.fingerprint))) templates := by
  unfold Caches.dropSource
  cases template.fingerprint with
  | none =>
      have hsame : ((resources name).filter fun resource =>
          !decide (some resource.fingerprint = none)) = resources name := by
        cases resources name <;> rfl
      rw [hsame, Function.update_eq_self]
      exact h
  | some fingerprint =>
      simp only [Option.some.injEq]
      exact (h.stocks.dropResource name fingerprint).shows h.templates

theorem Shows.evict (h : caches.Shows folder resources templates) (name : String)
    (template : LiveTemplate) :
    (caches.evict name template).Shows folder resources
      (Function.update templates name
        ((templates name).filter fun other => !template.isSame other)) := by
  rw [Caches.evict_eq]
  refine ⟨⟨?_, h.stocks.resources, rfl⟩, h.templates.invalidateIf name template.isSame⟩
  rw [← h.stocks.folder_eq]
  dsimp only
  split
  · exact caches.units.directory_advance
  · rfl

/-- A template that is taken out takes along the resource that it was made from. -/
theorem Shows.discard (h : caches.Shows folder resources templates) (name : String)
    (template : LiveTemplate) :
    (caches.discard name template).Shows folder
      (Function.update resources name ((resources name).filter fun resource =>
        !decide (some resource.fingerprint = template.fingerprint)))
      (Function.update templates name
        ((templates name).filter fun other => !template.isSame other)) :=
  (h.dropSource name template).evict name template

theorem Shows.clear (h : caches.Shows folder resources templates) :
    caches.clear.Shows folder (fun _ => none) fun _ => none :=
  ⟨⟨h.stocks.folder_eq, SingleFlight.shows_clear _, rfl⟩, SingleFlight.shows_clear _⟩

end Caches

end LiveTemplates
