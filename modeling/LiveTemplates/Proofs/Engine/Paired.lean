import LiveTemplates.Proofs.Engine.Afresh
import LiveTemplates.Proofs.Engine.Session
import LiveTemplates.Proofs.Name.Canonical
import Mathlib.Data.List.Induction

set_option autoImplicit false

/-! # Every cached template has its source beside it

Both caches are kept under canonical names, what is kept under a name bears that name, and beside a
template there is always the resource that it was compiled from. The two go together: a template is
made from the resource that is cached with it, the resource of a cached template is only taken out
when the template is taken out too, and no resource takes the place of another one. -/

namespace LiveTemplates

/-! ## Loaders name what they load -/

/-- What a source loads under a name bears that name. -/
def Source.Names (source : Source) : Prop :=
  ∀ {world name resource}, source.load world name = .ok (some resource) → resource.name = name

namespace Loader

theorem name_of_loadFile {world : World} {name path : String} {origin : Origin}
    {resource : Resource} (h : loadFile world name path origin = .ok (some resource)) :
    resource.name = name := by
  unfold loadFile at h
  split at h
  · cases h
  · cases h
  · unfold resourceOfFile at h
    split at h
    · cases h
      rfl
    · cases h

mutual

theorem name_of_load {world : World} {name : String} {resource : Resource} :
    (loader : Loader) → loader.load world name = .ok (some resource) → resource.name = name
  | memory store => by
      intro h
      unfold load MemoryStore.load at h
      obtain ⟨stored, -, rfl⟩ := Option.map_eq_some_iff.1 (Except.ok.inj h)
      rfl
  | rooted root => by
      intro h
      unfold load at h
      split at h
      · exact name_of_loadFile h
      · cases h
  | external root => by
      intro h
      unfold load at h
      split at h
      · exact name_of_loadFile h
      · cases h
  | composite loaders => by
      intro h
      unfold load at h
      exact name_of_loadFirst loaders h
  | wholly _ loader => by
      intro h
      unfold load at h
      exact name_of_load loader h

theorem name_of_loadFirst {world : World} {name : String} {resource : Resource} :
    (loaders : List Loader) → loadFirst world name loaders = .ok (some resource) →
      resource.name = name
  | [] => by
      intro h
      unfold loadFirst at h
      cases h
  | loader :: rest => by
      intro h
      unfold loadFirst at h
      split at h
      · exact name_of_loadFirst rest h
      · exact name_of_load loader h

end

theorem names (loader : Loader) : loader.source.Names :=
  fun h => name_of_load loader h

end Loader

namespace Caches

/-- What is in the caches is under its own canonical name, and beside a template there is the resource
that it was made from. -/
structure Paired (workshop : Workshop) (resources : String → Option Resource)
    (templates : String → Option LiveTemplate) : Prop where
  canonical : ∀ {name resource}, resources name = some resource → Name.canonical name = .ok name
  named : ∀ {name resource}, resources name = some resource → resource.name = name
  source : ∀ {name template}, templates name = some template →
    ∃ resource, resources name = some resource ∧ template.MadeFrom workshop name resource

variable {workshop : Workshop} {name : String} {caches : Caches}
  {folder : Option String} {resources : String → Option Resource}
  {templates : String → Option LiveTemplate}

theorem paired_empty (workshop : Workshop) : Paired workshop (fun _ => none) fun _ => none where
  canonical := nofun
  named := nofun
  source := nofun

/-- Where no template is cached, a resource and a template made from it may be put. -/
theorem Paired.update (paired : Paired workshop resources templates)
    (canonical : Name.canonical name = .ok name) {kept : Option Resource}
    {made : Option LiveTemplate} (named : ∀ resource, kept = some resource → resource.name = name)
    (source : ∀ template, made = some template →
      ∃ resource, kept = some resource ∧ template.MadeFrom workshop name resource) :
    Paired workshop (Function.update resources name kept) (Function.update templates name made) where
  canonical {other resource} h := by
    by_cases ho : other = name
    · subst ho
      exact canonical
    · rw [Function.update_of_ne ho] at h
      exact paired.canonical h
  named {other resource} h := by
    by_cases ho : other = name
    · subst ho
      rw [Function.update_self] at h
      exact named resource h
    · rw [Function.update_of_ne ho] at h
      exact paired.named h
  source {other template} h := by
    by_cases ho : other = name
    · subst ho
      rw [Function.update_self] at h ⊢
      exact source template h
    · rw [Function.update_of_ne ho] at h ⊢
      exact paired.source h

/-- A resource may be put where none is cached. -/
theorem Paired.updateResource (paired : Paired workshop resources templates)
    (canonical : Name.canonical name = .ok name) (free : resources name = none)
    {kept : Option Resource} (named : ∀ resource, kept = some resource → resource.name = name) :
    Paired workshop (Function.update resources name kept) templates := by
  have hnone : templates name = none := by
    by_contra hsome
    obtain ⟨template, htemplate⟩ := Option.ne_none_iff_exists'.1 hsome
    obtain ⟨resource, hcached, -⟩ := paired.source htemplate
    rw [free] at hcached
    cases hcached
  rw [← Function.update_eq_self name templates, hnone]
  exact paired.update canonical named nofun

/-- A template that is taken out takes its own resource along, and nothing else. -/
theorem Paired.discard (paired : Paired workshop resources templates) {template : LiveTemplate}
    (cached : templates name = some template) :
    Paired workshop
      (Function.update resources name ((resources name).filter fun resource =>
        !decide (some resource.fingerprint = template.fingerprint)))
      (Function.update templates name
        ((templates name).filter fun other => !template.isSame other)) := by
  obtain ⟨resource, hcached, made⟩ := paired.source cached
  have hresource : (resources name).filter (fun resource =>
      !decide (some resource.fingerprint = template.fingerprint)) = none := by
    simp [hcached, made.fingerprint_eq]
  have htemplate : (templates name).filter (fun other => !template.isSame other) = none := by
    simp [cached]
  rw [hresource, htemplate]
  exact paired.update (paired.canonical hcached) nofun nofun

/-! ## Lookups -/

/-- A lookup of a template leaves the caches paired, and what it gives is cached. -/
theorem Shows.cachedTemplate_paired (h : caches.Shows folder resources templates) (world : World)
    (paired : Paired workshop resources templates) (names : workshop.source.Names)
    (canonical : Name.canonical name = .ok name) :
    ∃ resources' templates',
      (caches.cachedTemplate workshop world name).1.Shows folder resources' templates'
        ∧ Paired workshop resources' templates'
        ∧ ∀ template, (caches.cachedTemplate workshop world name).2.2 = .ok template →
            templates' name = some template := by
  obtain ⟨found, hfound, hgiven, hshows⟩ | ⟨-, kept, ending, produced, houtcome, hshows⟩ :=
    h.cachedTemplate workshop world name
  · refine ⟨_, _, hshows, paired, fun template hok => ?_⟩
    rw [hgiven] at hok
    cases hok
    exact hfound
  · refine ⟨_, _, hshows, paired.update canonical ?_ ?_, fun template hok => ?_⟩
    · intro resource hkept
      obtain hcached | hload := produced.kept_cases hkept
      · exact paired.named hcached
      · exact names hload
    · intro template hvalue
      exact produced.made_of_value hvalue
    · rw [Function.update_self]
      rw [houtcome] at hok
      cases ending with
      | value made =>
          cases hok
          rfl
      | error e => cases hok
      | broken explanation => cases hok

theorem Shows.template_paired (h : caches.Shows folder resources templates) (world : World)
    (paired : Paired workshop resources templates) (names : workshop.source.Names)
    (canonical : Name.canonical name = .ok name) :
    ∃ resources' templates',
      (caches.template workshop world name).1.Shows folder resources' templates'
        ∧ Paired workshop resources' templates'
        ∧ ∀ template, (caches.template workshop world name).2.2 = .ok template →
            templates' name = some template := by
  obtain ⟨resources', templates', hshows, hpaired, hgiven⟩ :=
    h.cachedTemplate_paired world paired names canonical
  unfold Caches.template
  generalize caches.cachedTemplate workshop world name = result at hshows hgiven
  obtain ⟨after, world', outcome⟩ := result
  cases outcome with
  | error e => exact ⟨_, _, hshows, hpaired, nofun⟩
  | ok template =>
      have hcached := hgiven template rfl
      dsimp only
      split
      · split
        · exact ⟨_, _, hshows, hpaired, nofun⟩
        · split
          · exact ⟨_, _, hshows, hpaired, hgiven⟩
          · -- the cached template itself is taken out, so its resource goes with it
            exact (hshows.discard name template).cachedTemplate_paired world' (hpaired.discard hcached)
              names canonical
      · exact ⟨_, _, hshows, hpaired, hgiven⟩

/-- A lookup of a resource leaves the caches paired. -/
theorem Shows.resource_paired (h : caches.Shows folder resources templates) (world : World)
    (paired : Paired workshop resources templates) (names : workshop.source.Names)
    (canonical : Name.canonical name = .ok name) :
    ∃ resources', (caches.resource workshop world name).1.Shows folder resources' templates
      ∧ Paired workshop resources' templates := by
  refine ⟨_, h.resource workshop world name, ?_⟩
  cases hcached : resources name with
  | some resource =>
      have hsame : Function.update resources name (some resource) = resources := by
        rw [← hcached, Function.update_eq_self]
      show Paired workshop (Function.update resources name (some resource)) templates
      rw [hsame]
      exact paired
  | none =>
      refine paired.updateResource canonical hcached fun resource hkept => ?_
      obtain hheld | hload := Workshop.cases_of_atHand hkept
      · cases hheld
      · exact names hload

end Caches

namespace Session

/-- The caches are settled and paired. -/
def Paired (session : Session) : Prop :=
  ∃ folder resources templates, session.engine.caches.Shows folder resources templates
    ∧ Caches.Paired session.engine.workshop resources templates

/-- Every operation leaves the caches paired. -/
theorem Paired.perform {session : Session} (paired : session.Paired)
    (names : session.engine.workshop.source.Names) (operation : Operation) :
    (session.perform operation).Paired := by
  obtain ⟨folder, resources, templates, hshows, hpaired⟩ := paired
  have hdoes := session.does_perform operation
  generalize session.perform operation = after at hdoes
  cases hdoes with
  | change => exact ⟨_, _, _, hshows, hpaired⟩
  | @template spelling name canonical =>
      obtain ⟨resources', templates', hshows', hpaired', -⟩ :=
        hshows.template_paired session.world hpaired names
          (Name.canonical_of_canonicalOrError canonical)
      exact ⟨_, _, _, hshows', hpaired'⟩
  | @resource spelling name canonical =>
      obtain ⟨resources', hshows', hpaired'⟩ :=
        hshows.resource_paired session.world hpaired names
          (Name.canonical_of_canonicalOrError canonical)
      exact ⟨_, _, _, hshows', hpaired'⟩
  | loose source => exact ⟨_, _, _, hshows.compileLoose _ _ _ source, hpaired⟩
  | clear => exact ⟨_, _, _, hshows.clear, Caches.paired_empty _⟩

theorem paired_of_isNew {session : Session} (new : session.engine.IsNew) : session.Paired := by
  refine ⟨_, fun _ => none, fun _ => none, ⟨⟨rfl, ?_, rfl⟩, ?_⟩, Caches.paired_empty _⟩
  · rw [new.resources]
    exact SingleFlight.shows_empty
  · rw [new.templates]
    exact SingleFlight.shows_empty

theorem Paired.run {session : Session} (paired : session.Paired)
    (names : session.engine.workshop.source.Names) (operations : List Operation) :
    (session.run operations).Paired := by
  induction operations generalizing session with
  | nil => exact paired
  | cons operation rest ih =>
      refine ih (paired.perform names operation) ?_
      rw [session.workshop_perform operation]
      exact names

/-- What is given for a name stays beside its source: the resource that is given next, in whatever
world, is the one that the template was made from. -/
theorem Paired.resource_of_template {session : Session} (paired : session.Paired)
    (names : session.engine.workshop.source.Names) {spelling : String} {template : LiveTemplate}
    (given : (session.template spelling).2 = .ok template) (world : World) :
    ∃ name resource, Name.canonicalOrError spelling = .ok name
      ∧ ((session.template spelling).1.engine.resource world spelling).2 = .ok resource
      ∧ resource.name = name ∧ template.MadeFrom session.engine.workshop name resource := by
  obtain ⟨folder, resources, templates, hshows, hpaired⟩ := paired
  unfold Session.template Engine.template at given ⊢
  unfold Engine.resource
  cases hname : Name.canonicalOrError spelling with
  | error e => simp [hname] at given
  | ok name =>
      simp only [hname] at given
      obtain ⟨resources', templates', hshows', hpaired', hcached⟩ :=
        hshows.template_paired session.world hpaired names
          (Name.canonical_of_canonicalOrError hname)
      obtain ⟨resource, hresource, made⟩ := hpaired'.source (hcached template given)
      refine ⟨name, resource, rfl, ?_, hpaired'.named hresource, made⟩
      dsimp only
      rw [(hshows'.stocks.resource session.engine.workshop world name).1, hresource]
      rfl

/-- In an engine as it was built, whatever was asked of it since and whatever became of the world:
the keys of both caches are canonical names, what is kept under a key bears it as its name, and beside
every template is the resource that it was made from, with its mark and its text. So whoever asks for
the resource of a name right after its template is given the very source of that template. -/
theorem cached_beside_source {blueprint : Blueprint} {providers : List Provider} {number : Nat}
    {start : World} {engine : Engine} (built : blueprint.build providers number start = .ok engine)
    (world : World) (operations : List Operation) :
    let now := (Session.mk engine world).run operations
    (∀ key slot, now.engine.caches.resources.slot? key = some slot →
        Name.canonical key = .ok key
          ∧ ∃ flight resource, slot = .ready flight resource ∧ resource.name = key)
      ∧ (∀ key slot, now.engine.caches.templates.slot? key = some slot →
        Name.canonical key = .ok key
          ∧ ∃ flight template, slot = .ready flight template ∧ template.name = some key
            ∧ ∃ loaded resource,
                now.engine.caches.resources.slot? key = some (.ready loaded resource)
                  ∧ template.MadeFrom engine.workshop key resource)
      ∧ ∀ spelling template later, (now.template spelling).2 = .ok template →
          ∃ name resource, Name.canonicalOrError spelling = .ok name
            ∧ ((now.template spelling).1.engine.resource later spelling).2 = .ok resource
            ∧ resource.name = name ∧ template.MadeFrom engine.workshop name resource := by
  intro now
  obtain ⟨symbols, loader, hworkshop, -⟩ := Blueprint.engine_of_build built
  have names : (Session.mk engine world).engine.workshop.source.Names := by
    rw [hworkshop]
    exact loader.names
  have new : (Session.mk engine world).Paired := paired_of_isNew (Engine.isNew_of_build built)
  have sound : now.Paired := new.run names operations
  have hsame : now.engine.workshop = engine.workshop :=
    (Session.mk engine world).workshop_run operations
  have hgiven := fun (spelling : String) (template : LiveTemplate) (later : World) given =>
    sound.resource_of_template (hsame.symm ▸ names) (given : (now.template spelling).2 = .ok template)
      later
  rw [hsame] at hgiven
  obtain ⟨folder, resources, templates, hshows, hpaired⟩ := sound
  rw [hsame] at hpaired
  refine ⟨?_, ?_, hgiven⟩
  · intro key slot hslot
    obtain ⟨hnone, -⟩ | ⟨flight, resource, hready, hresource⟩ := hshows.stocks.resources.slot? key
    · rw [hslot] at hnone
      cases hnone
    · rw [hslot] at hready
      cases hready
      exact ⟨hpaired.canonical hresource, flight, resource, rfl, hpaired.named hresource⟩
  · intro key slot hslot
    obtain ⟨hnone, -⟩ | ⟨flight, template, hready, htemplate⟩ := hshows.templates.slot? key
    · rw [hslot] at hnone
      cases hnone
    · rw [hslot] at hready
      cases hready
      obtain ⟨resource, hresource, made⟩ := hpaired.source htemplate
      obtain ⟨loaded, hloaded⟩ := hshows.stocks.resources.slot?_of_some hresource
      exact ⟨hpaired.canonical hresource, flight, template, rfl, made.name_eq, loaded, resource,
        hloaded, made⟩

/-- An engine over a store in memory, with a compiler whose templates print their source. -/
def printing : Blueprint where
  config := { reloadable := true }
  loader := some (.memory 0)
  compiler _ _ text := .program fun _ => .ok text

/-- The engine as it is built. -/
def printingEngine : Engine where
  config := { reloadable := true }
  symbols := {}
  kind := "memory"
  workshop :=
    { source := (Loader.memory 0).source, compiler := fun _ text => .program fun _ => .ok text
      reloadable := true, engine := 0 }
  caches := { units := { reloadable := true, directory := none } }

theorem build_printing : printing.build [] 0 {} = .ok printingEngine := by
  refine Blueprint.build_eq_ok_iff.2 ⟨{}, .memory 0, rfl, ?_, rfl⟩
  show (Loader.memory 0).prepare {} "." "utf-8" = _
  rw [Loader.prepare, Encoding.check_utf8]
  rfl

/-- A source is replaced after it was looked up, and asked for without its template. -/
def replacedSource : List Operation :=
  [.insert 0 "a/b" "old", .template "a/b", .insert 0 "a/b" "new", .resource "./a/b"]

theorem resource_of_replacedSource :
    ∃ template resource,
      (((Session.mk printingEngine { stores := [{}] }).run replacedSource).template "a\\b").2
          = .ok template
        ∧ resource.name = "/a/b"
        ∧ template.MadeFrom printingEngine.workshop "/a/b" resource := by
  have hgiven : ((((Session.mk printingEngine { stores := [{}] }).run replacedSource).template
      "a\\b").2).isOk = true := by rfl
  have hname : Name.canonicalOrError "a\\b" = .ok "/a/b" := by rfl
  cases htemplate : (((Session.mk printingEngine { stores := [{}] }).run replacedSource).template
      "a\\b").2 with
  | error e => simp [htemplate, Except.isOk, Except.toBool] at hgiven
  | ok template =>
      obtain ⟨name, resource, hcanonical, -, hnamed, made⟩ :=
        (cached_beside_source build_printing { stores := [{}] } replacedSource).2.2 "a\\b" template
          {} htemplate
      rw [hname] at hcanonical
      cases hcanonical
      exact ⟨template, resource, rfl, hnamed, made⟩

end Session

end LiveTemplates
