import LiveTemplates.Engine.Operation
import LiveTemplates.Proofs.Engine.Lookup
import LiveTemplates.Proofs.Engine.Session
import LiveTemplates.Proofs.Name.Canonical

set_option autoImplicit false

/-! # Engines that do not reload

Where sources do not change, a template that is cached is given without a look at its source. So an
operation can do little to the caches (`Operation.Updates`): take everything out, or put something
under the name it asks for, and a template is only put where there is none. What this keeps of the
caches is kept by every run (`Session.Steady.run`). -/

namespace LiveTemplates

/-! ## The generation of the units

Only a template that is taken out because its source has changed begins a new generation. -/

namespace Caches

variable (caches : Caches) {workshop : Workshop} (world : World) (name : String)

theorem template_of_fixed (fixed : workshop.reloadable = false) :
    caches.template workshop world name = caches.cachedTemplate workshop world name := by
  unfold template
  generalize caches.cachedTemplate workshop world name = result
  obtain ⟨after, world', outcome⟩ := result
  cases outcome with
  | error e => rfl
  | ok template =>
      dsimp only
      rw [if_neg (by simp [fixed])]

variable (workshop)

theorem units_resource : (caches.resource workshop world name).1.units = caches.units := by
  unfold resource
  dsimp only
  split
  · rfl
  · split <;> rfl
  · split <;> rfl

theorem units_currentResource :
    (caches.currentResource workshop world name).1.units = caches.units := by
  have hfirst := caches.units_resource workshop world name
  unfold currentResource
  generalize caches.resource workshop world name = result at hfirst
  obtain ⟨after, outcome⟩ := result
  cases outcome with
  | error e => exact hfirst
  | ok resource =>
      dsimp only at hfirst ⊢
      split
      · split
        · exact hfirst
        · split
          · exact hfirst
          · exact (units_resource ..).trans hfirst
      · exact hfirst

theorem generation_compile (resource : Resource) :
    (caches.compile workshop world name resource).1.units.generation
      = caches.units.generation := by
  unfold compile
  dsimp only
  split <;> rfl

theorem generation_compileLoose (source : String) :
    (caches.compileLoose workshop world name source).1.units.generation
      = caches.units.generation := by
  unfold compileLoose
  dsimp only
  split <;> rfl

theorem generation_produceTemplate :
    (caches.produceTemplate workshop world name).1.units.generation
      = caches.units.generation := by
  have hunits := caches.units_currentResource workshop world name
  unfold produceTemplate
  generalize caches.currentResource workshop world name = result at hunits
  obtain ⟨after, outcome⟩ := result
  dsimp only at hunits
  rw [← hunits]
  cases outcome with
  | error e => rfl
  | ok resource => exact after.generation_compile workshop world name resource

theorem generation_cachedTemplate :
    (caches.cachedTemplate workshop world name).1.units.generation
      = caches.units.generation := by
  unfold cachedTemplate
  dsimp only
  split
  · rfl
  · exact generation_produceTemplate ..
  · exact generation_produceTemplate ..

end Caches

theorem Engine.generation_of_build {blueprint : Blueprint} {providers : List Provider}
    {number : Nat} {world : World} {engine : Engine}
    (h : blueprint.build providers number world = .ok engine) :
    engine.caches.units.generation = ⟨1⟩ := by
  obtain ⟨symbols, loader, -, hcaches⟩ := Blueprint.engine_of_build h
  rw [hcaches]

theorem Engine.reloadable_of_build {blueprint : Blueprint} {providers : List Provider}
    {number : Nat} {world : World} {engine : Engine}
    (h : blueprint.build providers number world = .ok engine) :
    engine.workshop.reloadable = blueprint.config.reloadable := by
  obtain ⟨symbols, loader, hworkshop, -⟩ := Blueprint.engine_of_build h
  rw [hworkshop]

/-! ## What an operation does to the caches -/

namespace Operation

/-- The spelling of the name that an engine is asked for, if it is asked for one. -/
def spelling? : Operation → Option String
  | .template spelling => some spelling
  | .resource spelling => some spelling
  | .hasResource spelling => some spelling
  | .refresh held => held.name
  | .compileLoose .. | .clear | .insert .. | .insertMarked .. | .remove .. | .change .. => none

/-- An operation asks for a name, in whatever spelling. -/
def AsksFor (operation : Operation) (name : String) : Prop :=
  ∃ spelling, operation.spelling? = some spelling ∧ Name.canonicalOrError spelling = .ok name

/-- What an operation can do to the resources and the templates that are cached in an engine that
does not reload. -/
inductive Updates (operation : Operation) (resources : String → Option Resource)
    (templates : String → Option LiveTemplate) :
    (String → Option Resource) → (String → Option LiveTemplate) → Prop where
  | nothing : Updates operation resources templates resources templates
  | cleared (is : operation = .clear) :
      Updates operation resources templates (fun _ => none) fun _ => none
  | loaded {name : String} (asked : operation.AsksFor name) (kept : Option Resource) :
      Updates operation resources templates (Function.update resources name kept) templates
  | made {name : String} (asked : operation.AsksFor name) (missing : templates name = none)
      (kept : Option Resource) (template : Option LiveTemplate) :
      Updates operation resources templates (Function.update resources name kept)
        (Function.update templates name template)

variable {operation : Operation} {resources resources' : String → Option Resource}
  {templates templates' : String → Option LiveTemplate} {name : String}

/-- A template stays until everything is taken out. -/
theorem Updates.template_stays (updates : operation.Updates resources templates resources' templates')
    (uncleared : operation ≠ .clear) {template : LiveTemplate}
    (cached : templates name = some template) : templates' name = some template := by
  cases updates with
  | nothing => exact cached
  | cleared is => exact absurd is uncleared
  | loaded => exact cached
  | @made other asked missing kept template' =>
      -- a template is only made where there is none, so it is made under another name
      have hne : name ≠ other := by
        rintro rfl
        rw [missing] at cached
        cases cached
      rw [Function.update_of_ne hne]
      exact cached

/-- What is in neither cache comes into one only when it is asked for. -/
theorem Updates.absent_stays (updates : operation.Updates resources templates resources' templates')
    (unasked : ¬ operation.AsksFor name) (absent : resources name = none ∧ templates name = none) :
    resources' name = none ∧ templates' name = none := by
  cases updates with
  | nothing => exact absent
  | cleared => exact ⟨rfl, rfl⟩
  | @loaded other asked kept =>
      have hne : name ≠ other := by
        rintro rfl
        exact unasked asked
      rw [Function.update_of_ne hne]
      exact absent
  | @made other asked missing kept template =>
      have hne : name ≠ other := by
        rintro rfl
        exact unasked asked
      rw [Function.update_of_ne hne, Function.update_of_ne hne]
      exact absent

end Operation

/-! ## Runs -/

namespace Session

/-- An engine does not reload, its units are of this generation, no run is under way in its caches,
and these are the resources and the templates that are there. -/
structure Steady (session : Session) (generation : Generation)
    (resources : String → Option Resource) (templates : String → Option LiveTemplate) : Prop where
  fixed : session.engine.workshop.reloadable = false
  generation_eq : session.engine.caches.units.generation = generation
  caches : session.engine.caches.Shows session.engine.caches.units.directory resources templates

theorem steady_of_isNew {session : Session} (new : session.engine.IsNew)
    (fixed : session.engine.workshop.reloadable = false) :
    session.Steady session.engine.caches.units.generation (fun _ => none) fun _ => none where
  fixed := fixed
  generation_eq := rfl
  caches := by
    refine ⟨⟨rfl, ?_, rfl⟩, ?_⟩
    · rw [new.resources]
      exact SingleFlight.shows_empty
    · rw [new.templates]
      exact SingleFlight.shows_empty

variable {session : Session} {generation : Generation} {resources : String → Option Resource}
  {templates : String → Option LiveTemplate}

theorem Steady.withCaches (steady : session.Steady generation resources templates) {caches : Caches}
    {resources' : String → Option Resource} {templates' : String → Option LiveTemplate}
    (units : caches.units.generation = session.engine.caches.units.generation)
    (shows : caches.Shows session.engine.caches.units.directory resources' templates')
    (world : World) : (session.withCaches caches world).Steady generation resources' templates' where
  fixed := steady.fixed
  generation_eq := units.trans steady.generation_eq
  caches := by
    have hfolder : caches.units.directory = session.engine.caches.units.directory :=
      shows.stocks.folder_eq
    show caches.Shows caches.units.directory resources' templates'
    rw [hfolder]
    exact shows

/-- A lookup gives the template that is cached, or makes one. -/
theorem Steady.template (steady : session.Steady generation resources templates)
    {spelling name : String} (canonical : Name.canonicalOrError spelling = .ok name) :
    (∃ template, templates name = some template ∧ (session.template spelling).2 = .ok template
        ∧ (session.template spelling).1.Steady generation resources templates)
      ∨ templates name = none ∧ ∃ kept ending,
          Produced session.engine.workshop session.engine.caches.units.directory session.world name
            (resources name) kept (session.template spelling).1.world ending
          ∧ (session.template spelling).2 = ending.outcome name
          ∧ (session.template spelling).1.Steady generation (Function.update resources name kept)
              (Function.update templates name ending.value?) := by
  have hlookup := session.engine.caches.template_of_fixed session.world name steady.fixed
  have hunits := session.engine.caches.generation_cachedTemplate session.engine.workshop
    session.world name
  simp only [Session.template, Engine.template, canonical, hlookup]
  obtain ⟨template, hcached, hgiven, hshows⟩ | ⟨hnone, kept, ending, produced, houtcome, hshows⟩ :=
    steady.caches.cachedTemplate session.engine.workshop session.world name
  · exact .inl ⟨template, hcached, congrArg Prod.snd hgiven, steady.withCaches hunits hshows _⟩
  · exact .inr ⟨hnone, kept, ending, produced, houtcome, steady.withCaches hunits hshows _⟩

/-- A lookup of a template is an update under the name that is asked for. -/
theorem Steady.updates_template (steady : session.Steady generation resources templates)
    {operation : Operation} {spelling : String} (asks : operation.spelling? = some spelling) :
    ∃ resources' templates',
      (session.template spelling).1.Steady generation resources' templates'
        ∧ operation.Updates resources templates resources' templates' := by
  cases hname : Name.canonicalOrError spelling with
  | error e =>
      simp only [Session.template, Engine.template, hname]
      exact ⟨_, _, steady, .nothing⟩
  | ok name =>
      obtain ⟨template, -, -, hsteady⟩ | ⟨hnone, kept, ending, -, -, hsteady⟩ :=
        steady.template hname
      · exact ⟨_, _, hsteady, .nothing⟩
      · exact ⟨_, _, hsteady, .made ⟨spelling, asks, hname⟩ hnone kept ending.value?⟩

/-- So is a lookup of a resource. -/
theorem Steady.updates_resource (steady : session.Steady generation resources templates)
    {operation : Operation} {spelling : String} (asks : operation.spelling? = some spelling) :
    ∃ resources' templates',
      Session.Steady { session with engine := (session.engine.resource session.world spelling).1 }
          generation resources' templates'
        ∧ operation.Updates resources templates resources' templates' := by
  unfold Engine.resource
  cases hname : Name.canonicalOrError spelling with
  | error e => exact ⟨_, _, steady, .nothing⟩
  | ok name =>
      have hunits := congrArg Units.generation
        (session.engine.caches.units_resource session.engine.workshop session.world name)
      have hshows := steady.caches.resource session.engine.workshop session.world name
      exact ⟨_, _, steady.withCaches hunits hshows session.world,
        .loaded ⟨spelling, asks, hname⟩ _⟩

/-- What one operation does. -/
theorem Steady.perform (steady : session.Steady generation resources templates)
    (operation : Operation) :
    ∃ resources' templates', (session.perform operation).Steady generation resources' templates'
      ∧ operation.Updates resources templates resources' templates' := by
  -- a world that changes by itself changes nothing in the caches
  have hworld (world : World) : Session.Steady { session with world } generation resources templates :=
    ⟨steady.fixed, steady.generation_eq, steady.caches⟩
  cases operation with
  | template spelling => exact steady.updates_template rfl
  | resource spelling => exact steady.updates_resource rfl
  | hasResource spelling => exact steady.updates_resource rfl
  | refresh template =>
      rw [Session.perform]
      cases hname : template.name with
      | none => exact ⟨_, _, steady, .nothing⟩
      | some name =>
          dsimp only
          split
          · exact steady.updates_template hname
          · exact ⟨_, _, steady, .nothing⟩
  | compileLoose source =>
      have hunits := session.engine.caches.generation_compileLoose session.engine.workshop
        session.world (Engine.inlineName session.engine.nextInline) source
      have hshows := steady.caches.compileLoose session.engine.workshop session.world
        (Engine.inlineName session.engine.nextInline) source
      have hafter := steady.withCaches hunits hshows session.world
      exact ⟨_, _, ⟨hafter.fixed, hafter.generation_eq, hafter.caches⟩, .nothing⟩
  | clear =>
      have hunits : session.engine.caches.clear.units.generation
          = session.engine.caches.units.generation := rfl
      exact ⟨_, _, steady.withCaches hunits steady.caches.clear session.world, .cleared rfl⟩
  | insert index spelling content => exact ⟨_, _, hworld _, .nothing⟩
  | insertMarked index spelling content fingerprint => exact ⟨_, _, hworld _, .nothing⟩
  | remove index spelling => exact ⟨_, _, hworld _, .nothing⟩
  | change alter => exact ⟨_, _, hworld _, .nothing⟩

/-- What each of several operations keeps of the caches, all of them keep. -/
theorem Steady.run (steady : session.Steady generation resources templates)
    (Keeps : (String → Option Resource) → (String → Option LiveTemplate) → Prop)
    (start : Keeps resources templates) (operations : List Operation)
    (step : ∀ operation ∈ operations, ∀ {resources templates resources' templates'},
      operation.Updates resources templates resources' templates' →
        Keeps resources templates → Keeps resources' templates') :
    ∃ resources' templates', (session.run operations).Steady generation resources' templates'
      ∧ Keeps resources' templates' := by
  induction operations generalizing session resources templates with
  | nil => exact ⟨_, _, steady, start⟩
  | cons operation rest ih =>
      obtain ⟨resources', templates', hsteady, updates⟩ := steady.perform operation
      have hkept := step operation List.mem_cons_self updates start
      exact ih hsteady hkept fun next hmem => step next (List.mem_cons_of_mem _ hmem)

/-- An engine that does not reload is steady at any time. -/
theorem steady_run {session : Session} (new : session.engine.IsNew)
    (fixed : session.engine.workshop.reloadable = false) (operations : List Operation) :
    ∃ resources templates, (session.run operations).Steady
      session.engine.caches.units.generation resources templates := by
  obtain ⟨resources, templates, hsteady, -⟩ :=
    (steady_of_isNew new fixed).run (fun _ _ => True) trivial operations
      fun _ _ _ _ _ _ _ _ => trivial
  exact ⟨resources, templates, hsteady⟩

/-- What has been given for a name is cached under it. -/
theorem Steady.cached_of_template (steady : session.Steady generation resources templates)
    {spelling name : String} (canonical : Name.canonicalOrError spelling = .ok name)
    {template : LiveTemplate} (given : (session.template spelling).2 = .ok template) :
    ∃ resources' templates',
      (session.template spelling).1.Steady generation resources' templates'
        ∧ templates' name = some template := by
  obtain ⟨cached, hcached, hgiven, hsteady⟩ | ⟨-, kept, ending, -, hgiven, hsteady⟩ :=
    steady.template canonical
  · rw [given] at hgiven
    cases hgiven
    exact ⟨_, _, hsteady, hcached⟩
  · refine ⟨_, _, hsteady, ?_⟩
    rw [given] at hgiven
    rw [Function.update_self]
    cases ending with
    | value made =>
        cases hgiven
        rfl
    | error e => cases hgiven
    | broken explanation => cases hgiven

/-- What is cached under a name is given for it. -/
theorem Steady.template_of_cached (steady : session.Steady generation resources templates)
    {spelling name : String} (canonical : Name.canonicalOrError spelling = .ok name)
    {template : LiveTemplate} (cached : templates name = some template) :
    (session.template spelling).2 = .ok template := by
  obtain ⟨found, hfound, hgiven, -⟩ | ⟨hnone, -⟩ := steady.template canonical
  · rw [cached] at hfound
    cases hfound
    exact hgiven
  · rw [cached] at hnone
    cases hnone

/-- What has been given for a name is given for every spelling of it, until everything is taken
out. -/
theorem Steady.template_stays (steady : session.Steady generation resources templates)
    {spelling other : String} {template : LiveTemplate} {later : List Operation}
    (given : (session.template spelling).2 = .ok template)
    (uncleared : ∀ operation ∈ later, operation ≠ .clear)
    (same : Name.canonical other = Name.canonical spelling) :
    (((session.template spelling).1.run later).template other).2 = .ok template := by
  cases hname : Name.canonicalOrError spelling with
  | error e => simp [Session.template, Engine.template, hname] at given
  | ok name =>
      have hother : Name.canonicalOrError other = .ok name := by
        rw [Name.canonicalOrError_eq_ok_iff, same]
        exact Name.canonicalOrError_eq_ok_iff.1 hname
      obtain ⟨_, _, hgiven, hcached⟩ := steady.cached_of_template hname given
      obtain ⟨_, _, hlater, hstill⟩ := hgiven.run
        (fun _ templates => templates name = some template) hcached later
        fun operation hmem _ _ _ _ updates => updates.template_stays (uncleared operation hmem)
      exact hlater.template_of_cached hother hstill

/-- Where sources do not change, the first template of a name is the only one. Once it has been
given, it is given for every spelling of the name, whatever becomes of the source and whatever else
the engine is asked, until everything is taken out. All units are of the first generation. -/
theorem first_template_stays (session : Session) (operations : List Operation)
    (new : session.engine.IsNew) (fixed : session.engine.workshop.reloadable = false)
    (first : session.engine.caches.units.generation = ⟨1⟩) :
    let now := session.run operations
    now.engine.caches.units.generation = ⟨1⟩
      ∧ ∀ (spelling other : String) (template : LiveTemplate) (later : List Operation),
          (now.template spelling).2 = .ok template →
          (∀ operation ∈ later, operation ≠ .clear) →
          Name.canonical other = Name.canonical spelling →
            (((now.template spelling).1.run later).template other).2 = .ok template := by
  intro now
  obtain ⟨resources, templates, hnow⟩ := steady_run new fixed operations
  exact ⟨hnow.generation_eq.trans first,
    fun _ _ _ _ given uncleared same => hnow.template_stays given uncleared same⟩

/-- So it is with every engine that is built not to reload. -/
theorem template_stays_of_build {blueprint : Blueprint} {providers : List Provider} {number : Nat}
    {start world : World} {engine : Engine}
    (built : blueprint.build providers number start = .ok engine)
    (fixed : blueprint.config.reloadable = false) (operations : List Operation) :
    let now := Session.run ⟨engine, world⟩ operations
    now.engine.caches.units.generation = ⟨1⟩
      ∧ ∀ {spelling other : String} {template : LiveTemplate} {later : List Operation},
          (now.template spelling).2 = .ok template →
          (∀ operation ∈ later, operation ≠ .clear) →
          Name.canonical other = Name.canonical spelling →
            (((now.template spelling).1.run later).template other).2 = .ok template := by
  intro now
  have new : (Session.mk engine world).engine.IsNew := Engine.isNew_of_build built
  have steadfast := (Engine.reloadable_of_build built).trans fixed
  obtain ⟨resources, templates, hnow⟩ := steady_run new steadfast operations
  exact ⟨hnow.generation_eq.trans (Engine.generation_of_build built), hnow.template_stays⟩

/-- A session over one store whose engine does not reload. -/
def settledStore : Session where
  engine :=
    { config := { reloadable := false }, symbols := {}, kind := "memory"
      workshop :=
        { source := (Loader.memory 0).source, compiler := Compiler.ofSymbols {}
          reloadable := false, engine := 0 }
      caches := { units := { reloadable := false, directory := none } } }
  world := { stores := [{}] }

/-- A source that has been looked up is replaced by one that does not compile, and taken out. -/
def spoiledSource : List Operation :=
  [.insert 0 "a" "\x7b\x7b", .template "./a", .resource "b", .compileLoose "\x7b\x7b", .remove 0 "a"]

theorem template_of_spoiledSource :
    ((((settledStore.run [.insert 0 "a" "old"]).template "a").1.run spoiledSource).template
      "b/../a").2.bind (fun template => template.render .null) = .ok "old" := by
  have hrendered : ((settledStore.run [.insert 0 "a" "old"]).template "a").2.bind
      (fun template => template.render .null) = .ok "old" := by rfl
  cases hgiven : ((settledStore.run [.insert 0 "a" "old"]).template "a").2 with
  | error e =>
      rw [hgiven] at hrendered
      cases hrendered
  | ok template =>
      rw [hgiven] at hrendered
      have hstill := (first_template_stays settledStore [.insert 0 "a" "old"] ⟨rfl, rfl⟩ rfl rfl).2
        "a" "b/../a" template spoiledSource hgiven (by simp [spoiledSource]) (by rfl)
      rw [hstill]
      exact hrendered

end Session

end LiveTemplates
