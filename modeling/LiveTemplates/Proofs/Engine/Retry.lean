import LiveTemplates.Proofs.Engine.Afresh
import LiveTemplates.Proofs.Engine.Steady

set_option autoImplicit false

/-! # Failed lookups

In an engine that does not reload a lookup that fails leaves nothing behind under its name: what
could not be loaded is not cached, and a cached resource that does not compile is taken out
(`Produced.forgotten`). So the next lookup of the name is the first one again, and comes to what it
would come to in a new engine. A breakdown of the compiler is another matter: it says nothing about
the source, which stays cached. -/

namespace LiveTemplates

/-- An error is what a breakdown of the compiler comes to. -/
def Workshop.IsBreakdown (workshop : Workshop) (e : TemplateError) : Prop :=
  ∃ name text explanation, workshop.compiler name text = .broken explanation
    ∧ e = .producerAborted name (some explanation)

theorem Compiler.ofSymbols_ne_broken (symbols : SymbolTable) (name text explanation : String) :
    Compiler.ofSymbols symbols name text ≠ .broken explanation := by
  unfold Compiler.ofSymbols
  cases Program.ofSource symbols name text <;> exact nofun

/-- In an engine as it is built no error is a breakdown of the compiler. -/
theorem Engine.not_isBreakdown_of_build {blueprint : Blueprint} {providers : List Provider}
    {number : Nat} {start : World} {engine : Engine}
    (h : blueprint.build providers number start = .ok engine)
    (compiler : blueprint.compiler = Compiler.ofSymbols) (e : TemplateError) :
    ¬ engine.workshop.IsBreakdown e := by
  obtain ⟨symbols, loader, hworkshop, -⟩ := Blueprint.engine_of_build h
  rintro ⟨name, text, explanation, hbroken, -⟩
  rw [hworkshop, compiler] at hbroken
  exact Compiler.ofSymbols_ne_broken symbols name text explanation hbroken

variable {workshop : Workshop} {world : World} {name : String}

/-! ## One lookup -/

/-- Where sources do not change, what cannot be taken is not cached. -/
theorem Fetched.kept_of_error {cached kept : Option Resource} {e : TemplateError}
    (fetched : Fetched workshop world name cached kept (.error e))
    (fixed : workshop.reloadable = false) : kept = none := by
  generalize houtcome : Except.error e = outcome at fetched
  cases fetched with
  | missing => rfl
  | current => cases houtcome
  | unmarked _ reloadable =>
      rw [fixed] at reloadable
      cases reloadable
  | reloaded _ reloadable =>
      rw [fixed] at reloadable
      cases reloadable

/-- Where sources do not change and none is cached, the source is loaded. -/
theorem Fetched.eq_produceResource {kept : Option Resource} {outcome : Except TemplateError Resource}
    (fetched : Fetched workshop world name none kept outcome)
    (fixed : workshop.reloadable = false) : workshop.produceResource world name = outcome := by
  cases fetched with
  | missing outcome => exact outcome
  | current outcome => exact outcome
  | unmarked _ reloadable =>
      rw [fixed] at reloadable
      cases reloadable
  | reloaded => rfl

/-- A failure leaves neither a resource nor a template. -/
theorem Produced.forgotten {folder : Option String} {after : World} {cached kept : Option Resource}
    {ending : Ending LiveTemplate TemplateError} {e : TemplateError}
    (produced : Produced workshop folder world name cached kept after ending)
    (fixed : workshop.reloadable = false) (failed : ending.outcome name = .error e)
    (unbroken : ¬ workshop.IsBreakdown e) : kept = none ∧ ending.value? = none := by
  cases produced with
  | unfetched fetched => exact ⟨fetched.kept_of_error fixed, rfl⟩
  | made => cases failed
  | rejected => exact ⟨rfl, rfl⟩
  | @broken resource explanation fetched fault =>
      cases failed
      exact absurd ⟨name, resource.content, explanation, fault, rfl⟩ unbroken

/-- A template whose source is not cached is made as it would be without caches. -/
theorem Produced.afresh_of_uncached {folder : Option String} {after : World}
    {kept : Option Resource} {ending : Ending LiveTemplate TemplateError}
    (produced : Produced workshop folder world name none kept after ending)
    (fixed : workshop.reloadable = false) :
    (ending.outcome name).map LiveTemplate.sight = workshop.afresh world name := by
  obtain ⟨held, e, fetched, hfailed⟩ | ⟨resource, fetched, hcompiled⟩ := produced.cases_of_fetched
  · have hproduced := fetched.eq_produceResource fixed
    rw [hfailed, Workshop.afresh_of_produceResource_error hproduced]
  · have hload := Workshop.produceResource_eq_ok_iff.1 (fetched.eq_produceResource fixed)
    rw [hcompiled, Workshop.afresh_of_load hload]

/-! ## Sessions -/

namespace Session

variable {session : Session} {generation : Generation} {resources : String → Option Resource}
  {templates : String → Option LiveTemplate}

/-- After a failed lookup nothing is cached under its name. -/
theorem Steady.absent_of_failure (steady : session.Steady generation resources templates)
    {spelling : String} (canonical : Name.canonicalOrError spelling = .ok name) {e : TemplateError}
    (failed : (session.template spelling).2 = .error e)
    (unbroken : ¬ session.engine.workshop.IsBreakdown e) :
    ∃ resources' templates',
      (session.template spelling).1.Steady generation resources' templates'
        ∧ resources' name = none ∧ templates' name = none := by
  obtain ⟨cached, -, hgiven, -⟩ | ⟨-, kept, ending, produced, hgiven, hsteady⟩ :=
    steady.template canonical
  · rw [failed] at hgiven
    cases hgiven
  · rw [failed] at hgiven
    obtain ⟨hkept, hvalue⟩ := produced.forgotten steady.fixed hgiven.symm unbroken
    refine ⟨_, _, hsteady, ?_, ?_⟩
    · rw [Function.update_self, hkept]
    · rw [Function.update_self, hvalue]

/-- Where nothing is cached, a lookup gives what it would give without caches. -/
theorem Steady.template_of_absent (steady : session.Steady generation resources templates)
    {spelling : String} (canonical : Name.canonicalOrError spelling = .ok name)
    (absent : resources name = none ∧ templates name = none) :
    (session.template spelling).2.map LiveTemplate.sight
      = session.engine.workshop.afresh session.world name := by
  obtain ⟨cached, hcached, -⟩ | ⟨-, kept, ending, produced, hgiven, -⟩ := steady.template canonical
  · rw [absent.2] at hcached
    cases hcached
  · rw [absent.1] at produced
    rw [hgiven]
    exact produced.afresh_of_uncached steady.fixed

/-- A new engine gives what there would be without caches. -/
theorem template_of_isNew (new : session.engine.IsNew)
    (fixed : session.engine.workshop.reloadable = false) (spelling : String) :
    (session.template spelling).2.map LiveTemplate.sight
      = (Name.canonicalOrError spelling).bind (session.engine.workshop.afresh session.world) := by
  cases hname : Name.canonicalOrError spelling with
  | error e =>
      rw [session.template_of_invalid hname]
      rfl
  | ok name => exact (steady_of_isNew new fixed).template_of_absent hname ⟨rfl, rfl⟩

/-- After a failed lookup nothing is cached under its name, and unless the engine is asked for that
name, the next lookup gives what there would be without caches. -/
theorem Steady.retry (steady : session.Steady generation resources templates)
    {spelling other : String} (canonical : Name.canonicalOrError spelling = .ok name)
    {e : TemplateError} (failed : (session.template spelling).2 = .error e)
    (unbroken : ¬ session.engine.workshop.IsBreakdown e) {later : List Operation}
    (unasked : ∀ operation ∈ later, ¬ operation.AsksFor name)
    (same : Name.canonicalOrError other = .ok name) :
    let failure := (session.template spelling).1
    let now := failure.run later
    (failure.engine.caches.resources.slot? name = none
        ∧ failure.engine.caches.templates.slot? name = none)
      ∧ (now.template other).2.map LiveTemplate.sight
        = session.engine.workshop.afresh now.world name := by
  intro failure now
  have hworkshop : now.engine.workshop = session.engine.workshop := by
    rw [workshop_run, workshop_template]
  -- what the failed lookup leaves, and what is left of it later
  obtain ⟨_, _, hfailure, habsent⟩ := steady.absent_of_failure canonical failed unbroken
  obtain ⟨_, _, hnow, hstill⟩ := hfailure.run
    (fun resources templates => resources name = none ∧ templates name = none) habsent later
    fun operation hmem _ _ _ _ updates => updates.absent_stays (unasked operation hmem)
  have hgiven := hnow.template_of_absent same hstill
  rw [hworkshop] at hgiven
  exact ⟨⟨hfailure.caches.stocks.resources.slot?_of_none habsent.1,
    hfailure.caches.templates.slot?_of_none habsent.2⟩, hgiven⟩

/-- Where sources do not change, no failure stays. After a failed lookup neither cache has anything
under the name. Whatever happens then, unless the engine is asked for that name, the next lookup
gives what loading and compiling the source gives at that moment, and so what any new engine with
the same loader and compiler gives. -/
theorem failure_forgotten (session : Session) (operations later : List Operation)
    {spelling other : String} {e : TemplateError} (new : session.engine.IsNew)
    (fixed : session.engine.workshop.reloadable = false)
    (failed : ((session.run operations).template spelling).2 = .error e)
    (unbroken : ¬ session.engine.workshop.IsBreakdown e)
    (unasked : ∀ operation ∈ later, ∀ name, Name.canonical spelling = .ok name →
      ¬ operation.AsksFor name)
    (same : Name.canonical other = Name.canonical spelling) :
    let failure := ((session.run operations).template spelling).1
    let now := failure.run later
    (∀ name, Name.canonical spelling = .ok name →
        failure.engine.caches.resources.slot? name = none
          ∧ failure.engine.caches.templates.slot? name = none)
      ∧ (now.template other).2.map LiveTemplate.sight
        = (Name.canonicalOrError other).bind (session.engine.workshop.afresh now.world)
      ∧ ∀ fresh : Session, fresh.engine.IsNew → fresh.engine.workshop.reloadable = false →
          fresh.engine.workshop.source = session.engine.workshop.source →
          fresh.engine.workshop.compiler = session.engine.workshop.compiler →
          fresh.world = now.world →
            (now.template other).2.map LiveTemplate.sight
              = (fresh.template other).2.map LiveTemplate.sight := by
  intro failure now
  obtain ⟨resources, templates, hbefore⟩ := steady_run new fixed operations
  have hleft : ∀ name, Name.canonical spelling = .ok name →
      (failure.engine.caches.resources.slot? name = none
        ∧ failure.engine.caches.templates.slot? name = none)
      ∧ (now.template other).2.map LiveTemplate.sight
          = session.engine.workshop.afresh now.world name := by
    intro name hname
    rw [← workshop_run session operations] at unbroken ⊢
    exact hbefore.retry (Name.canonicalOrError_eq_ok_iff.2 hname) failed unbroken
      (fun operation hmem => unasked operation hmem name hname)
      (Name.canonicalOrError_eq_ok_iff.2 (same.trans hname))
  have hafresh : (now.template other).2.map LiveTemplate.sight
      = (Name.canonicalOrError other).bind (session.engine.workshop.afresh now.world) := by
    cases hname : Name.canonicalOrError other with
    | error e =>
        rw [now.template_of_invalid hname]
        rfl
    | ok name =>
        have hspelling := same.symm.trans (Name.canonicalOrError_eq_ok_iff.1 hname)
        exact (hleft name hspelling).2
  refine ⟨fun name hname => (hleft name hname).1, hafresh, ?_⟩
  intro fresh hnew hfixed hsource hcompiler hworld
  have hcompiled : fresh.engine.workshop.afresh = session.engine.workshop.afresh := by
    unfold Workshop.afresh Workshop.compiled
    rw [hsource, hcompiler]
  rw [hafresh, template_of_isNew hnew hfixed other, hcompiled, hworld]

/-- So it is with every engine that is built not to reload, whatever the failure. -/
theorem forgotten_of_build {blueprint : Blueprint} {providers : List Provider} {number : Nat}
    {start world : World} {engine : Engine}
    (built : blueprint.build providers number start = .ok engine)
    (compiler : blueprint.compiler = Compiler.ofSymbols)
    (fixed : blueprint.config.reloadable = false) (operations later : List Operation)
    {spelling name : String} (canonical : Name.canonicalOrError spelling = .ok name)
    {e : TemplateError} :
    let before := Session.run ⟨engine, world⟩ operations
    let failure := (before.template spelling).1
    let now := failure.run later
    (before.template spelling).2 = .error e →
      (∀ operation ∈ later, ¬ operation.AsksFor name) →
        (failure.engine.caches.resources.slot? name = none
            ∧ failure.engine.caches.templates.slot? name = none)
          ∧ (now.template spelling).2.map LiveTemplate.sight
            = engine.workshop.afresh now.world name := by
  intro before failure now failed unasked
  have hworkshop : before.engine.workshop = engine.workshop := workshop_run ..
  have new : (Session.mk engine world).engine.IsNew := Engine.isNew_of_build built
  have steadfast := (Engine.reloadable_of_build built).trans fixed
  obtain ⟨resources, templates, hbefore⟩ := steady_run new steadfast operations
  have hretry := hbefore.retry canonical failed
    (hworkshop ▸ Engine.not_isBreakdown_of_build built compiler e) unasked canonical
  rw [hworkshop] at hretry
  exact hretry

/-- A source that does not compile is cached as a resource. -/
def unusableSource : List Operation :=
  [.insert 0 "a" "\x7b\x7b", .hasResource "a"]

/-- The source is mended, and the engine is asked for another one. -/
def mending : List Operation :=
  [.insert 0 "a" "new", .resource "b"]

theorem template_of_unusableSource :
    ((settledStore.run unusableSource).template "a").2 = .error (.compilation "/a" .malformed)
      ∧ ∃ sight,
        ((((settledStore.run unusableSource).template "a").1.run mending).template "./a").2.map
            LiveTemplate.sight = .ok sight
          ∧ sight.fingerprint = some ⟨2⟩ ∧ sight.render .null = .ok "new" := by
  have hname : Name.canonical "a" = .ok "/a" := by rfl
  have hsame : Name.canonical "./a" = Name.canonical "a" := by rfl
  have hspelled : Name.canonicalOrError "./a" = .ok "/a" := by rfl
  have hother : Name.canonicalOrError "b" = .ok "/b" := by rfl
  have hfailed : ((settledStore.run unusableSource).template "a").2
      = .error (.compilation "/a" .malformed) := by rfl
  have hunasked : ∀ operation ∈ mending, ∀ name, Name.canonical "a" = .ok name →
      ¬ operation.AsksFor name := by
    intro operation hmem name hspelling
    rw [hname] at hspelling
    cases hspelling
    simp only [mending, List.mem_cons, List.not_mem_nil, or_false] at hmem
    rcases hmem with rfl | rfl
    · simp [Operation.AsksFor, Operation.spelling?]
    · simp [Operation.AsksFor, Operation.spelling?, hother]
  have hmended := (failure_forgotten settledStore unusableSource mending ⟨rfl, rfl⟩ rfl hfailed
    (by simp [Workshop.IsBreakdown]) hunasked hsame).2.1
  have hload : settledStore.engine.workshop.source.load
      (((settledStore.run unusableSource).template "a").1.run mending).world "/a"
        = .ok (some { name := "/a", content := "new", fingerprint := ⟨2⟩, origin := .memory }) := by
    rfl
  rw [hspelled] at hmended
  have hcompiled := hmended.trans (Workshop.afresh_of_load hload)
  exact ⟨hfailed, _, hcompiled, rfl, rfl⟩

end Session

end LiveTemplates
