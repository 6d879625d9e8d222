import LiveTemplates.Proofs.Engine.Paired
import LiveTemplates.Proofs.Engine.Renumbering
import Mathlib.Data.List.Forall2

set_option autoImplicit false

/-! # What happens aside from lookups

An engine over a store in memory may or may not write copies of its sources, and may or may not be
given sources without a name in between. Its lookups do not depend on either: two engines that differ
in their folders for copies, and in whose histories different things happen aside, give the same
answers in the same order and have the same in their caches (`asides_leave_no_trace`). The two are
followed in parallel. What happens aside in one of them changes at most the number of the next unit
there, and the other stands still. -/

namespace LiveTemplates

namespace Operation

/-- An operation that is of no concern to lookups: a source without a name is compiled, a template
without a name is looked up again, or the world changes in other things than stores. -/
inductive Aside : Operation → Prop
  | compileLoose (source : String) : Aside (.compileLoose source)
  | refresh {template : LiveTemplate} (nameless : template.name = none) : Aside (.refresh template)
  | change {alter : World → World} (stores : ∀ world, (alter world).stores = world.stores) :
      Aside (.change alter)

/-- Operations that are the same for lookups: templates that are looked up again may differ in all but
their names and engines, and changes of the world in what they do to other things than stores. -/
inductive Alike : Operation → Operation → Prop
  | template (spelling : String) : Alike (.template spelling) (.template spelling)
  | resource (spelling : String) : Alike (.resource spelling) (.resource spelling)
  | hasResource (spelling : String) : Alike (.hasResource spelling) (.hasResource spelling)
  | refresh {template template' : LiveTemplate} (name : template'.name = template.name)
      (engine : template'.engine = template.engine) : Alike (.refresh template) (.refresh template')
  | clear : Alike .clear .clear
  | insert (store : Nat) (spelling content : String) :
      Alike (.insert store spelling content) (.insert store spelling content)
  | insertMarked (store : Nat) (spelling content : String) (fingerprint : Fingerprint) :
      Alike (.insertMarked store spelling content fingerprint)
        (.insertMarked store spelling content fingerprint)
  | remove (store : Nat) (spelling : String) : Alike (.remove store spelling) (.remove store spelling)
  | change {alter alter' : World → World}
      (stores : ∀ world other, other.stores = world.stores →
        (alter' other).stores = (alter world).stores) : Alike (.change alter) (.change alter')

end Operation

/-- The same happens in two histories, but for what happens aside in each. -/
inductive DifferAside : List Operation → List Operation → Prop
  | start : DifferAside [] []
  | both {first second : List Operation} (before : DifferAside first second)
      {operation operation' : Operation} (alike : operation.Alike operation') :
      DifferAside (first ++ [operation]) (second ++ [operation'])
  | first {first second : List Operation} (before : DifferAside first second)
      {operation : Operation} (aside : operation.Aside) : DifferAside (first ++ [operation]) second
  | second {first second : List Operation} (before : DifferAside first second)
      {operation : Operation} (aside : operation.Aside) : DifferAside first (second ++ [operation])

namespace Session

/-! ## Answers -/

/-- What is answered to whoever asks an engine for something. -/
inductive Answer where
  | template (outcome : Except TemplateError LiveTemplate)
  | resource (outcome : Except TemplateError Resource)
  | presence (found : Bool)

/-- What the template of an answer gives when it is rendered on data. -/
def Answer.rendered (data : Json) : Answer → Option (Except TemplateError String)
  | .template outcome => some (outcome.bind fun template => template.render data)
  | _ => none

/-- What is answered to an operation, if it asks for something. -/
def answer? (session : Session) : Operation → Option Answer
  | .template spelling => some (.template (session.template spelling).2)
  | .resource spelling => some (.resource (session.engine.resource session.world spelling).2)
  | .hasResource spelling => some (.presence (session.engine.hasResource session.world spelling).2)
  | .refresh template =>
    match template.name with
    | none => none
    | some name =>
      if template.engine = session.engine.number then some (.template (session.template name).2)
      else none
  | _ => none

/-- What is answered in the course of operations. -/
def answers (session : Session) : List Operation → List Answer
  | [] => []
  | operation :: rest =>
    (session.answer? operation).toList ++ answers (session.perform operation) rest

theorem answers_append_singleton (session : Session) (operations : List Operation)
    (operation : Operation) :
    session.answers (operations ++ [operation])
      = session.answers operations ++ ((session.run operations).answer? operation).toList := by
  induction operations generalizing session with
  | nil =>
      show (session.answer? operation).toList ++ [] = [] ++ (session.answer? operation).toList
      rw [List.append_nil, List.nil_append]
  | cons first rest ih =>
      show _ ++ answers (session.perform first) (rest ++ [operation]) = _
      rw [ih, ← List.append_assoc]
      rfl

end Session

/-- Answers are the same, but for the numbers of units. -/
inductive Renumbering.RelatesAnswers (numbering : Renumbering) :
    Session.Answer → Session.Answer → Prop
  | template {outcome outcome' : Except TemplateError LiveTemplate}
      (related : numbering.Relates outcome outcome') :
      RelatesAnswers numbering (.template outcome) (.template outcome')
  | resource (outcome : Except TemplateError Resource) :
      RelatesAnswers numbering (.resource outcome) (.resource outcome)
  | presence (found : Bool) : RelatesAnswers numbering (.presence found) (.presence found)

theorem Renumbering.Relates.rendered {numbering : Renumbering}
    {outcome outcome' : Except TemplateError LiveTemplate}
    (related : numbering.Relates outcome outcome') (data : Json) :
    (outcome'.bind fun template => template.render data)
      = outcome.bind fun template => template.render data := by
  cases related <;> rfl

theorem Renumbering.RelatesAnswers.rendered {numbering : Renumbering}
    {answer answer' : Session.Answer} (related : numbering.RelatesAnswers answer answer')
    (data : Json) : answer'.rendered data = answer.rendered data := by
  cases related with
  | template related => exact congrArg some (related.rendered data)
  | resource outcome => rfl
  | presence found => rfl

theorem Renumbering.Extends.relatesAnswers {numbering later : Renumbering}
    (more : later.Extends numbering) {answer answer' : Session.Answer}
    (related : numbering.RelatesAnswers answer answer') : later.RelatesAnswers answer answer' := by
  cases related with
  | template related => exact .template (more.relates related)
  | resource outcome => exact .resource outcome
  | presence found => exact .presence found

theorem Renumbering.rendered_of_forall₂ {numbering : Renumbering}
    {answers answers' : List Session.Answer}
    (related : List.Forall₂ numbering.RelatesAnswers answers answers') (data : Json) :
    answers'.map (·.rendered data) = answers.map (·.rendered data) := by
  induction related with
  | nil => rfl
  | cons first _ ih => rw [List.map_cons, List.map_cons, first.rendered data, ih]

namespace Session

/-! ## Two sessions in parallel -/

/-- Two sessions have engines that make templates with the same means and keep the same, but for the
numbers of units, and work in worlds with the same stores. -/
structure Mirrors (numbering : Renumbering) (session mirror : Session) : Prop where
  workshop : mirror.engine.workshop = session.engine.workshop
  stores : mirror.world.stores = session.world.stores
  caches : session.engine.caches.Mirrors numbering mirror.engine.caches

/-- Nothing has happened in a session that is of concern to lookups. -/
structure Undisturbed (before after : Session) : Prop where
  workshop : after.engine.workshop = before.engine.workshop
  stores : after.world.stores = before.world.stores
  caches : before.engine.caches.Undisturbed after.engine.caches

theorem Undisturbed.refl (session : Session) : session.Undisturbed session :=
  ⟨rfl, rfl, .refl _⟩

/-- What happens aside is not noticed by lookups. -/
theorem undisturbed_perform (session : Session) {operation : Operation}
    (aside : operation.Aside) : session.Undisturbed (session.perform operation) := by
  cases aside with
  | compileLoose source =>
      exact ⟨rfl, Caches.stores_compileLoose .., Caches.undisturbed_compileLoose ..⟩
  | refresh nameless =>
      rw [perform, nameless]
      exact .refl session
  | change stores => exact ⟨rfl, stores _, .refl _⟩

/-- What happens aside asks for nothing. -/
theorem answer?_of_aside (session : Session) {operation : Operation} (aside : operation.Aside) :
    session.answer? operation = none := by
  cases aside with
  | compileLoose source => rfl
  | refresh nameless => rw [answer?, nameless]
  | change stores => rfl

namespace Mirrors

variable {numbering : Renumbering} {session mirror : Session} {operation operation' : Operation}

theorem template (mirrors : Mirrors numbering session mirror)
    (reads : session.engine.workshop.source.ReadsStores) (spelling : String) :
    ∃ later : Renumbering, later.Extends numbering
      ∧ Mirrors later (session.template spelling).1 (mirror.template spelling).1
      ∧ later.Relates (session.template spelling).2 (mirror.template spelling).2 := by
  have hworkshop : (mirror.template spelling).1.engine.workshop
      = (session.template spelling).1.engine.workshop := by
    rw [workshop_template, workshop_template, mirrors.workshop]
  have hstores : (mirror.template spelling).1.world.stores
      = (session.template spelling).1.world.stores := by
    rw [stores_template, stores_template, mirrors.stores]
  cases hname : Name.canonicalOrError spelling with
  | error e =>
      rw [session.template_of_invalid hname, mirror.template_of_invalid hname]
      exact ⟨numbering, .refl numbering, mirrors, .error e⟩
  | ok name =>
      obtain ⟨later, hmore, hcaches, hrelated⟩ := mirrors.caches.template reads mirrors.stores name
      rw [session.template_of_canonical hname, mirror.template_of_canonical hname] at hworkshop
      rw [session.template_of_canonical hname, mirror.template_of_canonical hname] at hstores ⊢
      rw [mirrors.workshop] at hworkshop hstores ⊢
      exact ⟨later, hmore, ⟨hworkshop, hstores, hcaches⟩, hrelated⟩

theorem resource (mirrors : Mirrors numbering session mirror)
    (reads : session.engine.workshop.source.ReadsStores) (spelling : String) :
    Mirrors numbering
        { session with engine := (session.engine.resource session.world spelling).1 }
        { mirror with engine := (mirror.engine.resource mirror.world spelling).1 }
      ∧ (mirror.engine.resource mirror.world spelling).2
        = (session.engine.resource session.world spelling).2 := by
  unfold Engine.resource
  cases Name.canonicalOrError spelling with
  | error e => exact ⟨mirrors, rfl⟩
  | ok name =>
      obtain ⟨hcaches, houtcome⟩ := mirrors.caches.resource reads mirrors.stores name
      have hsame : mirror.engine.caches.resource mirror.engine.workshop mirror.world name
          = mirror.engine.caches.resource session.engine.workshop mirror.world name := by
        rw [mirrors.workshop]
      rw [← hsame] at hcaches houtcome
      exact ⟨⟨mirrors.workshop, mirrors.stores, hcaches⟩, houtcome⟩

/-- A store is put into both worlds. -/
theorem setStore (mirrors : Mirrors numbering session mirror) (index : Nat) (store : MemoryStore) :
    Mirrors numbering (session.setStore index store) (mirror.setStore index store) :=
  { mirrors with stores := congrArg (·.set index store) mirrors.stores }

theorem store (mirrors : Mirrors numbering session mirror) (index : Nat) :
    mirror.world.store index = session.world.store index :=
  World.store_congr mirrors.stores index

/-- An operation that is the same in both leaves the same, and is answered the same. -/
theorem perform (mirrors : Mirrors numbering session mirror)
    (reads : session.engine.workshop.source.ReadsStores) (alike : operation.Alike operation') :
    ∃ later : Renumbering, later.Extends numbering
      ∧ Mirrors later (session.perform operation) (mirror.perform operation')
      ∧ List.Forall₂ later.RelatesAnswers (session.answer? operation).toList
          (mirror.answer? operation').toList := by
  cases alike with
  | template spelling =>
      obtain ⟨later, hmore, hmirrors, hrelated⟩ := mirrors.template reads spelling
      exact ⟨later, hmore, hmirrors, .cons (.template hrelated) .nil⟩
  | resource spelling =>
      obtain ⟨hmirrors, houtcome⟩ := mirrors.resource reads spelling
      refine ⟨numbering, .refl numbering, hmirrors, .cons ?_ .nil⟩
      rw [houtcome]
      exact .resource _
  | hasResource spelling =>
      obtain ⟨hmirrors, houtcome⟩ := mirrors.resource reads spelling
      refine ⟨numbering, .refl numbering, hmirrors, .cons ?_ .nil⟩
      show numbering.RelatesAnswers
        (.presence (session.engine.resource session.world spelling).2.isOk)
        (.presence (mirror.engine.resource mirror.world spelling).2.isOk)
      rw [houtcome]
      exact .presence _
  | @refresh template template' name engine =>
      unfold Session.perform Session.answer?
      dsimp only
      rw [name, engine, Engine.number, Engine.number, mirrors.workshop]
      cases template.name with
      | none => exact ⟨numbering, .refl numbering, mirrors, .nil⟩
      | some spelling =>
          dsimp only
          split
          · obtain ⟨later, hmore, hmirrors, hrelated⟩ := mirrors.template reads spelling
            exact ⟨later, hmore, hmirrors, .cons (.template hrelated) .nil⟩
          · exact ⟨numbering, .refl numbering, mirrors, .nil⟩
  | clear =>
      exact ⟨numbering, .refl numbering, { mirrors with caches := mirrors.caches.clear }, .nil⟩
  | insert index spelling content =>
      refine ⟨numbering, .refl numbering, ?_, .nil⟩
      unfold Session.perform
      dsimp only
      rw [mirrors.store]
      exact mirrors.setStore _ _
  | insertMarked index spelling content fingerprint =>
      refine ⟨numbering, .refl numbering, ?_, .nil⟩
      unfold Session.perform
      dsimp only
      rw [mirrors.store]
      exact mirrors.setStore _ _
  | remove index spelling =>
      refine ⟨numbering, .refl numbering, ?_, .nil⟩
      unfold Session.perform
      dsimp only
      rw [mirrors.store]
      exact mirrors.setStore _ _
  | change stores =>
      exact ⟨numbering, .refl numbering, { mirrors with stores := stores _ _ mirrors.stores }, .nil⟩

/-- Sessions in which nothing happened but aside are still like each other. -/
theorem undisturbed (mirrors : Mirrors numbering session mirror) {session' mirror' : Session}
    (left : session.Undisturbed session') (right : mirror.Undisturbed mirror') :
    Mirrors numbering session' mirror' where
  workshop := by rw [left.workshop, right.workshop, mirrors.workshop]
  stores := by rw [left.stores, right.stores, mirrors.stores]
  caches := mirrors.caches.undisturbed left.caches right.caches

end Mirrors

/-- In the course of two histories the same is answered, and the same is left at the end. -/
structure MirrorsRun (numbering : Renumbering) (session mirror : Session)
    (operations operations' : List Operation) : Prop where
  now : (session.run operations).Mirrors numbering (mirror.run operations')
  answers : List.Forall₂ numbering.RelatesAnswers (session.answers operations)
    (mirror.answers operations')

/-- Histories that differ in what happens aside lead to the same. -/
theorem Mirrors.run {numbering : Renumbering} {session mirror : Session}
    (mirrors : session.Mirrors numbering mirror)
    (reads : session.engine.workshop.source.ReadsStores) {operations operations' : List Operation}
    (differ : DifferAside operations operations') :
    ∃ later : Renumbering, later.Extends numbering
      ∧ session.MirrorsRun later mirror operations operations' := by
  induction differ with
  | start => exact ⟨numbering, .refl numbering, mirrors, .nil⟩
  | @both first second _ operation operation' alike ih =>
      obtain ⟨later, hmore, hnow, hanswers⟩ := ih
      have hreads : (session.run first).engine.workshop.source.ReadsStores := by
        rwa [session.workshop_run]
      obtain ⟨latest, hlatest, hafter, hnew⟩ := hnow.perform hreads alike
      refine ⟨latest, hlatest.trans hmore, ?_, ?_⟩
      · rw [run_append_singleton, run_append_singleton]
        exact hafter
      · rw [answers_append_singleton, answers_append_singleton]
        exact List.rel_append (hanswers.imp fun _ _ => hlatest.relatesAnswers) hnew
  | @first first second _ operation aside ih =>
      obtain ⟨later, hmore, hnow, hanswers⟩ := ih
      refine ⟨later, hmore, ?_, ?_⟩
      · rw [run_append_singleton]
        exact hnow.undisturbed ((session.run first).undisturbed_perform aside) (.refl _)
      · rw [answers_append_singleton, answer?_of_aside _ aside]
        simpa using hanswers
  | @second first second _ operation aside ih =>
      obtain ⟨later, hmore, hnow, hanswers⟩ := ih
      refine ⟨later, hmore, ?_, ?_⟩
      · rw [run_append_singleton]
        exact hnow.undisturbed (.refl _) ((mirror.run second).undisturbed_perform aside)
      · rw [answers_append_singleton, answer?_of_aside _ aside]
        simpa using hanswers

/-- Sessions of two new engines, before any unit is numbered. -/
theorem mirrors_of_engine {blueprint blueprint' : Blueprint} {symbols : SymbolTable}
    {loader : Loader} {number : Nat} {world world' : World}
    (compiler : blueprint'.compiler symbols = blueprint.compiler symbols)
    (reloadable : blueprint'.config.reloadable = blueprint.config.reloadable)
    (same : world'.stores = world.stores) :
    (Session.mk (blueprint.engine symbols loader number) world).Mirrors .unused
      (Session.mk (blueprint'.engine symbols loader number) world') where
  workshop := by
    unfold Blueprint.engine
    rw [compiler, reloadable]
  stores := same
  caches :=
    { resources := rfl
      templates := rfl
      covered := fun entry hmem => absurd hmem List.not_mem_nil
      units :=
        { reloadable, generation := rfl
          above := fun old hmem => absurd hmem (Set.notMem_empty old) } }

/-- Take an engine over a store in memory, and the engine that is built from the same but for the
folder for copies, if any. Let the same be done with both in worlds with the same stores, whatever
files there are, but for what happens aside: sources without a name may be compiled at any time in
either of them. Then both give the same answers in the same order, and templates that render the same;
their caches keep the same under the same names and have counted the same; and they are in the same
generation. Only the units of the templates are numbered differently, in the same order. -/
theorem asides_leave_no_trace {blueprint : Blueprint} {providers : List Provider}
    {number index : Nat} {start : World} {engine : Engine}
    (built : blueprint.build providers number start = .ok engine)
    (inMemory : blueprint.loader = some (.memory index)) (folder : Option String)
    (start' : World) :
    ∃ engine', { blueprint with config := { blueprint.config with compilePath := folder } }.build
        providers number start' = .ok engine'
      ∧ ∀ (world world' : World) (operations operations' : List Operation),
        world'.stores = world.stores → DifferAside operations operations' →
        let session := Session.mk engine world
        let session' := Session.mk engine' world'
        let now := session.run operations
        let now' := session'.run operations'
        ∃ numbering : Renumbering,
          List.Forall₂ numbering.RelatesAnswers (session.answers operations)
              (session'.answers operations')
            ∧ (∀ data, (session'.answers operations').map (·.rendered data)
              = (session.answers operations).map (·.rendered data))
            ∧ (∀ spelling data, (now'.engine.render now'.world spelling data).2.2
              = (now.engine.render now.world spelling data).2.2)
            ∧ now'.engine.caches.resources = now.engine.caches.resources
            ∧ now'.engine.caches.templates
              = now.engine.caches.templates.map (LiveTemplate.renumber numbering.number)
            ∧ now.engine.caches.templates.All numbering.Covers
            ∧ now'.engine.caches.templates.counters = now.engine.caches.templates.counters
            ∧ now'.engine.caches.templates.size = now.engine.caches.templates.size
            ∧ now'.engine.caches.units.generation = now.engine.caches.units.generation := by
  obtain ⟨symbols, loader, hsymbols, hprepare, rfl⟩ := Blueprint.build_eq_ok_iff.1 built
  rw [inMemory] at hprepare
  obtain rfl : Loader.memory index = loader := congrArg Prod.fst hprepare
  have hreads := Loader.readsStores_memory index
  refine ⟨Blueprint.engine _ symbols (.memory index) number,
    Blueprint.build_eq_ok_iff.2 ⟨symbols, .memory index, hsymbols, ?_, rfl⟩, ?_⟩
  · rw [inMemory]
    exact hprepare
  · intro world world' operations operations' same differ session session' now now'
    have hstart : session.Mirrors .unused session' := mirrors_of_engine rfl rfl same
    obtain ⟨numbering, -, hnow, hanswers⟩ := hstart.run hreads differ
    refine ⟨numbering, hanswers, Renumbering.rendered_of_forall₂ hanswers, ?_,
      hnow.caches.resources, hnow.caches.templates, hnow.caches.covered, ?_, ?_,
      hnow.caches.units.generation⟩
    · intro spelling data
      have hsource : now.engine.workshop.source.ReadsStores := by
        rw [session.workshop_run]
        exact hreads
      obtain ⟨later, -, -, hrelated⟩ := hnow.template hsource spelling
      exact hrelated.rendered data
    · rw [hnow.caches.templates]
      rfl
    · rw [hnow.caches.templates, SingleFlight.size_map]

/-- A source is put in and looked up. -/
def printedAlone : List Operation :=
  [.insert 0 "a" "x", .template "a"]

/-- The same, with sources without a name before and in between. -/
def printedAside : List Operation :=
  [.compileLoose "y", .insert 0 "a" "x", .compileLoose "z", .template "a"]

/-- A world with an empty store, and a file where the folder for copies should be. -/
def blocked : World where
  files := { nodes := [(["art"], .file ⟨#[]⟩ ⟨0⟩)] }
  stores := [{}]

theorem differ_printedAside : DifferAside printedAlone printedAside :=
  (((DifferAside.start.second (.compileLoose "y")).both (.insert 0 "a" "x")).second
    (.compileLoose "z")).both (.template "a")

theorem no_trace_of_printedAside :
    ∃ engine', { printing with config := { printing.config with compilePath := some "art" } }.build
        [] 0 blocked = .ok engine'
      ∧ ∃ numbering : Renumbering,
        let session := Session.mk printingEngine { stores := [{}] }
        let session' := Session.mk engine' blocked
        List.Forall₂ numbering.RelatesAnswers (session.answers printedAlone)
            (session'.answers printedAside)
          ∧ (session.answers printedAlone).length = 1
          ∧ (session'.run printedAside).engine.caches.templates
            = (session.run printedAlone).engine.caches.templates.map
                (LiveTemplate.renumber numbering.number) := by
  obtain ⟨engine', hbuilt, htrace⟩ := asides_leave_no_trace build_printing rfl (some "art") blocked
  obtain ⟨numbering, hanswers, -, -, -, htemplates, -⟩ :=
    htrace { stores := [{}] } blocked printedAlone printedAside rfl differ_printedAside
  exact ⟨engine', hbuilt, numbering, hanswers, rfl, htemplates⟩

end Session

end LiveTemplates
