import LiveTemplates.Engine.Operation

set_option autoImplicit false

/-! # What one operation does to a session

Each operation of an engine goes through one function of its caches. `Session.Does` lists them, so
that a property of sessions is proved for one function at a time. -/

namespace LiveTemplates

theorem Engine.isNew_of_build {blueprint : Blueprint} {providers : List Provider} {number : Nat}
    {world : World} {engine : Engine}
    (h : blueprint.build providers number world = .ok engine) : engine.IsNew := by
  obtain ⟨symbols, loader, -, hcaches⟩ := Blueprint.engine_of_build h
  constructor <;> rw [hcaches]

namespace Blueprint

/-- The engine that is built with a symbol table over a loader that has been given its root. -/
def engine (blueprint : Blueprint) (symbols : SymbolTable) (loader : Loader) (number : Nat) :
    Engine where
  config := blueprint.config
  symbols := symbols
  kind := loader.kind
  workshop :=
    { source := loader.source, compiler := blueprint.compiler symbols
      reloadable := blueprint.config.reloadable, engine := number }
  caches :=
    { units :=
        { reloadable := blueprint.config.reloadable, directory := blueprint.config.compilePath } }

/-- An engine is built exactly if all symbols can be resolved and the loader can be given its
root. -/
theorem build_eq_ok_iff {blueprint : Blueprint} {providers : List Provider} {number : Nat}
    {world : World} {engine : Engine} :
    blueprint.build providers number world = .ok engine
      ↔ ∃ symbols loader,
          SymbolTable.ofConfiguration providers blueprint.config = .ok symbols
            ∧ (blueprint.loader.getD (.ofKind blueprint.config.loader)).prepare world
                blueprint.config.templatePath blueprint.config.inputEncoding = (loader, .ok ())
            ∧ engine = blueprint.engine symbols loader number := by
  unfold build
  dsimp only
  cases SymbolTable.ofConfiguration providers blueprint.config with
  | error fault =>
      refine iff_of_false (fun h => by cases h) ?_
      rintro ⟨symbols, loader, h, -⟩
      cases h
  | ok symbols =>
      obtain ⟨loader, outcome⟩ := (blueprint.loader.getD (.ofKind blueprint.config.loader)).prepare
        world blueprint.config.templatePath blueprint.config.inputEncoding
      cases outcome with
      | error e =>
          refine iff_of_false (fun h => by cases h) ?_
          rintro ⟨symbols, loader, -, h, -⟩
          cases h
      | ok =>
          constructor
          · intro h
            cases h
            exact ⟨symbols, loader, rfl, rfl, rfl⟩
          · rintro ⟨_, _, hsymbols, hloader, rfl⟩
            cases hsymbols
            cases hloader
            rfl

end Blueprint

namespace Session

/-- A session with other caches in a world. -/
def withCaches (session : Session) (caches : Caches) (world : World) : Session :=
  { engine := { session.engine with caches }, world }

/-- What an operation can do to a session. -/
inductive Does (session : Session) (operation : Operation) : Session → Prop where
  | change (world : World) : Does session operation { session with world }
  | template {spelling name : String} (canonical : Name.canonicalOrError spelling = .ok name) :
      Does session operation
        (session.withCaches
          (session.engine.caches.template session.engine.workshop session.world name).1
          (session.engine.caches.template session.engine.workshop session.world name).2.1)
  | resource {spelling name : String} (canonical : Name.canonicalOrError spelling = .ok name) :
      Does session operation
        (session.withCaches
          (session.engine.caches.resource session.engine.workshop session.world name).1
          session.world)
  | loose (source : String) :
      Does session operation
        { engine := (session.engine.compileLoose session.world source).1
          world := (session.engine.compileLoose session.world source).2.1 }
  | clear (is : operation = .clear) :
      Does session operation (session.withCaches session.engine.caches.clear session.world)

theorem template_of_invalid (session : Session) {spelling : String} {e : TemplateError}
    (invalid : Name.canonicalOrError spelling = .error e) :
    session.template spelling = (session, .error e) := by
  unfold template Engine.template
  rw [invalid]

theorem template_of_canonical (session : Session) {spelling name : String}
    (canonical : Name.canonicalOrError spelling = .ok name) :
    session.template spelling
      = (session.withCaches
          (session.engine.caches.template session.engine.workshop session.world name).1
          (session.engine.caches.template session.engine.workshop session.world name).2.1,
        (session.engine.caches.template session.engine.workshop session.world name).2.2) := by
  unfold template Engine.template
  rw [canonical]
  rfl

theorem does_template (session : Session) (operation : Operation) (spelling : String) :
    session.Does operation (session.template spelling).1 := by
  cases hname : Name.canonicalOrError spelling with
  | error e =>
      rw [session.template_of_invalid hname]
      exact .change session.world
  | ok name =>
      rw [session.template_of_canonical hname]
      exact .template hname

theorem does_resource (session : Session) (operation : Operation) (spelling : String) :
    session.Does operation
      { session with engine := (session.engine.resource session.world spelling).1 } := by
  unfold Engine.resource
  cases hname : Name.canonicalOrError spelling with
  | error e => exact .change session.world
  | ok name => exact .resource hname

theorem does_perform (session : Session) (operation : Operation) :
    session.Does operation (session.perform operation) := by
  cases operation with
  | template spelling => exact session.does_template _ spelling
  | resource spelling => exact session.does_resource _ spelling
  | hasResource spelling => exact session.does_resource _ spelling
  | refresh template =>
      rw [perform]
      cases template.name with
      | none => exact .change session.world
      | some name =>
          dsimp only
          split
          · exact session.does_template _ name
          · exact .change session.world
  | compileLoose source => exact .loose source
  | clear => exact .clear rfl
  | insert index spelling content => exact .change _
  | insertMarked index spelling content fingerprint => exact .change _
  | remove index spelling => exact .change _
  | change alter => exact .change _

/-- An engine keeps what it makes templates with. -/
theorem workshop_perform (session : Session) (operation : Operation) :
    (session.perform operation).engine.workshop = session.engine.workshop := by
  have hdoes := session.does_perform operation
  generalize session.perform operation = after at hdoes
  cases hdoes <;> rfl

theorem workshop_template (session : Session) (spelling : String) :
    (session.template spelling).1.engine.workshop = session.engine.workshop :=
  session.workshop_perform (.template spelling)

theorem workshop_run (session : Session) (operations : List Operation) :
    (session.run operations).engine.workshop = session.engine.workshop := by
  induction operations generalizing session with
  | nil => rfl
  | cons operation rest ih => exact (ih _).trans (session.workshop_perform operation)

end Session

end LiveTemplates
