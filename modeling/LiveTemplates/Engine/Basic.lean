import LiveTemplates.Config.Imports
import LiveTemplates.Engine.Caches

set_option autoImplicit false

/-! # Engines

An engine finds, compiles and caches templates. Names may be given to it in any spelling; the caches
and the loader see canonical names only. Sources without a name can be compiled too and go past the
caches. -/

namespace LiveTemplates

/-- The version of the engine. -/
def version : String := "0.1.0"

/-- An engine at one moment. -/
structure Engine where
  config : Configuration
  symbols : SymbolTable
  /-- The kind of the loader. -/
  kind : String
  workshop : Workshop
  caches : Caches
  /-- The number of the next source without a name. -/
  nextInline : Nat := 1

/-- An engine that has not been asked for anything. -/
structure Engine.IsNew (engine : Engine) : Prop where
  resources : engine.caches.resources = {}
  templates : engine.caches.templates = {}

/-- What an engine is built from. -/
structure Blueprint where
  config : Configuration
  /-- In place of the loader that the configuration asks for. -/
  loader : Option Loader := none
  /-- The compiler for a symbol table. -/
  compiler : SymbolTable → Compiler := Compiler.ofSymbols

/-- Build an engine with a number: resolve the imports, then give the loader its root. -/
def Blueprint.build (blueprint : Blueprint) (providers : List Provider) (number : Nat)
    (world : World) : Except TemplateError Engine :=
  let config := blueprint.config
  match (SymbolTable.ofConfiguration providers config).mapError .symbol with
  | .error e => .error e
  | .ok symbols =>
    let loader := blueprint.loader.getD (.ofKind config.loader)
    match loader.prepare world config.templatePath config.inputEncoding with
    | (_, .error e) => .error e
    | (loader, .ok ()) =>
      .ok
        { config, symbols, kind := loader.kind
          workshop :=
            { source := loader.source, compiler := blueprint.compiler symbols
              reloadable := config.reloadable, engine := number }
          caches :=
            { units := { reloadable := config.reloadable, directory := config.compilePath } } }

/-- An engine as it is built has empty caches, and a loader that has been given its root. -/
theorem Blueprint.engine_of_build {blueprint : Blueprint} {providers : List Provider} {number : Nat}
    {world : World} {engine : Engine} (h : blueprint.build providers number world = .ok engine) :
    ∃ (symbols : SymbolTable) (loader : Loader),
      engine.workshop
          = { source := loader.source, compiler := blueprint.compiler symbols
              reloadable := blueprint.config.reloadable, engine := number }
        ∧ engine.caches
          = { units :=
                { reloadable := blueprint.config.reloadable
                  directory := blueprint.config.compilePath } } := by
  unfold build at h
  dsimp only at h
  split at h
  · cases h
  · split at h
    · cases h
    · cases h
      exact ⟨_, _, rfl, rfl⟩

namespace Engine

/-- The number of an engine. -/
def number (engine : Engine) : Nat :=
  engine.workshop.engine

/-- The resource of a name. -/
def resource (engine : Engine) (world : World) (spelling : String) :
    Engine × Except TemplateError Resource :=
  match Name.canonicalOrError spelling with
  | .error e => (engine, .error e)
  | .ok name =>
    let (caches, outcome) := engine.caches.resource engine.workshop world name
    ({ engine with caches }, outcome)

/-- Whether there is a resource of a name. Whatever goes wrong counts as no. -/
def hasResource (engine : Engine) (world : World) (spelling : String) : Engine × Bool :=
  let (engine, outcome) := engine.resource world spelling
  (engine, outcome.isOk)

/-- The template of a name. -/
def template (engine : Engine) (world : World) (spelling : String) :
    Engine × World × Except TemplateError LiveTemplate :=
  match Name.canonicalOrError spelling with
  | .error e => (engine, world, .error e)
  | .ok name =>
    let (caches, world, outcome) := engine.caches.template engine.workshop world name
    ({ engine with caches }, world, outcome)

/-- The name of a source without a name. -/
def inlineName (index : Nat) : String :=
  "inline-" ++ toString index

/-- Compile a source that has no name. -/
def compileLoose (engine : Engine) (world : World) (source : String) :
    Engine × World × Except TemplateError LiveTemplate :=
  let (caches, world, outcome) :=
    engine.caches.compileLoose engine.workshop world (inlineName engine.nextInline) source
  ({ engine with caches, nextInline := engine.nextInline + 1 }, world, outcome)

/-- Render the template of a name on data. -/
def render (engine : Engine) (world : World) (spelling : String) (data : Json) :
    Engine × World × Except TemplateError String :=
  let (engine, world, outcome) := engine.template world spelling
  (engine, world, outcome.bind fun template => template.render data)

/-- Take everything out of both caches. -/
def clear (engine : Engine) : Engine :=
  { engine with caches := engine.caches.clear }

/-- Whether a unit is held, by a template in the cache or from outside. -/
def isHeld (engine : Engine) (outside : Nat → Bool) (unit : Nat) : Bool :=
  outside unit || engine.caches.holds unit

/-- How many units are held. -/
def liveCount (engine : Engine) (outside : Nat → Bool) : Nat :=
  (engine.caches.units.liveCount (engine.isHeld outside)).2

/-- The generations of the units that are held. -/
def liveGenerations (engine : Engine) (outside : Nat → Bool) : List Generation :=
  (engine.caches.units.liveGenerations (engine.isHeld outside)).2

/-- An engine in short. -/
def describe (engine : Engine) : String :=
  "TemplateEngine \x7b version: " ++ Text.quoted version
    ++ ", loader: " ++ Text.quoted engine.kind
    ++ ", reloadable: " ++ toString engine.config.reloadable
    ++ ", resources: " ++ toString engine.caches.resources.size
    ++ ", templates: " ++ toString engine.caches.templates.size ++ ", .. \x7d"

end Engine

end LiveTemplates
