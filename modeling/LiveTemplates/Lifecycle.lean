import LiveTemplates.Config.File
import LiveTemplates.Engine.Concurrent

set_option autoImplicit false

/-! # The engine that serves a process

A host has a slot for one engine. Whoever wants to fill it gives a way to build an engine, which is
used only if the slot is empty; a build that fails leaves the slot empty. Apart from the slot,
engines and templates can be held under handles. An engine lives as long as it is in the slot or
held; the templates it has made do not keep it alive, but go on working without it. -/

namespace LiveTemplates

/-- The engines that live, the one in the slot, and what is held under handles. -/
structure Host where
  providers : List Provider
  world : World := {}
  engines : List (Nat × Engine) := []
  slot : Option Nat := none
  engineHandles : List (String × Nat) := []
  templateHandles : List (String × LiveTemplate) := []
  /-- The number of the next engine. -/
  nextEngine : Nat := 0

namespace Host

/-! ## Life of engines -/

/-- Whether an engine is in the slot or held. -/
def keeps (host : Host) (number : Nat) : Bool :=
  host.slot = some number || host.engineHandles.any fun handle => handle.2 = number

/-- Let go of the engines that nothing keeps. -/
def collect (host : Host) : Host :=
  { host with engines := host.engines.filter fun entry => host.keeps entry.1 }

/-- The engine of a number, if it lives. -/
def engine? (host : Host) (number : Nat) : Option Engine :=
  Assoc.find? number host.engines

/-- Put an engine in place of the one with its number. -/
def setEngine (host : Host) (engine : Engine) : Host :=
  { host with engines := Assoc.set engine.number engine host.engines }

/-- Hold an engine under a handle. -/
def holdEngine (host : Host) (handle : String) (number : Nat) : Host :=
  { host with engineHandles := Assoc.set handle number host.engineHandles }.collect

/-- Release a handle of an engine, and whether there was one. -/
def releaseEngine (host : Host) (handle : String) : Host × Bool :=
  ({ host with engineHandles := Assoc.erase handle host.engineHandles }.collect,
    (Assoc.find? handle host.engineHandles).isSome)

/-- Hold a template under a handle. -/
def holdTemplate (host : Host) (handle : String) (template : LiveTemplate) : Host :=
  { host with templateHandles := Assoc.set handle template host.templateHandles }

/-- Release a handle of a template, and whether there was one. -/
def releaseTemplate (host : Host) (handle : String) : Host × Bool :=
  ({ host with templateHandles := Assoc.erase handle host.templateHandles },
    (Assoc.find? handle host.templateHandles).isSome)

/-- Whether a unit of an engine is held under a handle. -/
def holdsUnit (host : Host) (number unit : Nat) : Bool :=
  host.templateHandles.any fun (_, template) =>
    template.engine = number && template.unit.id = unit

/-! ## The slot -/

/-- A way to build an engine with a number. -/
abbrev Builder := Nat → World → Except TemplateError Engine

/-- The way to build what a blueprint says. -/
def builderOf (host : Host) (blueprint : Blueprint) : Builder := fun number world =>
  blueprint.build host.providers number world

/-- The way to build an engine from a configuration file. -/
def builderOfFile (host : Host) (path : String) (environment : List (String × String)) : Builder :=
  fun number world =>
    match Configuration.ofFile world.files path environment with
    | .ok config => host.builderOf { config } number world
    | .error e => .error e

/-- Add an engine that was built. -/
def add (host : Host) (engine : Engine) : Host :=
  { host with
    engines := Assoc.set host.nextEngine engine host.engines
    nextEngine := host.nextEngine + 1 }

/-- Whether an engine would be built now to fill the slot. -/
def wouldBuild (host : Host) : Bool :=
  host.slot.isNone

/-- The engine in the slot; if there is none, one is built and put there. -/
def install (host : Host) (build : Builder) : Host × Except TemplateError Nat :=
  match host.slot with
  | some number => (host, .ok number)
  | none =>
    match build host.nextEngine host.world with
    | .error e => (host, .error e)
    | .ok engine => ({ host.add engine with slot := some host.nextEngine }, .ok host.nextEngine)

/-- The engine in the slot. -/
def current (host : Host) : Except TemplateError Nat :=
  match host.slot with
  | some number => .ok number
  | none => .error .engineNotInitialized

/-- Whether there is an engine in the slot. -/
def isAvailable (host : Host) : Bool :=
  host.slot.isSome

/-- Empty the slot, and hold what was in it under a handle if one is given. -/
def teardown (host : Host) (handle : Option String) : Host × Option Nat :=
  match host.slot with
  | none => (host, none)
  | some number =>
    let host := { host with slot := none }
    match handle with
    | some handle => (host.holdEngine handle number, some number)
    | none => (host.collect, some number)

/-- Build an engine outside the slot and hold it under a handle. -/
def buildHeld (host : Host) (build : Builder) (handle : String) : Host × Except TemplateError Nat :=
  match build host.nextEngine host.world with
  | .error e => (host, .error e)
  | .ok engine => ((host.add engine).holdEngine handle host.nextEngine, .ok host.nextEngine)

/-! ## Work of engines -/

/-- Let an engine do something in the world of the host. -/
def run {α : Type} (host : Host) (engine : Engine) (act : Engine → World → Engine × World × α) :
    Host × α :=
  let (engine, world, result) := act engine host.world
  ({ host with world }.setEngine engine, result)

/-- The template of a name by the engine of a number. -/
def template (host : Host) (engine : Engine) (spelling : String) :
    Host × Except TemplateError LiveTemplate :=
  host.run engine fun engine world => engine.template world spelling

/-- Look a template up again with the engine that made it, if that still lives. A template of a
source without a name stays as it is. -/
def refresh (host : Host) (template : LiveTemplate) : Host × Except TemplateError LiveTemplate :=
  match template.name with
  | none => (host, .ok template)
  | some name =>
    match host.engine? template.engine with
    | none => (host, .error .engineNotInitialized)
    | some engine => host.template engine name

end Host

end LiveTemplates
