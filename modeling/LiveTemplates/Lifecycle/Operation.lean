import LiveTemplates.Engine.Operation
import LiveTemplates.Lifecycle

set_option autoImplicit false

/-! # Hosts at work

One operation follows the other: the slot is filled, asked for its engine and emptied, engines are
asked for templates and do other work, and engines and templates are held under handles and
released. The history of a host is what has happened to it with the answers that were given. -/

namespace LiveTemplates

/-- A way to build an engine. What it builds bears the number that it is to have, and has not been
asked for anything. -/
structure Build where
  run : Host.Builder
  number_eq {number : Nat} {world : World} {engine : Engine} :
    run number world = .ok engine → engine.number = number
  isNew {number : Nat} {world : World} {engine : Engine} :
    run number world = .ok engine → engine.IsNew

/-- A build that fails. -/
def Build.failing (error : TemplateError) : Build where
  run _ _ := .error error
  number_eq h := by cases h
  isNew h := by cases h

/-- Where an engine for the slot may come from. -/
inductive Supply where
  | blueprint (blueprint : Blueprint)
  /-- A configuration file, and the environment variables that take precedence over it. -/
  | file (path : String) (environment : List (String × String))
  | build (build : Build)
  /-- Not a new engine, but one that is held under a handle. -/
  | held (handle : String)

/-- Whatever can happen to a host. An engine is named by its handle, or else the one in the slot is
meant. What is handed out is held if a handle is given for it. -/
inductive HostOperation where
  | fill (supply : Supply) (handle : Option String)
  | engine (handle : Option String)
  | isAvailable
  | teardown (handle : Option String)
  /-- An engine is built outside the slot. -/
  | build (build : Build) (handle : String)
  /-- What is held under a handle is held under another one as well. -/
  | share (handle other : String)
  | release (handle : String)
  | template (engine : Option String) (spelling : String) (handle : Option String)
  | compileLoose (engine : Option String) (source : String) (handle : Option String)
  /-- A template that is held is looked up again. -/
  | refresh (template : String) (handle : Option String)
  | releaseTemplate (handle : String)
  /-- An engine does anything, and what it gives is not kept. -/
  | work (engine : Option String) (operation : Operation)
  | change (alter : World → World)

/-- What an operation gives. -/
inductive HostAnswer where
  | engine (outcome : Except TemplateError Nat)
  | available (available : Bool)
  | released (engine : Option Nat)
  | template (outcome : Except TemplateError LiveTemplate)
  /-- Whether there was what the operation is about. -/
  | done (known : Bool)

namespace HostOperation

/-- Whether an operation empties the slot. -/
def isTeardown : HostOperation → Bool
  | teardown _ => true
  | _ => false

/-- The handle of a template that an operation may set or release. -/
def templateHandle? : HostOperation → Option String
  | template _ _ handle | compileLoose _ _ handle | refresh _ handle => handle
  | releaseTemplate handle => some handle
  | _ => none

end HostOperation

/-- What has happened, the oldest first. -/
abbrev History := List (HostOperation × HostAnswer)

namespace Host

/-- The engine in the slot; if there is none, the one under a handle is put there. -/
def adopt (host : Host) (handle : String) : Host × Except TemplateError Nat :=
  match host.slot with
  | some number => (host, .ok number)
  | none =>
    match Assoc.find? handle host.engineHandles with
    | some number => ({ host with slot := some number }, .ok number)
    | none => (host, .error .engineNotInitialized)

/-- The engine in the slot; if there is none, the supply is asked for one. -/
def fill (host : Host) : Supply → Host × Except TemplateError Nat
  | .blueprint blueprint => host.install (host.builderOf blueprint)
  | .file path environment => host.install (host.builderOfFile path environment)
  | .build build => host.install build.run
  | .held handle => host.adopt handle

/-- Hold an engine that was handed out, if a handle is given for it. -/
def take (host : Host) (handle : Option String) (outcome : Except TemplateError Nat) : Host :=
  match handle, outcome with
  | some handle, .ok number => host.holdEngine handle number
  | _, _ => host

/-- Hold a template that was handed out, if a handle is given for it. -/
def takeTemplate (host : Host) (handle : Option String)
    (outcome : Except TemplateError LiveTemplate) : Host :=
  match handle, outcome with
  | some handle, .ok template => host.holdTemplate handle template
  | _, _ => host

/-- The engine under a handle, or else the one in the slot. -/
def engineOf? (host : Host) : Option String → Option Engine
  | some handle => (Assoc.find? handle host.engineHandles).bind host.engine?
  | none => host.slot.bind host.engine?

/-- The template of a source without a name by an engine. -/
def compileLoose (host : Host) (engine : Engine) (source : String) :
    Host × Except TemplateError LiveTemplate :=
  host.run engine fun engine world => engine.compileLoose world source

/-- Let an engine do anything. -/
def work (host : Host) (engine : Engine) (operation : Operation) : Host :=
  (host.run engine fun engine world =>
    let session := Session.perform ⟨engine, world⟩ operation
    (session.engine, session.world, ())).1

/-- What an operation does, and what it gives. -/
def perform (host : Host) : HostOperation → Host × HostAnswer
  | .fill supply handle =>
    let (host, outcome) := host.fill supply
    (host.take handle outcome, .engine outcome)
  | .engine handle => (host.take handle host.current, .engine host.current)
  | .isAvailable => (host, .available host.isAvailable)
  | .teardown handle =>
    let (host, number) := host.teardown handle
    (host, .released number)
  | .build build handle =>
    let (host, outcome) := host.buildHeld build.run handle
    (host, .engine outcome)
  | .share handle other =>
    match Assoc.find? handle host.engineHandles with
    | some number => (host.holdEngine other number, .done true)
    | none => (host, .done false)
  | .release handle =>
    let (host, known) := host.releaseEngine handle
    (host, .done known)
  | .template engine spelling handle =>
    match host.engineOf? engine with
    | some engine =>
      let (host, outcome) := host.template engine spelling
      (host.takeTemplate handle outcome, .template outcome)
    | none => (host, .done false)
  | .compileLoose engine source handle =>
    match host.engineOf? engine with
    | some engine =>
      let (host, outcome) := host.compileLoose engine source
      (host.takeTemplate handle outcome, .template outcome)
    | none => (host, .done false)
  | .refresh template handle =>
    match Assoc.find? template host.templateHandles with
    | some template =>
      let (host, outcome) := host.refresh template
      (host.takeTemplate handle outcome, .template outcome)
    | none => (host, .done false)
  | .releaseTemplate handle =>
    let (host, known) := host.releaseTemplate handle
    (host, .done known)
  | .work engine operation =>
    match host.engineOf? engine with
    | some engine => (host.work engine operation, .done true)
    | none => (host, .done false)
  | .change alter => ({ host with world := alter host.world }, .done true)

/-- What operations do one after the other, and their history. -/
def performAll (host : Host) (operations : List HostOperation) : Host × History :=
  operations.foldl (fun (host, history) operation =>
    let (host, answer) := host.perform operation
    (host, history ++ [(operation, answer)])) (host, [])

theorem performAll_append_singleton (host : Host) (operations : List HostOperation)
    (operation : HostOperation) :
    host.performAll (operations ++ [operation])
      = (((host.performAll operations).1.perform operation).1,
        (host.performAll operations).2
          ++ [(operation, ((host.performAll operations).1.perform operation).2)]) := by
  unfold performAll
  rw [List.foldl_append]
  rfl

end Host

end LiveTemplates
