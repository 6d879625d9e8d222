import LiveTemplates.Engine.Basic

set_option autoImplicit false

/-! # Several lookups at once

A crowd is an engine in the middle of several lookups. Four kinds of activity take turns: lookups
of templates, fetches of resources, runs that make templates, and runs that load resources. Each
goes through stages, and one step takes it from one stage to the next. In a step an activity looks
once at something that others may change, or changes it once: whatever happens elsewhere may come in
between. At some stages an activity waits for a run, and then a step leaves it where it is until the
end of that run is known.

A template is taken out of the cache in two steps: if it is still there a new generation begins, and
then it is removed. From the one step to the other its entry is closed: whoever else would take it
out waits. It can still be found there.

Any order of steps is possible, with changes of the world in between, and with entries taken out of
the caches part by part. The order used to answer a list of lookups is fixed: every lookup goes on
as far as it can, then the runs in the order in which they became able to, and so on until no lookup
waits. -/

namespace LiveTemplates

/-- What an answer comes to for a caller that asked for a name. -/
def Answer.outcome {α : Type} (name : String) : Answer α TemplateError → Except TemplateError α
  | .ending ended => ended.outcome name
  | .timedOut milliseconds => .error (.timedOut name milliseconds)

namespace Crowd

/-- The stages of a lookup of a template. -/
inductive LookupStage where
  | start
  /-- Waits, as a caller, for the run that makes the template. -/
  | first (caller : Nat)
  /-- Has a template and is about to ask for the mark of its source. -/
  | probe (template : LiveTemplate)
  /-- Has a template and the mark that its source had a moment ago. -/
  | judge (template : LiveTemplate) (current : Option Fingerprint)
  /-- Has found its template stale, and is about to see whether that is still the one in the cache. -/
  | evict (template : LiveTemplate)
  /-- Has begun a generation, and is about to take the template out. -/
  | remove (template : LiveTemplate)
  /-- Is about to ask once more. -/
  | again
  /-- Waits for the run that makes the template anew. -/
  | second (caller : Nat)
  | done (outcome : Except TemplateError LiveTemplate)

/-- The stages of a fetch of a resource. -/
inductive FetchStage where
  | start
  /-- Waits, as a caller, for the run that loads the resource. -/
  | waiting (caller : Nat)
  | done (outcome : Except TemplateError Resource)

/-- The stages of a run that makes a template. -/
inductive MakingStage where
  | start
  /-- Waits, as a caller, for the run that loads the resource. -/
  | first (caller : Nat)
  | probe (resource : Resource)
  | judge (resource : Resource) (current : Option Fingerprint)
  /-- Is about to ask once more. -/
  | again
  | second (caller : Nat)
  | compile (resource : Resource)
  /-- Has compiled the resource and seen which generation was current. -/
  | define (resource : Resource) (program : Runnable) (generation : Generation)
  /-- Is about to write a copy of the source. -/
  | persist (resource : Resource) (unit : ExecutableUnit)
  /-- Knows how it ends, but the cache does not. -/
  | finish (ending : Ending LiveTemplate TemplateError)
  /-- Has left its entry as it should be, but has not told anyone. -/
  | report
  | done

/-- The stages of a run that loads a resource. -/
inductive LoadingStage where
  | start
  | finish (ending : Ending Resource TemplateError)
  | report
  | done

/-- An activity: a lookup or a fetch by its number, or a run by its flight. -/
inductive Activity where
  | lookup (index : Nat)
  | fetch (index : Nat)
  | making (flight : Nat)
  | loading (flight : Nat)
  deriving DecidableEq, Inhabited

end Crowd

open Crowd in
/-- An engine in the middle of several lookups. -/
structure Crowd where
  workshop : Workshop
  world : World
  units : Units
  compilations : Nat := 0
  resources : Traffic String Resource TemplateError := {}
  templates : Traffic String LiveTemplate TemplateError := {}
  lookups : List (Nat × String × LookupStage) := []
  fetches : List (Nat × String × FetchStage) := []
  makings : List (Nat × String × MakingStage) := []
  loadings : List (Nat × String × LoadingStage) := []
  nextCaller : Nat := 0
  /-- The runs that can go on, in the order in which they became able to. -/
  ready : List Activity := []

namespace Crowd

/-- A crowd that has not begun. -/
def ofCaches (workshop : Workshop) (world : World) (caches : Caches) : Crowd :=
  { workshop, world, units := caches.units, compilations := caches.compilations
    resources := { cache := caches.resources }, templates := { cache := caches.templates } }

/-- The caches as they are now. -/
def caches (crowd : Crowd) : Caches :=
  { units := crowd.units, compilations := crowd.compilations
    resources := crowd.resources.cache, templates := crowd.templates.cache }

/-- Put caches in place of those there are. -/
def withCaches (crowd : Crowd) (caches : Caches) : Crowd :=
  { crowd with
    units := caches.units
    compilations := caches.compilations
    resources := { crowd.resources with cache := caches.resources }
    templates := { crowd.templates with cache := caches.templates } }

/-! ## Loading resources -/

/-- Whether a run waits as a caller. -/
def MakingStage.waitsAs (caller : Nat) : MakingStage → Bool
  | first other => other = caller
  | second other => other = caller
  | _ => false

/-- The run that waits as a caller. -/
def makingOf? (crowd : Crowd) (caller : Nat) : Option Activity :=
  (crowd.makings.find? fun (_, _, stage) => stage.waitsAs caller).map fun entry =>
    .making entry.1

/-- Take a run that loads a resource one step on. -/
def stepLoading (crowd : Crowd) (flight : Nat) (name : String) :
    LoadingStage → Crowd × LoadingStage
  | .start =>
    match crowd.workshop.produceResource crowd.world name with
    | .ok resource => (crowd, .finish (.value resource))
    | .error e => (crowd, .finish (.error e))
  | .finish ending =>
    ({ crowd with resources := crowd.resources.finish flight ending }, .report)
  | .report =>
    let woken := (crowd.resources.waitersOf flight).filterMap crowd.makingOf?
    ({ crowd with
        resources := crowd.resources.report flight
        ready := crowd.ready ++ woken }, .done)
  | .done => (crowd, .done)

/-! ## Making templates -/

/-- Ask for a resource as a new caller. -/
def callResource (crowd : Crowd) (name : String) : Crowd × Nat × Option Resource :=
  let caller := crowd.nextCaller
  let (resources, found) := crowd.resources.call caller name
  let crowd := { crowd with resources, nextCaller := caller + 1 }
  match found with
  | .hit resource => (crowd, caller, some resource)
  | .join _ => (crowd, caller, none)
  | .launch flight =>
    ({ crowd with
        loadings := crowd.loadings ++ [(flight, name, .start)]
        ready := crowd.ready ++ [.loading flight] }, caller, none)

/-- The stage of a run that has its resource for the first time. -/
def withResource (crowd : Crowd) (resource : Resource) : MakingStage :=
  if crowd.workshop.reloadable then .probe resource else .compile resource

/-- The stage of a run after it has been told about its resource. -/
def toldResource (name : String) (next : Resource → MakingStage)
    (answer : Answer Resource TemplateError) : MakingStage :=
  match answer.outcome name with
  | .ok resource => next resource
  | .error e => .finish (.error e)

/-- Receive what a caller for a resource is told, if there is something. -/
def receiveResource (crowd : Crowd) (caller : Nat) :
    Crowd × Option (Answer Resource TemplateError) :=
  let resources := crowd.resources.receive caller
  ({ crowd with resources }, resources.answer? caller)

/-- Take a run that makes a template one step on. -/
def stepMaking (crowd : Crowd) (flight : Nat) (name : String) :
    MakingStage → Crowd × MakingStage
  | .start =>
    match crowd.callResource name with
    | (crowd, _, some resource) => (crowd, crowd.withResource resource)
    | (crowd, caller, none) => (crowd, .first caller)
  | .first caller =>
    match crowd.receiveResource caller with
    | (crowd, some answer) => (crowd, toldResource name crowd.withResource answer)
    | (crowd, none) => (crowd, .first caller)
  | .probe resource =>
    match crowd.workshop.source.fingerprint crowd.world name with
    | .ok current => (crowd, .judge resource current)
    | .error e => (crowd, .finish (.error e))
  | .judge resource current =>
    if current = some resource.fingerprint then (crowd, .compile resource)
    else (crowd.withCaches (crowd.caches.dropResource name resource.fingerprint).1, .again)
  | .again =>
    match crowd.callResource name with
    | (crowd, _, some resource) => (crowd, .compile resource)
    | (crowd, caller, none) => (crowd, .second caller)
  | .second caller =>
    match crowd.receiveResource caller with
    | (crowd, some answer) => (crowd, toldResource name .compile answer)
    | (crowd, none) => (crowd, .second caller)
  | .compile resource =>
    let crowd := { crowd with compilations := crowd.compilations + 1 }
    match crowd.workshop.compiler name resource.content with
    | .program program => (crowd, .define resource program crowd.units.generation)
    | .rejected e =>
      (crowd.withCaches (crowd.caches.dropResource name resource.fingerprint).1,
        .finish (.error e))
    | .broken explanation => (crowd, .finish (.broken (some explanation)))
  | .define resource program generation =>
    let (units, unit) := crowd.units.enrol name program generation
    ({ crowd with units }, .persist resource unit)
  | .persist resource unit =>
    ({ crowd with world := crowd.units.persist unit resource.content crowd.world },
      .finish (.value (crowd.workshop.template name resource unit)))
  | .finish ending =>
    ({ crowd with templates := crowd.templates.finish flight ending }, .report)
  | .report => ({ crowd with templates := crowd.templates.report flight }, .done)
  | .done => (crowd, .done)

/-! ## Looking templates up -/

/-- Ask for a template as a new caller. -/
def callTemplate (crowd : Crowd) (name : String) : Crowd × Nat × Option LiveTemplate :=
  let caller := crowd.nextCaller
  let (templates, found) := crowd.templates.call caller name
  let crowd := { crowd with templates, nextCaller := caller + 1 }
  match found with
  | .hit template => (crowd, caller, some template)
  | .join _ => (crowd, caller, none)
  | .launch flight =>
    ({ crowd with
        makings := crowd.makings ++ [(flight, name, .start)]
        ready := crowd.ready ++ [.making flight] }, caller, none)

/-- The stage of a lookup that has its template for the first time. -/
def withTemplate (crowd : Crowd) (template : LiveTemplate) : LookupStage :=
  if crowd.workshop.reloadable then .probe template else .done (.ok template)

/-- The stage of a lookup after it has been told about its template. -/
def toldTemplate (name : String) (next : LiveTemplate → LookupStage)
    (answer : Answer LiveTemplate TemplateError) : LookupStage :=
  match answer.outcome name with
  | .ok template => next template
  | .error e => .done (.error e)

/-- Receive what a caller for a template is told, if there is something. -/
def receiveTemplate (crowd : Crowd) (caller : Nat) :
    Crowd × Option (Answer LiveTemplate TemplateError) :=
  let templates := crowd.templates.receive caller
  ({ crowd with templates }, templates.answer? caller)

/-- Whether a lookup is about to take a template out. -/
def LookupStage.removes : LookupStage → Bool
  | remove _ => true
  | _ => false

/-- Whether the entry of one of some names is closed. -/
def isClosed (crowd : Crowd) (part : String → Bool) : Bool :=
  crowd.lookups.any fun (_, name, stage) => part name && stage.removes

/-- Take a lookup one step on. -/
def stepLookup (crowd : Crowd) (name : String) : LookupStage → Crowd × LookupStage
  | .start =>
    match crowd.callTemplate name with
    | (crowd, _, some template) => (crowd, crowd.withTemplate template)
    | (crowd, caller, none) => (crowd, .first caller)
  | .first caller =>
    match crowd.receiveTemplate caller with
    | (crowd, some answer) => (crowd, toldTemplate name crowd.withTemplate answer)
    | (crowd, none) => (crowd, .first caller)
  | .probe template =>
    match crowd.workshop.source.fingerprint crowd.world name with
    | .ok current => (crowd, .judge template current)
    | .error e => (crowd, .done (.error e))
  | .judge template current =>
    if Caches.isCurrent current template then (crowd, .done (.ok template))
    else (crowd.withCaches (crowd.caches.dropSource name template), .evict template)
  | .evict template =>
    if crowd.isClosed fun other => other = name then (crowd, .evict template)
    else if crowd.caches.has name template then
      (crowd.withCaches crowd.caches.advance, .remove template)
    else (crowd, .again)
  | .remove _ => (crowd.withCaches (crowd.caches.remove name), .again)
  | .again =>
    match crowd.callTemplate name with
    | (crowd, _, some template) => (crowd, .done (.ok template))
    | (crowd, caller, none) => (crowd, .second caller)
  | .second caller =>
    match crowd.receiveTemplate caller with
    | (crowd, some answer) => (crowd, .done (answer.outcome name))
    | (crowd, none) => (crowd, .second caller)
  | .done outcome => (crowd, .done outcome)

/-! ## Fetching resources -/

/-- Take a fetch one step on. -/
def stepFetch (crowd : Crowd) (name : String) : FetchStage → Crowd × FetchStage
  | .start =>
    match crowd.callResource name with
    | (crowd, _, some resource) => (crowd, .done (.ok resource))
    | (crowd, caller, none) => (crowd, .waiting caller)
  | .waiting caller =>
    match crowd.receiveResource caller with
    | (crowd, some answer) => (crowd, .done (answer.outcome name))
    | (crowd, none) => (crowd, .waiting caller)
  | .done outcome => (crowd, .done outcome)

/-! ## Steps in any order -/

/-- Take an activity one step on. -/
def step (crowd : Crowd) : Activity → Crowd
  | .lookup index =>
    match Assoc.find? index crowd.lookups with
    | none => crowd
    | some (name, stage) =>
      let (crowd, stage) := crowd.stepLookup name stage
      { crowd with lookups := Assoc.set index (name, stage) crowd.lookups }
  | .fetch index =>
    match Assoc.find? index crowd.fetches with
    | none => crowd
    | some (name, stage) =>
      let (crowd, stage) := crowd.stepFetch name stage
      { crowd with fetches := Assoc.set index (name, stage) crowd.fetches }
  | .making flight =>
    match Assoc.find? flight crowd.makings with
    | none => crowd
    | some (name, stage) =>
      let (crowd, stage) := crowd.stepMaking flight name stage
      { crowd with makings := Assoc.set flight (name, stage) crowd.makings }
  | .loading flight =>
    match Assoc.find? flight crowd.loadings with
    | none => crowd
    | some (name, stage) =>
      let (crowd, stage) := crowd.stepLoading flight name stage
      { crowd with loadings := Assoc.set flight (name, stage) crowd.loadings }

/-- Begin a lookup under a number that no lookup has. -/
def beginLookup (crowd : Crowd) (index : Nat) (name : String) : Crowd :=
  if (Assoc.find? index crowd.lookups).isSome then crowd
  else { crowd with lookups := crowd.lookups ++ [(index, name, .start)] }

/-- Begin a fetch under a number that no fetch has. -/
def beginFetch (crowd : Crowd) (index : Nat) (name : String) : Crowd :=
  if (Assoc.find? index crowd.fetches).isSome then crowd
  else { crowd with fetches := crowd.fetches ++ [(index, name, .start)] }

/-- Whatever can happen to a crowd. -/
inductive Event where
  | lookup (index : Nat) (name : String)
  | fetch (index : Nat) (name : String)
  | step (activity : Activity)
  | change (alter : World → World)
  /-- The resources of some names are taken out. -/
  | sweepResources (part : String → Bool)
  /-- The templates of some names are taken out, if no entry of theirs is closed. -/
  | sweepTemplates (part : String → Bool)

/-- What an event does. -/
def happen (crowd : Crowd) : Event → Crowd
  | .lookup index name => crowd.beginLookup index name
  | .fetch index name => crowd.beginFetch index name
  | .step activity => crowd.step activity
  | .change alter => { crowd with world := alter crowd.world }
  | .sweepResources part => { crowd with resources := crowd.resources.sweep part }
  | .sweepTemplates part =>
    if crowd.isClosed part then crowd
    else { crowd with templates := crowd.templates.sweep part }

/-- What a run of events does. -/
def run (crowd : Crowd) (events : List Event) : Crowd :=
  events.foldl happen crowd

/-! ## The order used for a list of lookups -/

/-- No activity goes through more stages than this before it waits or is done. -/
def stageLimit : Nat := 12

/-- Take an activity on as far as it goes. -/
def advance (crowd : Crowd) (activity : Activity) : Crowd :=
  (List.replicate stageLimit activity).foldl step crowd

/-- Take the runs that can go on as far as they go, one after the other. -/
def settleWith : (fuel : Nat) → Crowd → Crowd
  | 0, crowd => crowd
  | fuel + 1, crowd =>
    match crowd.ready with
    | [] => crowd
    | activity :: rest => settleWith fuel ({ crowd with ready := rest }.advance activity)

/-- Take all lookups on as far as they go, and then the runs. A lookup launches at most two runs,
each of these two more, and a run becomes able to go on at most three times. -/
def round (crowd : Crowd) : Crowd :=
  let crowd := (crowd.lookups.map fun entry => Activity.lookup entry.1).foldl advance crowd
  settleWith (12 * (crowd.lookups.length + 1)) crowd

/-- A lookup is done after it has waited twice. -/
def finishAll (crowd : Crowd) : Crowd :=
  crowd.round.round.round

/-- What has come of a lookup. -/
def outcomeOf (crowd : Crowd) (index : Nat) (name : String) :
    Except TemplateError LiveTemplate :=
  match Assoc.find? index crowd.lookups with
  | some (_, .done outcome) => outcome
  | _ => .error (.producerAborted name none)

end Crowd

namespace Engine

/-- The templates of several names, looked up at once. -/
def templatesAtOnce (engine : Engine) (world : World) (spellings : List String) :
    Engine × World × List (Except TemplateError LiveTemplate) :=
  let names := spellings.map Name.canonicalOrError
  let crowd := (names.zipIdx.foldl (fun (crowd : Crowd) (name, index) =>
    match name with
    | .ok name => crowd.beginLookup index name
    | .error _ => crowd) (Crowd.ofCaches engine.workshop world engine.caches)).finishAll
  ({ engine with caches := crowd.caches }, crowd.world,
    names.zipIdx.map fun (name, index) =>
      match name with
      | .ok name => crowd.outcomeOf index name
      | .error e => .error e)

end Engine

end LiveTemplates
