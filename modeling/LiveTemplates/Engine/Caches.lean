import LiveTemplates.Cache.Traffic
import LiveTemplates.Engine.Template

set_option autoImplicit false

/-! # The two caches of an engine

One cache keeps resources, the other templates made from them. A template is looked up in two
steps. If it is cached it is taken from there, else it is made: its resource is taken from the
first cache and compiled. Where sources may change, the fingerprint that the source has now is then
compared with that of the template. If they differ, the template and its resource are taken out of
the caches, a new generation of units begins, and the template is looked up once more.

A resource whose source does not compile is taken out as well, so that the next attempt sees the
source as it is then.

Here one operation follows the other, and a run that is launched is carried out at once. -/

namespace LiveTemplates

/-- What templates are made with. -/
structure Workshop where
  source : Source
  compiler : Compiler
  /-- Whether sources may change. -/
  reloadable : Bool
  /-- The number of the engine that the templates belong to. -/
  engine : Nat

/-- What has been made so far. -/
structure Caches where
  units : Units
  resources : SingleFlight String Resource := {}
  templates : SingleFlight String LiveTemplate := {}
  /-- How often the compiler was called. -/
  compilations : Nat := 0

/-- What the end of a run comes to for whoever asked for a name. -/
def Ending.outcome {α : Type} (name : String) : Ending α TemplateError → Except TemplateError α
  | .value v => .ok v
  | .error e => .error e
  | .broken explanation => .error (.producerAborted name explanation)

namespace Workshop

/-- What a run of the first cache gives: the resource under a name. -/
def produceResource (workshop : Workshop) (world : World) (name : String) :
    Except TemplateError Resource :=
  match workshop.source.load world name with
  | .ok (some resource) => .ok resource
  | .ok none => .error (.resourceNotFound name)
  | .error e => .error e

/-- The template of a name whose unit was compiled from a resource. -/
def template (workshop : Workshop) (name : String) (resource : Resource) (unit : ExecutableUnit) :
    LiveTemplate :=
  { name := some name, unit, fingerprint := some resource.fingerprint
    source := resource.content, engine := workshop.engine }

end Workshop

namespace Caches

/-! ## Taking entries out -/

/-- Take out a resource if it bears a mark, and whether it was there. -/
def dropResource (caches : Caches) (name : String) (fingerprint : Fingerprint) : Caches × Bool :=
  let (resources, removed) := caches.resources.invalidateIf name fun resource =>
    resource.fingerprint = fingerprint
  ({ caches with resources }, removed)

/-- Take out the resource that a template was made from. -/
def dropSource (caches : Caches) (name : String) (template : LiveTemplate) : Caches :=
  match template.fingerprint with
  | some fingerprint => (caches.dropResource name fingerprint).1
  | none => caches

/-- Whether a template is the one in the cache. -/
def has (caches : Caches) (name : String) (template : LiveTemplate) : Bool :=
  (caches.templates.peek name).any template.isSame

/-- Begin a new generation of units. -/
def advance (caches : Caches) : Caches :=
  { caches with units := caches.units.advance }

/-- Take out the template of a name, whichever it is. -/
def remove (caches : Caches) (name : String) : Caches :=
  { caches with templates := (caches.templates.invalidate name).1 }

/-- Take out a template if it is still the one in the cache. A new generation begins before it is
gone, so that whoever misses it makes one of that generation. -/
def evict (caches : Caches) (name : String) (template : LiveTemplate) : Caches :=
  if caches.has name template then caches.advance.remove name else caches

theorem evict_eq (caches : Caches) (name : String) (template : LiveTemplate) :
    caches.evict name template
      = { caches with
          templates := (caches.templates.invalidateIf name template.isSame).1
          units :=
            if (caches.templates.invalidateIf name template.isSame).2 then caches.units.advance
            else caches.units } := by
  rw [SingleFlight.invalidateIf_snd, SingleFlight.invalidateIf_eq]
  unfold evict has
  cases (caches.templates.peek name).any template.isSame <;> rfl

/-- Take out a template whose source has changed, and its resource. -/
def discard (caches : Caches) (name : String) (template : LiveTemplate) : Caches :=
  (caches.dropSource name template).evict name template

/-- Take out everything. -/
def clear (caches : Caches) : Caches :=
  { caches with templates := caches.templates.clear, resources := caches.resources.clear }

/-! ## Making templates -/

/-- Compile a resource under a name and write a copy of it. -/
def compile (caches : Caches) (workshop : Workshop) (world : World) (name : String)
    (resource : Resource) : Caches × World × Ending LiveTemplate TemplateError :=
  let caches := { caches with compilations := caches.compilations + 1 }
  match workshop.compiler name resource.content with
  | .program program =>
    let (units, unit) := caches.units.define name program
    ({ caches with units }, units.persist unit resource.content world,
      .value (workshop.template name resource unit))
  | .rejected e => ((caches.dropResource name resource.fingerprint).1, world, .error e)
  | .broken explanation => (caches, world, .broken (some explanation))

/-- Compile a source that has no place in the caches. -/
def compileLoose (caches : Caches) (workshop : Workshop) (world : World) (name source : String) :
    Caches × World × Except TemplateError LiveTemplate :=
  let caches := { caches with compilations := caches.compilations + 1 }
  match workshop.compiler name source with
  | .program program =>
    let (units, unit) := caches.units.define name program
    ({ caches with units }, units.persist unit source world,
      .ok { name := none, unit, fingerprint := none, source, engine := workshop.engine })
  | .rejected e => (caches, world, .error e)
  | .broken explanation => (caches, world, .error (.producerAborted name (some explanation)))

/-! ## Lookups -/

/-- The resource under a name, loaded if it is not cached. -/
def resource (caches : Caches) (workshop : Workshop) (world : World) (name : String) :
    Caches × Except TemplateError Resource :=
  let (resources, found) := caches.resources.lookup name
  let land (flight : Nat) : Caches × Except TemplateError Resource :=
    match workshop.produceResource world name with
    | .ok resource =>
      ({ caches with resources := resources.succeed name flight resource }, .ok resource)
    | .error e => ({ caches with resources := resources.fail name flight }, .error e)
  match found with
  | .hit resource => ({ caches with resources }, .ok resource)
  | .join flight => land flight
  | .launch flight => land flight

/-- The resource under a name as a template is made from it: where sources may change, one that
bears the mark that its source has now. -/
def currentResource (caches : Caches) (workshop : Workshop) (world : World) (name : String) :
    Caches × Except TemplateError Resource :=
  match caches.resource workshop world name with
  | (caches, .error e) => (caches, .error e)
  | (caches, .ok resource) =>
    if workshop.reloadable then
      match workshop.source.fingerprint world name with
      | .error e => (caches, .error e)
      | .ok current =>
        if current = some resource.fingerprint then (caches, .ok resource)
        else (caches.dropResource name resource.fingerprint).1.resource workshop world name
    else (caches, .ok resource)

/-- What a run of the second cache gives: the template of a name. -/
def produceTemplate (caches : Caches) (workshop : Workshop) (world : World) (name : String) :
    Caches × World × Ending LiveTemplate TemplateError :=
  match caches.currentResource workshop world name with
  | (caches, .error e) => (caches, world, .error e)
  | (caches, .ok resource) => caches.compile workshop world name resource

/-- What a run that has ended leaves in the second cache, and what its callers are told. -/
def landTemplate (caches : Caches) (name : String) (flight : Nat)
    (ending : Ending LiveTemplate TemplateError) : Caches × Except TemplateError LiveTemplate :=
  let templates :=
    match ending with
    | .value template => caches.templates.succeed name flight template
    | .error _ => caches.templates.fail name flight
    | .broken _ => caches.templates.dropFlight name flight
  ({ caches with templates }, ending.outcome name)

/-- The template of a name, made if it is not cached. -/
def cachedTemplate (caches : Caches) (workshop : Workshop) (world : World) (name : String) :
    Caches × World × Except TemplateError LiveTemplate :=
  let (templates, found) := caches.templates.lookup name
  let caches := { caches with templates }
  let land (flight : Nat) : Caches × World × Except TemplateError LiveTemplate :=
    let (caches, world, ending) := caches.produceTemplate workshop world name
    let (caches, outcome) := caches.landTemplate name flight ending
    (caches, world, outcome)
  match found with
  | .hit template => (caches, world, .ok template)
  | .join flight => land flight
  | .launch flight => land flight

/-- Whether the mark that a source has now is that of a template. -/
def isCurrent (current : Option Fingerprint) (template : LiveTemplate) : Bool :=
  current.isSome && current = template.fingerprint

theorem isCurrent_iff (current : Option Fingerprint) (template : LiveTemplate) :
    isCurrent current template = true
      ↔ ∃ mark, current = some mark ∧ template.fingerprint = some mark := by
  unfold isCurrent
  cases current with
  | none => simp
  | some mark => simp [eq_comm]

/-- The template of a name, made anew if its source has changed. -/
def template (caches : Caches) (workshop : Workshop) (world : World) (name : String) :
    Caches × World × Except TemplateError LiveTemplate :=
  match caches.cachedTemplate workshop world name with
  | (caches, world, .error e) => (caches, world, .error e)
  | (caches, world, .ok template) =>
    if workshop.reloadable then
      match workshop.source.fingerprint world name with
      | .error e => (caches, world, .error e)
      | .ok current =>
        if isCurrent current template then (caches, world, .ok template)
        else (caches.discard name template).cachedTemplate workshop world name
    else (caches, world, .ok template)

/-- Whether a template in the cache holds a unit. -/
def holds (caches : Caches) (unit : Nat) : Bool :=
  caches.templates.values.any fun template => template.unit.id = unit

end Caches

end LiveTemplates
