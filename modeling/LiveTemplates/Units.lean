import LiveTemplates.Json.Value
import LiveTemplates.Loader.Basic

set_option autoImplicit false

/-! # Executable units

Whatever is compiled is a unit, and belongs to the generation that was current when it was
defined. A registry of units numbers them and knows which of them are still in use: it keeps a
roster, and strikes out those that nobody holds whenever it is asked. Who holds what is not its
business and is told it each time. -/

namespace LiveTemplates

/-- A program: its output on data, or an explanation of what went wrong. -/
abbrev Runnable := Json → Except String String

/-- The number of a batch of units. -/
structure Generation where
  value : Nat
  deriving DecidableEq, Inhabited

/-- A generation in short. -/
def Generation.text (generation : Generation) : String :=
  "g" ++ toString generation.value

/-- A program with a number, a name and a generation. -/
structure ExecutableUnit where
  id : Nat
  name : String
  generation : Generation
  program : Runnable

namespace ExecutableUnit

/-- Run a unit on data. -/
def run (unit : ExecutableUnit) (data : Json) : Except TemplateError String :=
  (unit.program data).mapError (.render unit.name)

/-- A unit in full, without its program. -/
def describe (unit : ExecutableUnit) (compiledAt : String) : String :=
  "ExecutableUnit \x7b id: " ++ toString unit.id ++ ", name: " ++ Text.quoted unit.name
    ++ ", generation: Generation(" ++ toString unit.generation.value ++ "), compiled_at: "
    ++ compiledAt ++ ", .. \x7d"

end ExecutableUnit

/-- Defines units and knows which are in use. -/
structure Units where
  /-- Whether there is ever more than one generation. -/
  reloadable : Bool
  /-- The folder for copies of what units were compiled from. -/
  directory : Option String
  /-- The generation that is current. The numbers of generations have 64 bits: there are fewer than
  `2 ^ 64` of them. -/
  generation : Generation := ⟨1⟩
  /-- The number of the next unit, which has 64 bits too. -/
  nextId : Nat := 1
  /-- Units by number, with their generations. -/
  roster : List (Nat × Generation) := []

namespace Units

/-- Begin the next generation, if there may be one. -/
def advance (units : Units) : Units :=
  if units.reloadable then { units with generation := ⟨units.generation.value + 1⟩ } else units

@[simp] theorem directory_advance (units : Units) : units.advance.directory = units.directory := by
  unfold advance
  split <;> rfl

/-- Strike out the units that nobody holds. -/
def prune (units : Units) (held : Nat → Bool) : Units :=
  { units with roster := units.roster.filter fun entry => held entry.1 }

/-- Make a unit of a generation, under the next number. -/
def enrol (units : Units) (name : String) (program : Runnable) (generation : Generation) :
    Units × ExecutableUnit :=
  let unit : ExecutableUnit := { id := units.nextId, name, generation, program }
  ({ units with
      nextId := units.nextId + 1
      roster := units.roster ++ [(unit.id, unit.generation)] }, unit)

/-- Make a unit of the current generation. -/
def define (units : Units) (name : String) (program : Runnable) : Units × ExecutableUnit :=
  units.enrol name program units.generation

/-- How many units are held. -/
def liveCount (units : Units) (held : Nat → Bool) : Units × Nat :=
  (units.prune held, (units.prune held).roster.length)

/-- Leave out the elements that equal the one before them. -/
def withoutRepeats : List Nat → List Nat
  | [] => []
  | [n] => [n]
  | a :: b :: rest => if a = b then withoutRepeats (b :: rest) else a :: withoutRepeats (b :: rest)

/-- The generations of the units that are held, oldest first. -/
def liveGenerations (units : Units) (held : Nat → Bool) : Units × List Generation :=
  let values := (units.prune held).roster.map fun entry => entry.2.value
  (units.prune held,
    (withoutRepeats (values.mergeSort fun a b => decide (a ≤ b))).map Generation.mk)

/-! ## Copies of sources -/

/-- The path of the copy of a source that was compiled under a name in a generation. -/
def artifactPath (directory name : String) (generation : Generation) : String :=
  Path.join directory (Path.relative name ++ "." ++ generation.text ++ ".hbs")

/-- Write a copy of the source of a unit, if there is a folder for them. A copy that cannot be
written is left out. -/
def persist (units : Units) (unit : ExecutableUnit) (source : String) (world : World) : World :=
  match units.directory with
  | none => world
  | some directory =>
    { world with
      files := (world.files.writeBelow (artifactPath directory unit.name unit.generation)
        source.toUTF8 world.now).1 }

@[simp] theorem stores_persist (units : Units) (unit : ExecutableUnit) (source : String)
    (world : World) : (units.persist unit source world).stores = world.stores := by
  unfold persist
  split <;> rfl

/-- A registry in full, without its roster. -/
def describe (units : Units) : String :=
  "UnitLoader \x7b reloadable: " ++ toString units.reloadable ++ ", generation: Generation("
    ++ toString units.generation.value ++ "), artifact_dir: "
    ++ (match units.directory with
      | some directory => "Some(" ++ Text.quoted directory ++ ")"
      | none => "None")
    ++ ", .. \x7d"

end Units

end LiveTemplates
