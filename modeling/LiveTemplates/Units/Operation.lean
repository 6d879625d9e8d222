import LiveTemplates.Assoc
import LiveTemplates.Units

set_option autoImplicit false

/-! # Units and who holds them

A session is a registry of units and the handles on units that have been given out. A unit is held
as long as there is a handle on it; there may be several. The registry is not told of a release, and
looks for units that nobody holds any more only when a unit is defined and when it is asked. -/

namespace LiveTemplates

/-- Whatever can happen to a registry and to the handles on its units. -/
inductive UnitOperation where
  /-- A unit is defined, and held under a handle if one is given. -/
  | define (handle : Option String) (name : String) (program : Runnable)
  /-- What is held under a handle is held under another one as well. -/
  | share (handle other : String)
  | release (handle : String)
  | advance
  | liveCount
  | liveGenerations

/-- What an operation gives. -/
inductive UnitAnswer where
  | unit (defined : ExecutableUnit)
  | generation (generation : Generation)
  | count (count : Nat)
  | generations (generations : List Generation)
  /-- Whether there was such a handle. -/
  | done (known : Bool)

namespace UnitOperation

/-- Whether an operation begins a generation. -/
def isAdvance : UnitOperation → Bool
  | advance => true
  | _ => false

/-- Whether an operation only asks. -/
def isQuery : UnitOperation → Bool
  | liveCount | liveGenerations => true
  | _ => false

end UnitOperation

/-- The unit that an answer gives, if it gives one. -/
def UnitAnswer.unit? : UnitAnswer → Option ExecutableUnit
  | .unit defined => some defined
  | _ => none

/-- A registry of units and the handles on them. -/
structure UnitSession where
  units : Units
  handles : List (String × ExecutableUnit) := []

namespace UnitSession

/-- Whether the unit of a number is held. -/
def holds (session : UnitSession) (id : Nat) : Bool :=
  session.handles.any fun entry => entry.2.id = id

/-- Strike out the units that nobody holds. -/
def prune (session : UnitSession) : UnitSession :=
  { session with units := session.units.prune session.holds }

/-- Hold a unit under a handle, in place of what was held there. -/
def hold (session : UnitSession) (handle : String) (unit : ExecutableUnit) : UnitSession :=
  { session with handles := Assoc.set handle unit session.handles }

/-- What an operation does, and what it gives. -/
def perform (session : UnitSession) : UnitOperation → UnitSession × UnitAnswer
  | .define handle name program =>
    let (units, unit) := session.prune.units.define name program
    let session := { session with units }
    match handle with
    | some handle => (session.hold handle unit, .unit unit)
    | none => (session, .unit unit)
  | .share handle other =>
    match Assoc.find? handle session.handles with
    | some unit => (session.hold other unit, .done true)
    | none => (session, .done false)
  | .release handle =>
    ({ session with handles := Assoc.erase handle session.handles },
      .done (Assoc.find? handle session.handles).isSome)
  | .advance =>
    ({ session with units := session.units.advance }, .generation session.units.advance.generation)
  | .liveCount =>
    let (units, count) := session.units.liveCount session.holds
    ({ session with units }, .count count)
  | .liveGenerations =>
    let (units, generations) := session.units.liveGenerations session.holds
    ({ session with units }, .generations generations)

/-- What operations do one after the other, and what they give. -/
def run (session : UnitSession) : List UnitOperation → UnitSession × List UnitAnswer
  | [] => (session, [])
  | operation :: rest =>
    let (session, answer) := session.perform operation
    let (session, answers) := session.run rest
    (session, answer :: answers)

theorem perform_share_of_some {session : UnitSession} {handle : String} {unit : ExecutableUnit}
    (h : Assoc.find? handle session.handles = some unit) (other : String) :
    session.perform (.share handle other) = (session.hold other unit, .done true) := by
  simp only [perform, h]

theorem perform_share_of_none {session : UnitSession} {handle : String}
    (h : Assoc.find? handle session.handles = none) (other : String) :
    session.perform (.share handle other) = (session, .done false) := by
  simp only [perform, h]

theorem run_cons (session : UnitSession) (operation : UnitOperation) (rest : List UnitOperation) :
    session.run (operation :: rest)
      = (((session.perform operation).1.run rest).1,
        (session.perform operation).2 :: ((session.perform operation).1.run rest).2) :=
  rfl

/-- The units that were made on the way, the oldest first. -/
def defined (answers : List UnitAnswer) : List ExecutableUnit :=
  answers.filterMap UnitAnswer.unit?

end UnitSession

end LiveTemplates
