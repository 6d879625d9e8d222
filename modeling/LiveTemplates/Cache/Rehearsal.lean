import LiveTemplates.Cache.Traffic
import LiveTemplates.Dictionary
import LiveTemplates.Text.Quoted

set_option autoImplicit false

/-! # Rehearsing a cache on a clock of its own

A rehearsal runs callers and productions on one thread, in the order in which they become able to
go on. What a production does is planned: it may take time, wait at a gate, and then give a value,
fail or break down. The clock stands still while anything can go on; it moves when it is told to,
or, while a caller is awaited, to the next moment at which something is due. -/

namespace LiveTemplates

/-- How a production is planned to end. -/
inductive PlannedEnding where
  | breaks (explanation : Option String)
  | fails (message : String)
  /-- With a text of its own, or with its key and its number. -/
  | gives (text : Option String)
  deriving DecidableEq, Inhabited

/-- What a production is planned to do: take some milliseconds, pass a gate, and end. -/
structure Plan where
  delay : Nat := 0
  gate : Option String := none
  ending : PlannedEnding := .gives none
  deriving DecidableEq, Inhabited

/-- A value that was produced, and the number of the production among all. -/
structure Product where
  text : String
  serial : Nat
  deriving DecidableEq, Inhabited

namespace Rehearsal

/-- A production that was started. -/
structure Production where
  flight : Nat
  key : String
  plan : Plan
  /-- Its number among those of its key. -/
  call : Nat
  /-- Its number among all. -/
  serial : Nat
  deriving DecidableEq, Inhabited

/-- How a production ends as planned. -/
def Production.ending (production : Production) : Ending Product String :=
  match production.plan.ending with
  | .breaks explanation => .broken explanation
  | .fails message => .error message
  | .gives text =>
    .value ⟨text.getD (production.key ++ "#" ++ toString production.call), production.serial⟩

/-- Something that can go on. -/
inductive Job where
  | call (caller : Nat) (key : String) (limit : Option Nat)
  | begin (flight : Nat) (key : String)
  | proceed (production : Production)
  | conclude (production : Production)
  | wake (caller : Nat)
  | expire (caller milliseconds : Nat)
  deriving DecidableEq, Inhabited

/-- A gate: the permits that nobody has taken, and the productions that wait for one. -/
structure Gate where
  permits : Nat := 0
  waiting : List Production := []
  deriving DecidableEq, Inhabited

end Rehearsal

open Rehearsal in
/-- A cache under rehearsal. -/
structure Rehearsal where
  plans : List (String × List Plan)
  traffic : Traffic String Product String := {}
  /-- How many productions of each key were started. -/
  calls : List (String × Nat) := []
  serial : Nat := 0
  now : Nat := 0
  queue : List Job := []
  /-- What is due and when, in the order in which it was set. -/
  timers : List (Nat × Job) := []
  gates : List (String × Gate) := []
  nextCaller : Nat := 0
  /-- The callers that can be awaited by name. -/
  tasks : List (String × Nat) := []
  cancelled : List Nat := []

namespace Rehearsal

/-! ## One job at a time -/

/-- Let a job go on when its turn comes. -/
def enqueue (r : Rehearsal) (job : Job) : Rehearsal :=
  { r with queue := r.queue ++ [job] }

/-- Let a job go on after some milliseconds. -/
def setTimer (r : Rehearsal) (milliseconds : Nat) (job : Job) : Rehearsal :=
  { r with timers := r.timers ++ [(r.now + milliseconds, job)] }

/-- Whether a caller waits. -/
def isWaiting (r : Rehearsal) (caller : Nat) : Bool :=
  (r.traffic.ticket? caller).isSome

/-- A caller waits, at most for its limit. -/
def attend (r : Rehearsal) (caller : Nat) (limit : Option Nat) : Rehearsal :=
  let r := { r with traffic := r.traffic.receive caller }
  if r.isWaiting caller then
    match limit with
    | none => r
    | some 0 => { r with traffic := r.traffic.expire caller 0 }
    | some milliseconds => r.setTimer milliseconds (.expire caller milliseconds)
  else r

/-- End a production and wake those that wait for it. -/
def conclude (r : Rehearsal) (production : Production) : Rehearsal :=
  let waiters := r.traffic.waitersOf production.flight
  { r with
    traffic := r.traffic.conclude production.flight production.ending
    queue := r.queue ++ waiters.map Job.wake }

/-- The gate of a name. -/
def gate (r : Rehearsal) (name : String) : Gate :=
  (Assoc.find? name r.gates).getD {}

/-- Take a production through its gate, if it has one. -/
def pass (r : Rehearsal) (production : Production) : Rehearsal :=
  match production.plan.gate with
  | none => r.conclude production
  | some name =>
    let gate := r.gate name
    if 0 < gate.permits then
      { r with gates := Assoc.set name { gate with permits := gate.permits - 1 } r.gates }.conclude
        production
    else
      { r with
        gates := Assoc.set name { gate with waiting := gate.waiting ++ [production] } r.gates }

/-- Start the production of a run: number it and follow its plan. -/
def start (r : Rehearsal) (flight : Nat) (key : String) : Rehearsal :=
  let before := (Dictionary.find? key r.calls).getD 0
  let plan := (((Assoc.find? key r.plans).getD [])[before]?).getD {}
  let production : Production := { flight, key, plan, call := before + 1, serial := r.serial + 1 }
  let r :=
    { r with calls := Dictionary.insert key (before + 1) r.calls, serial := r.serial + 1 }
  if plan.delay = 0 then r.pass production else r.setTimer plan.delay (.proceed production)

/-- Let a job go on. -/
def perform (r : Rehearsal) : Job → Rehearsal
  | .call caller key limit =>
    let (traffic, found) := r.traffic.call caller key
    let r := { r with traffic }
    match found with
    | .hit _ => r
    | .join _ => r.attend caller limit
    | .launch flight => (r.enqueue (.begin flight key)).attend caller limit
  | .begin flight key => r.start flight key
  | .proceed production => r.pass production
  | .conclude production => r.conclude production
  | .wake caller => { r with traffic := r.traffic.receive caller }
  | .expire caller milliseconds => { r with traffic := r.traffic.expire caller milliseconds }

/-- Let jobs go on until none is left. -/
def settleWith : (fuel : Nat) → Rehearsal → Rehearsal
  | 0, r => r
  | fuel + 1, r =>
    match r.queue with
    | [] => r
    | job :: rest => settleWith fuel ({ r with queue := rest }.perform job)

/-- Let everything go on that can. Each job in the queue makes at most one run and one caller, a run
has at most three jobs of its own and a caller at most two. -/
def settle (r : Rehearsal) : Rehearsal :=
  settleWith
    (6 * (r.queue.length + r.traffic.running.length + r.traffic.waiting.length) + 6) r

/-! ## Time -/

/-- The jobs that are due. -/
def due (r : Rehearsal) : List Job :=
  (r.timers.filter fun timer => timer.1 ≤ r.now).map Prod.snd

/-- Queue the jobs that are due. -/
def fire (r : Rehearsal) : Rehearsal :=
  { r with
    queue := r.queue ++ r.due
    timers := r.timers.filter fun timer => !(timer.1 ≤ r.now : Bool) }

/-- Let so many milliseconds pass, one at a time. -/
def advance : (milliseconds : Nat) → Rehearsal → Rehearsal
  | 0, r => r
  | milliseconds + 1, r => advance milliseconds ({ r with now := r.now + 1 }.fire.settle)

/-- The next moment at which something is due. -/
def nextMoment? (r : Rehearsal) : Option Nat :=
  (r.timers.map Prod.fst).min?

/-- Let the clock jump from moment to moment until a caller waits no more. A caller that is not a
task of its own goes first when its time is up. -/
def awaitWith (foremost : Bool) (caller : Nat) : (fuel : Nat) → Rehearsal → Rehearsal
  | 0, r => r
  | fuel + 1, r =>
    let r := r.settle
    if !r.isWaiting caller then r
    else
      match r.nextMoment? with
      | none => r
      | some moment =>
        let r := { r with now := max r.now moment }.fire
        if foremost then
          let (own, others) := r.queue.partition fun job =>
            match job with
            | .expire other _ => other = caller
            | _ => false
          awaitWith foremost caller fuel { r with queue := own ++ others }
        else awaitWith foremost caller fuel r

/-- Wait for a caller. A run that has not started yet sets at most one timer. -/
def await (r : Rehearsal) (foremost : Bool) (caller : Nat) : Rehearsal :=
  awaitWith foremost caller
    (r.timers.length + r.queue.length + r.traffic.running.length + 1) r

/-! ## What can be asked for -/

/-- What a caller was told. -/
def answer? (r : Rehearsal) (caller : Nat) : Option (Answer Product String) :=
  r.traffic.answer? caller

/-- Look a key up and wait for the answer. -/
def get (r : Rehearsal) (key : String) (limit : Option Nat) :
    Rehearsal × Option (Answer Product String) :=
  let caller := r.nextCaller
  let r := ({ r with nextCaller := caller + 1 }.perform (.call caller key limit)).await true caller
  (r, r.answer? caller)

/-- Look a key up in a task of its own. -/
def spawn (r : Rehearsal) (task key : String) (limit : Option Nat) : Rehearsal :=
  let caller := r.nextCaller
  { r with
    nextCaller := caller + 1
    tasks := Assoc.set task caller r.tasks
    queue := r.queue ++ [Job.call caller key limit] }.settle

/-- What comes of waiting for a task. -/
inductive Joined where
  | unknown
  | cancelled
  | answer (answer : Answer Product String)
  deriving DecidableEq, Inhabited

/-- Wait for a task, which can be done once. -/
def join (r : Rehearsal) (task : String) : Rehearsal × Joined :=
  match Assoc.find? task r.tasks with
  | none => (r, .unknown)
  | some caller =>
    let r := { r with tasks := Assoc.erase task r.tasks }
    if r.cancelled.contains caller then (r, .cancelled)
    else
      let r := r.await false caller
      (r, ((r.answer? caller).map .answer).getD .unknown)

/-- Cancel a task, unless it is finished. -/
def abort (r : Rehearsal) (task : String) : Rehearsal :=
  match Assoc.find? task r.tasks with
  | none => r
  | some caller =>
    if r.isWaiting caller then
      { r with traffic := r.traffic.leave caller, cancelled := caller :: r.cancelled }
    else r

/-- Whether a task is finished, if there is one. -/
def finished? (r : Rehearsal) (task : String) : Option Bool :=
  (Assoc.find? task r.tasks).map fun caller => !r.isWaiting caller

/-- Put permits at a gate and let those go on that waited for them. -/
def openGate (r : Rehearsal) (name : String) (permits : Nat) : Rehearsal :=
  let gate := r.gate name
  let admitted := gate.waiting.take permits
  let gate : Gate :=
    { permits := gate.permits + (permits - admitted.length), waiting := gate.waiting.drop permits }
  { r with
    gates := Assoc.set name gate r.gates
    queue := r.queue ++ admitted.map Job.conclude }.settle

/-- Take out the entry of a key. -/
def invalidate (r : Rehearsal) (key : String) : Rehearsal × Bool :=
  let (traffic, removed) := r.traffic.invalidate key
  ({ r with traffic }, removed)

/-- Take out the entry of a key if its value has a number; whether it was taken out, and whether
there was a value to look at. -/
def invalidateIf (r : Rehearsal) (key : String) (serial : Nat) : Rehearsal × Bool × Bool :=
  let asked := (r.traffic.cache.peek key).isSome
  let (traffic, removed) := r.traffic.invalidateIf key fun product => product.serial = serial
  ({ r with traffic }, removed, asked)

/-- Take out all entries. -/
def clear (r : Rehearsal) : Rehearsal :=
  { r with traffic := r.traffic.clear }

end Rehearsal

/-- A cache in short. -/
def SingleFlight.describe {κ α : Type} (cache : SingleFlight κ α) (name : String) : String :=
  "SingleFlightCache \x7b name: " ++ Text.quoted name ++ ", entries: "
    ++ toString cache.entries.length ++ " \x7d"

end LiveTemplates
