import LiveTemplates.Cache.SingleFlight

set_option autoImplicit false

/-! # Callers and runs

Around a cache there are callers that wait for runs, and runs that are under way. Each event below
happens at one instant, and they may happen in any order: a caller looks a key up, a run ends, the
end of a run becomes known, a caller whose run is known to have ended receives its outcome, a caller
gives up or goes away, entries are taken out. A run goes on whether anyone waits for it or not.

A run that gives a value or an error changes the cache when it ends, and only later does its end
become known; what other callers and other runs do may come in between. One that breaks down leaves
the cache as it is; the callers that receive the breakdown take its entry out. -/

namespace LiveTemplates

/-- How a run ends: with a value, with an error, or by breaking down, perhaps with a message. -/
inductive Ending (α ε : Type) where
  | value (value : α)
  | error (error : ε)
  | broken (explanation : Option String)
  deriving DecidableEq, Inhabited

/-- The value that a run has given. -/
def Ending.value? {α ε : Type} : Ending α ε → Option α
  | .value v => some v
  | _ => none

/-- What a caller is told: how its run ended, or that it waited so many milliseconds in vain. -/
inductive Answer (α ε : Type) where
  | ending (ending : Ending α ε)
  | timedOut (milliseconds : Nat)
  deriving DecidableEq, Inhabited

/-- A caller that waits for a run of a key. -/
structure Ticket (κ : Type) where
  caller : Nat
  key : κ
  flight : Nat
  deriving DecidableEq, Inhabited

/-- A cache with the runs under way, the ends of the others, the callers that wait, and what the
others were told. -/
structure Traffic (κ α ε : Type) where
  cache : SingleFlight κ α := {}
  running : List (Nat × κ) := []
  /-- The runs that have ended without anyone knowing yet. -/
  closing : List (Nat × Ending α ε) := []
  ended : List (Nat × Ending α ε) := []
  waiting : List (Ticket κ) := []
  answered : List (Nat × Answer α ε) := []
  deriving DecidableEq, Inhabited

namespace Traffic

variable {κ α ε : Type} [DecidableEq κ]

/-- What a caller was told. -/
def answer? (traffic : Traffic κ α ε) (caller : Nat) : Option (Answer α ε) :=
  Assoc.find? caller traffic.answered

/-- How a run is known to have ended. -/
def ending? (traffic : Traffic κ α ε) (flight : Nat) : Option (Ending α ε) :=
  Assoc.find? flight traffic.ended

/-- The ticket of a caller that waits. -/
def ticket? (traffic : Traffic κ α ε) (caller : Nat) : Option (Ticket κ) :=
  traffic.waiting.find? fun ticket => ticket.caller = caller

omit [DecidableEq κ] in
theorem ticket?_caller {traffic : Traffic κ α ε} {caller : Nat} {ticket : Ticket κ}
    (h : traffic.ticket? caller = some ticket) : ticket.caller = caller := by
  simpa using List.find?_some h

/-- The callers that wait for a run, in the order in which they came. -/
def waitersOf (traffic : Traffic κ α ε) (flight : Nat) : List Nat :=
  (traffic.waiting.filter fun ticket => ticket.flight = flight).map Ticket.caller

/-- A caller waits no more. -/
def leave (traffic : Traffic κ α ε) (caller : Nat) : Traffic κ α ε :=
  { traffic with waiting := traffic.waiting.filter fun ticket => ticket.caller ≠ caller }

/-- Tell a caller something, after which it waits no more. -/
def tell (traffic : Traffic κ α ε) (caller : Nat) (answer : Answer α ε) : Traffic κ α ε :=
  { traffic.leave caller with answered := Assoc.set caller answer traffic.answered }

/-- A caller looks a key up: it is told the value, or waits for a run. -/
def call (traffic : Traffic κ α ε) (caller : Nat) (key : κ) : Traffic κ α ε × Lookup α :=
  match traffic.cache.lookup key with
  | (cache, .hit value) => ({ traffic with cache }.tell caller (.ending (.value value)), .hit value)
  | (cache, .join flight) =>
    ({ traffic with cache, waiting := traffic.waiting ++ [⟨caller, key, flight⟩] }, .join flight)
  | (cache, .launch flight) =>
    ({ traffic with
        cache
        running := traffic.running ++ [(flight, key)]
        waiting := traffic.waiting ++ [⟨caller, key, flight⟩] }, .launch flight)

omit [DecidableEq κ] in
@[simp] theorem cache_tell (traffic : Traffic κ α ε) (caller : Nat) (answer : Answer α ε) :
    (traffic.tell caller answer).cache = traffic.cache := rfl

@[simp] theorem call_cache (traffic : Traffic κ α ε) (caller : Nat) (key : κ) :
    (traffic.call caller key).1.cache = (traffic.cache.lookup key).1 := by
  unfold call
  rcases traffic.cache.lookup key with ⟨cache, _ | _ | _⟩ <;> rfl

/-- What the end of a run does to the cache. -/
def settle (cache : SingleFlight κ α) (key : κ) (flight : Nat) :
    Ending α ε → SingleFlight κ α
  | .value value => cache.succeed key flight value
  | .error _ => cache.fail key flight
  | .broken _ => cache

/-- A run under way ends. -/
def finish (traffic : Traffic κ α ε) (flight : Nat) (ending : Ending α ε) : Traffic κ α ε :=
  match Assoc.find? flight traffic.running with
  | none => traffic
  | some key =>
    { traffic with
      cache := settle traffic.cache key flight ending
      running := Assoc.erase flight traffic.running
      closing := Assoc.set flight ending traffic.closing }

/-- The end of a run becomes known. -/
def report (traffic : Traffic κ α ε) (flight : Nat) : Traffic κ α ε :=
  match Assoc.find? flight traffic.closing with
  | none => traffic
  | some ending =>
    { traffic with
      closing := Assoc.erase flight traffic.closing
      ended := Assoc.set flight ending traffic.ended }

/-- A run under way ends, and its end becomes known at once. -/
def conclude (traffic : Traffic κ α ε) (flight : Nat) (ending : Ending α ε) : Traffic κ α ε :=
  (traffic.finish flight ending).report flight

/-- What the receipt of an outcome does to the cache. -/
def collect (cache : SingleFlight κ α) (ticket : Ticket κ) : Ending α ε → SingleFlight κ α
  | .broken _ => cache.dropFlight ticket.key ticket.flight
  | _ => cache

/-- A caller receives the outcome of its run, if it is known. -/
def receive (traffic : Traffic κ α ε) (caller : Nat) : Traffic κ α ε :=
  match traffic.ticket? caller with
  | none => traffic
  | some ticket =>
    match traffic.ending? ticket.flight with
    | none => traffic
    | some ending =>
      { traffic with cache := collect traffic.cache ticket ending }.tell caller (.ending ending)

/-- The time of a caller is up: it receives the outcome of its run, or else gives up. -/
def expire (traffic : Traffic κ α ε) (caller milliseconds : Nat) : Traffic κ α ε :=
  let traffic := traffic.receive caller
  if (traffic.ticket? caller).isSome then traffic.tell caller (.timedOut milliseconds)
  else traffic

@[simp] theorem cache_expire (traffic : Traffic κ α ε) (caller milliseconds : Nat) :
    (traffic.expire caller milliseconds).cache = (traffic.receive caller).cache := by
  unfold expire
  dsimp only
  split <;> rfl

/-- Take out the entry of a key. -/
def invalidate (traffic : Traffic κ α ε) (key : κ) : Traffic κ α ε × Bool :=
  let (cache, removed) := traffic.cache.invalidate key
  ({ traffic with cache }, removed)

/-- Take out the entry of a key if its value is there and passes a test. -/
def invalidateIf (traffic : Traffic κ α ε) (key : κ) (test : α → Bool) : Traffic κ α ε × Bool :=
  let (cache, removed) := traffic.cache.invalidateIf key test
  ({ traffic with cache }, removed)

/-- Take out the entries of some keys. -/
def sweep (traffic : Traffic κ α ε) (part : κ → Bool) : Traffic κ α ε :=
  { traffic with cache := traffic.cache.sweep part }

/-- Take out all entries. -/
def clear (traffic : Traffic κ α ε) : Traffic κ α ε :=
  { traffic with cache := traffic.cache.clear }

/-- Whatever can happen around a cache. All entries are taken out part by part: other events may
come between the sweeps. -/
inductive Event (κ α ε : Type) where
  | call (caller : Nat) (key : κ)
  | finish (flight : Nat) (ending : Ending α ε)
  | report (flight : Nat)
  | receive (caller : Nat)
  | expire (caller milliseconds : Nat)
  | leave (caller : Nat)
  | invalidate (key : κ)
  | invalidateIf (key : κ) (test : α → Bool)
  | sweep (part : κ → Bool)

/-- What an event does. A caller that waits makes no calls. -/
def step (traffic : Traffic κ α ε) : Event κ α ε → Traffic κ α ε
  | .call caller key =>
    if (traffic.ticket? caller).isSome then traffic else (traffic.call caller key).1
  | .finish flight ending => traffic.finish flight ending
  | .report flight => traffic.report flight
  | .receive caller => traffic.receive caller
  | .expire caller milliseconds => traffic.expire caller milliseconds
  | .leave caller => traffic.leave caller
  | .invalidate key => (traffic.invalidate key).1
  | .invalidateIf key test => (traffic.invalidateIf key test).1
  | .sweep part => traffic.sweep part

/-- What a run of events does. -/
def run (traffic : Traffic κ α ε) (events : List (Event κ α ε)) : Traffic κ α ε :=
  events.foldl step traffic

end Traffic

end LiveTemplates
