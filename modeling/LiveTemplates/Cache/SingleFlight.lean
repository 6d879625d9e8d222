import LiveTemplates.Assoc
import LiveTemplates.Cache.Counters

set_option autoImplicit false

/-! # A cache that produces each value once

A lookup of a key that has no entry makes a pending one and launches a run that produces the value.
Lookups that come while the run is under way join it. Runs are numbered, no two alike, and an entry
knows the number of its run: a run that ends changes the entry only if it is still its own, so a run
whose entry was taken out in between leaves no trace in the cache.

The functions below are what happens at one instant each. When a run ends, and who waits for it, is
not decided here. -/

namespace LiveTemplates

/-- The entry of a key, with the number of its run. -/
inductive Slot (α : Type) where
  | pending (flight : Nat)
  | ready (flight : Nat) (value : α)
  deriving DecidableEq, Inhabited

/-- The number of the run that an entry belongs to. -/
def Slot.flight {α : Type} : Slot α → Nat
  | pending flight => flight
  | ready flight _ => flight

/-- What a lookup comes to. -/
inductive Lookup (α : Type) where
  /-- A value is there. -/
  | hit (value : α)
  /-- A run under way will tell. -/
  | join (flight : Nat)
  /-- A new run has to be started. -/
  | launch (flight : Nat)
  deriving DecidableEq, Inhabited

/-- Entries, the number of the next run, and what has been counted. -/
structure SingleFlight (κ α : Type) where
  entries : List (κ × Slot α) := []
  /-- The numbers of runs have 64 bits: no two are alike as long as there are fewer than `2 ^ 64`. -/
  nextFlight : Nat := 0
  counters : Counters := {}
  deriving DecidableEq, Inhabited

namespace SingleFlight

variable {κ α : Type} [DecidableEq κ]

/-- The entry of a key. -/
def slot? (cache : SingleFlight κ α) (key : κ) : Option (Slot α) :=
  Assoc.find? key cache.entries

/-- The value of a key, if it is there. -/
def peek (cache : SingleFlight κ α) (key : κ) : Option α :=
  match cache.slot? key with
  | some (.ready _ value) => some value
  | _ => none

/-- Whether the value of a key is being produced. -/
def isPending (cache : SingleFlight κ α) (key : κ) : Bool :=
  match cache.slot? key with
  | some (.pending _) => true
  | _ => false

/-- Whether a key has an entry. -/
def contains (cache : SingleFlight κ α) (key : κ) : Bool :=
  (cache.slot? key).isSome

theorem contains_eq_false_iff (cache : SingleFlight κ α) (key : κ) :
    cache.contains key = false ↔ cache.slot? key = none := by
  simp [contains]

theorem peek_eq_some_iff (cache : SingleFlight κ α) (key : κ) (value : α) :
    cache.peek key = some value ↔ ∃ flight, cache.slot? key = some (.ready flight value) := by
  unfold peek
  cases h : cache.slot? key with
  | none => simp
  | some slot => cases slot <;> simp

/-- How many keys have entries. -/
def size (cache : SingleFlight κ α) : Nat :=
  cache.entries.length

/-- The values that are there. -/
def values (cache : SingleFlight κ α) : List α :=
  cache.entries.filterMap fun entry =>
    match entry.2 with
    | .ready _ value => some value
    | .pending _ => none

/-! ## Lookups -/

/-- Look a key up. A key without entry gets a pending one of a new run. -/
def lookup (cache : SingleFlight κ α) (key : κ) : SingleFlight κ α × Lookup α :=
  match cache.slot? key with
  | some (.ready _ value) => ({ cache with counters := cache.counters.hit }, .hit value)
  | some (.pending flight) => ({ cache with counters := cache.counters.join }, .join flight)
  | none =>
    ({ entries := Assoc.set key (.pending cache.nextFlight) cache.entries
       nextFlight := cache.nextFlight + 1
       counters := cache.counters.miss }, .launch cache.nextFlight)

theorem slot?_lookup (cache : SingleFlight κ α) (key other : κ) :
    (cache.lookup key).1.slot? other
      = if other = key ∧ cache.slot? key = none then some (.pending cache.nextFlight)
        else cache.slot? other := by
  unfold lookup
  cases h : cache.slot? key with
  | none => by_cases ho : other = key <;> simp [slot?, Assoc.find?_set, ho]
  | some slot => cases slot <;> simp [slot?]

theorem lookup_snd (cache : SingleFlight κ α) (key : κ) :
    (cache.lookup key).2
      = match cache.slot? key with
        | some (.ready _ value) => .hit value
        | some (.pending flight) => .join flight
        | none => .launch cache.nextFlight := by
  unfold lookup
  cases cache.slot? key with
  | none => rfl
  | some slot => cases slot <;> rfl

theorem nextFlight_lookup (cache : SingleFlight κ α) (key : κ) :
    (cache.lookup key).1.nextFlight
      = if cache.slot? key = none then cache.nextFlight + 1 else cache.nextFlight := by
  unfold lookup
  cases h : cache.slot? key with
  | none => simp
  | some slot => cases slot <;> simp

/-! ## Ends of runs -/

/-- Whether the entry of a key belongs to a run. -/
def belongs (cache : SingleFlight κ α) (key : κ) (flight : Nat) : Bool :=
  match cache.slot? key with
  | some slot => slot.flight = flight
  | none => false

/-- Take out the entry of a key if it belongs to a run. -/
def dropFlight (cache : SingleFlight κ α) (key : κ) (flight : Nat) : SingleFlight κ α :=
  if cache.belongs key flight then { cache with entries := Assoc.erase key cache.entries }
  else cache

/-- A run has given a value. -/
def succeed (cache : SingleFlight κ α) (key : κ) (flight : Nat) (value : α) : SingleFlight κ α :=
  let counters := cache.counters.load 0
  if cache.belongs key flight then
    { cache with entries := Assoc.set key (.ready flight value) cache.entries, counters }
  else { cache with counters }

/-- A run has failed. -/
def fail (cache : SingleFlight κ α) (key : κ) (flight : Nat) : SingleFlight κ α :=
  { cache with counters := cache.counters.failure 0 }.dropFlight key flight

theorem belongs_iff (cache : SingleFlight κ α) (key : κ) (flight : Nat) :
    cache.belongs key flight = true
      ↔ ∃ slot, cache.slot? key = some slot ∧ slot.flight = flight := by
  unfold belongs
  cases h : cache.slot? key <;> simp

theorem slot?_dropFlight (cache : SingleFlight κ α) (key other : κ) (flight : Nat) :
    (cache.dropFlight key flight).slot? other
      = if other = key ∧ cache.belongs key flight = true then none else cache.slot? other := by
  unfold dropFlight
  by_cases hb : cache.belongs key flight = true
  · simp [hb, slot?, Assoc.find?_erase]
  · simp [hb]

theorem belongs_dropFlight (cache : SingleFlight κ α) (key : κ) (flight : Nat) :
    (cache.dropFlight key flight).belongs key flight = false := by
  rw [Bool.eq_false_iff, ne_eq, belongs_iff]
  rintro ⟨slot, h, rfl⟩
  rw [slot?_dropFlight] at h
  split at h
  · cases h
  · next hn => exact hn ⟨rfl, (belongs_iff _ _ _).2 ⟨slot, h, rfl⟩⟩

theorem slot?_succeed (cache : SingleFlight κ α) (key other : κ) (flight : Nat) (value : α) :
    (cache.succeed key flight value).slot? other
      = if other = key ∧ cache.belongs key flight = true then some (.ready flight value)
        else cache.slot? other := by
  unfold succeed
  by_cases hb : cache.belongs key flight = true
  · simp [hb, slot?, Assoc.find?_set]
  · simp [hb, slot?]

theorem slot?_fail (cache : SingleFlight κ α) (key other : κ) (flight : Nat) :
    (cache.fail key flight).slot? other
      = if other = key ∧ cache.belongs key flight = true then none else cache.slot? other := by
  unfold fail
  rw [slot?_dropFlight]
  rfl

@[simp] theorem nextFlight_dropFlight (cache : SingleFlight κ α) (key : κ) (flight : Nat) :
    (cache.dropFlight key flight).nextFlight = cache.nextFlight := by
  unfold dropFlight
  split <;> rfl

@[simp] theorem nextFlight_succeed (cache : SingleFlight κ α) (key : κ) (flight : Nat) (value : α) :
    (cache.succeed key flight value).nextFlight = cache.nextFlight := by
  unfold succeed
  dsimp only
  split <;> rfl

@[simp] theorem nextFlight_fail (cache : SingleFlight κ α) (key : κ) (flight : Nat) :
    (cache.fail key flight).nextFlight = cache.nextFlight := by
  unfold fail
  rw [nextFlight_dropFlight]

/-! ## Taking entries out -/

/-- Take out the entry of a key, and whether there was one. -/
def invalidate (cache : SingleFlight κ α) (key : κ) : SingleFlight κ α × Bool :=
  if cache.contains key then
    ({ cache with
        entries := Assoc.erase key cache.entries
        counters := cache.counters.invalidation }, true)
  else (cache, false)

/-- Take out the entry of a key if its value is there and passes a test. -/
def invalidateIf (cache : SingleFlight κ α) (key : κ) (test : α → Bool) :
    SingleFlight κ α × Bool :=
  match cache.peek key with
  | some value => if test value then cache.invalidate key else (cache, false)
  | none => (cache, false)

/-- Take out the entries of some keys. -/
def sweep (cache : SingleFlight κ α) (part : κ → Bool) : SingleFlight κ α :=
  { cache with entries := cache.entries.filter fun entry => !part entry.1 }

/-- Take out all entries. -/
def clear (cache : SingleFlight κ α) : SingleFlight κ α :=
  cache.sweep fun _ => true

theorem slot?_invalidate (cache : SingleFlight κ α) (key other : κ) :
    (cache.invalidate key).1.slot? other = if other = key then none else cache.slot? other := by
  unfold invalidate
  by_cases hc : cache.contains key = true
  · simp [hc, slot?, Assoc.find?_erase]
  · rw [Bool.not_eq_true, contains_eq_false_iff] at hc
    by_cases ho : other = key <;> simp [contains, hc, ho]

theorem invalidate_snd (cache : SingleFlight κ α) (key : κ) :
    (cache.invalidate key).2 = cache.contains key := by
  unfold invalidate
  cases hcontains : cache.contains key <;> simp

theorem invalidateIf_eq (cache : SingleFlight κ α) (key : κ) (test : α → Bool) :
    cache.invalidateIf key test
      = if (cache.peek key).any test then cache.invalidate key else (cache, false) := by
  unfold invalidateIf
  cases cache.peek key <;> rfl

theorem slot?_invalidateIf (cache : SingleFlight κ α) (key other : κ) (test : α → Bool) :
    (cache.invalidateIf key test).1.slot? other
      = if other = key ∧ (cache.peek key).any test = true then none else cache.slot? other := by
  unfold invalidateIf
  cases hp : cache.peek key with
  | none => simp
  | some value => by_cases ht : test value = true <;> simp [ht, slot?_invalidate]

theorem invalidateIf_snd (cache : SingleFlight κ α) (key : κ) (test : α → Bool) :
    (cache.invalidateIf key test).2 = (cache.peek key).any test := by
  unfold invalidateIf
  cases hpeek : cache.peek key with
  | none => rfl
  | some value =>
      obtain ⟨flight, hslot⟩ := (peek_eq_some_iff _ _ _).1 hpeek
      have hcontains : cache.contains key = true := by simp [contains, hslot]
      cases htest : test value <;> simp [htest, invalidate, hcontains]

theorem slot?_sweep (cache : SingleFlight κ α) (part : κ → Bool) (other : κ) :
    (cache.sweep part).slot? other = if part other = true then none else cache.slot? other := by
  unfold sweep slot?
  rw [Assoc.find?_filter (fun key => !part key)]
  cases part other <;> rfl

@[simp] theorem slot?_clear (cache : SingleFlight κ α) (other : κ) :
    cache.clear.slot? other = none := by
  unfold clear
  rw [slot?_sweep]
  rfl

@[simp] theorem nextFlight_invalidate (cache : SingleFlight κ α) (key : κ) :
    (cache.invalidate key).1.nextFlight = cache.nextFlight := by
  unfold invalidate
  split <;> rfl

@[simp] theorem nextFlight_invalidateIf (cache : SingleFlight κ α) (key : κ) (test : α → Bool) :
    (cache.invalidateIf key test).1.nextFlight = cache.nextFlight := by
  unfold invalidateIf
  cases cache.peek key with
  | none => rfl
  | some value => by_cases ht : test value = true <;> simp [ht]

end SingleFlight

end LiveTemplates
