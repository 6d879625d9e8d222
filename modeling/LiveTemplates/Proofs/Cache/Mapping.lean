import LiveTemplates.Cache.SingleFlight

set_option autoImplicit false

/-! # The same cache with other values

Nothing that a cache does depends on its values, but for the tests that they are put to when an entry
is taken out. So whatever is done to a cache can be done to a cache with other values in their place,
and what comes out differs in those values only. -/

namespace LiveTemplates

variable {κ α β : Type}

namespace Assoc

/-- The entries with other values under the same keys. -/
def mapValues (f : α → β) (entries : List (κ × α)) : List (κ × β) :=
  entries.map fun entry => (entry.1, f entry.2)

theorem filter_mapValues (f : α → β) (test : κ → Bool) (entries : List (κ × α)) :
    (mapValues f entries).filter (fun entry => test entry.1)
      = mapValues f (entries.filter fun entry => test entry.1) :=
  List.filter_map

variable [DecidableEq κ]

theorem find?_mapValues (f : α → β) (key : κ) (entries : List (κ × α)) :
    find? key (mapValues f entries) = (find? key entries).map f := by
  induction entries with
  | nil => rfl
  | cons entry rest ih =>
      show (if entry.1 = key then some (f entry.2) else find? key (mapValues f rest)) = _
      rw [ih, find?]
      split <;> rfl

theorem set_mapValues (f : α → β) (key : κ) (value : α) (entries : List (κ × α)) :
    set key (f value) (mapValues f entries) = mapValues f (set key value entries) := by
  induction entries with
  | nil => rfl
  | cons entry rest ih =>
      show (if entry.1 = key then (key, f value) :: mapValues f rest
        else (entry.1, f entry.2) :: set key (f value) (mapValues f rest)) = _
      rw [ih, set]
      split <;> rfl

theorem erase_mapValues (f : α → β) (key : κ) (entries : List (κ × α)) :
    erase key (mapValues f entries) = mapValues f (erase key entries) :=
  filter_mapValues f (fun other => decide (other ≠ key)) entries

end Assoc

/-- The entry with another value. -/
def Slot.map (f : α → β) : Slot α → Slot β
  | pending flight => pending flight
  | ready flight value => ready flight (f value)

/-- The lookup with another value. -/
def Lookup.map (f : α → β) : Lookup α → Lookup β
  | hit value => hit (f value)
  | join flight => join flight
  | launch flight => launch flight

@[simp] theorem Slot.flight_map (f : α → β) (slot : Slot α) :
    (slot.map f).flight = slot.flight := by
  cases slot <;> rfl

namespace SingleFlight

/-- The cache with other values. -/
def map (f : α → β) (cache : SingleFlight κ α) : SingleFlight κ β where
  entries := Assoc.mapValues (Slot.map f) cache.entries
  nextFlight := cache.nextFlight
  counters := cache.counters

@[simp] theorem size_map (f : α → β) (cache : SingleFlight κ α) : (cache.map f).size = cache.size :=
  List.length_map _

/-! ## Operations on the cache with other values -/

theorem clear_map (f : α → β) (cache : SingleFlight κ α) :
    (cache.map f).clear = cache.clear.map f := by
  simp only [clear, sweep, map, Assoc.filter_mapValues (Slot.map f) fun _ => !true]

section operations

variable [DecidableEq κ] (f : α → β) (cache : SingleFlight κ α) (key : κ)

theorem slot?_map : (cache.map f).slot? key = (cache.slot? key).map (Slot.map f) :=
  Assoc.find?_mapValues ..

theorem peek_map : (cache.map f).peek key = (cache.peek key).map f := by
  unfold peek
  rw [slot?_map]
  cases cache.slot? key with
  | none => rfl
  | some slot => cases slot <;> rfl

theorem contains_map : (cache.map f).contains key = cache.contains key := by
  unfold contains
  rw [slot?_map, Option.isSome_map]

theorem belongs_map (flight : Nat) :
    (cache.map f).belongs key flight = cache.belongs key flight := by
  unfold belongs
  rw [slot?_map]
  cases cache.slot? key with
  | none => rfl
  | some slot => simp

theorem lookup_map :
    (cache.map f).lookup key = ((cache.lookup key).1.map f, (cache.lookup key).2.map f) := by
  unfold lookup
  rw [slot?_map]
  cases cache.slot? key with
  | none =>
      simp only [map, Option.map_none, ← Assoc.set_mapValues]
      rfl
  | some slot => cases slot <;> rfl

theorem dropFlight_map (flight : Nat) :
    (cache.map f).dropFlight key flight = (cache.dropFlight key flight).map f := by
  unfold dropFlight
  rw [belongs_map]
  cases cache.belongs key flight with
  | false => rfl
  | true => simp only [if_true, map, Assoc.erase_mapValues]

theorem succeed_map (flight : Nat) (value : α) :
    (cache.map f).succeed key flight (f value) = (cache.succeed key flight value).map f := by
  unfold succeed
  rw [belongs_map]
  cases cache.belongs key flight with
  | false => rfl
  | true =>
      simp only [if_true, map, ← Assoc.set_mapValues]
      rfl

theorem fail_map (flight : Nat) :
    (cache.map f).fail key flight = (cache.fail key flight).map f :=
  dropFlight_map f { cache with counters := cache.counters.failure 0 } key flight

theorem invalidate_map :
    (cache.map f).invalidate key
      = ((cache.invalidate key).1.map f, (cache.invalidate key).2) := by
  unfold invalidate
  rw [contains_map]
  cases cache.contains key with
  | false => rfl
  | true => simp only [if_true, map, Assoc.erase_mapValues]

/-- A test that comes to the same on the other value takes the entry out of both caches. -/
theorem invalidateIf_map {test : α → Bool} {other : β → Bool}
    (same : ∀ value, cache.peek key = some value → other (f value) = test value) :
    (cache.map f).invalidateIf key other
      = ((cache.invalidateIf key test).1.map f, (cache.invalidateIf key test).2) := by
  unfold invalidateIf
  rw [peek_map]
  cases hpeek : cache.peek key with
  | none => rfl
  | some value =>
      dsimp only [Option.map_some]
      rw [same value hpeek, invalidate_map]
      cases test value <;> rfl

end operations

/-! ## What all values have in common -/

/-- Every value in the cache has a property. -/
def All (P : α → Prop) (cache : SingleFlight κ α) : Prop :=
  ∀ entry ∈ cache.entries, ∀ flight value, entry.2 = .ready flight value → P value

variable {P : α → Prop} {cache : SingleFlight κ α}

/-- Functions that agree on the values of a cache give the same cache. -/
theorem map_congr {f g : α → β} (all : cache.All fun value => f value = g value) :
    cache.map f = cache.map g := by
  have hentries : Assoc.mapValues (Slot.map f) cache.entries
      = Assoc.mapValues (Slot.map g) cache.entries := by
    refine List.map_congr_left fun entry hmem => ?_
    obtain ⟨key, slot⟩ := entry
    cases slot with
    | pending flight => rfl
    | ready flight value =>
        show (key, Slot.ready flight (f value)) = (key, Slot.ready flight (g value))
        rw [all _ hmem flight value rfl]
  simp only [map, hentries]

namespace All

theorem imp {Q : α → Prop} (all : cache.All P) (h : ∀ value, P value → Q value) : cache.All Q :=
  fun entry hmem flight value hready => h value (all entry hmem flight value hready)

theorem of_subset {other : SingleFlight κ α} (all : cache.All P)
    (subset : other.entries ⊆ cache.entries) : other.All P :=
  fun entry hmem => all entry (subset hmem)

theorem clear (all : cache.All P) : cache.clear.All P :=
  all.of_subset fun _ hmem => (List.mem_filter.1 hmem).1

variable [DecidableEq κ] {key : κ}

theorem peek (all : cache.All P) {value : α} (h : cache.peek key = some value) : P value := by
  obtain ⟨flight, hslot⟩ := (peek_eq_some_iff ..).1 h
  exact all _ (Assoc.mem_of_find? hslot) flight value rfl

theorem hit (all : cache.All P) (key : κ) {value : α} (h : (cache.lookup key).2 = .hit value) :
    P value := by
  have hpeek : cache.peek key = some value := by
    rw [lookup_snd] at h
    unfold SingleFlight.peek
    cases hslot : cache.slot? key with
    | none =>
        rw [hslot] at h
        cases h
    | some slot =>
        rw [hslot] at h
        cases slot with
        | pending flight => cases h
        | ready flight found =>
            cases h
            rfl
  exact all.peek hpeek

theorem lookup (all : cache.All P) (key : κ) : (cache.lookup key).1.All P := by
  unfold SingleFlight.lookup
  cases cache.slot? key with
  | none =>
      intro entry hmem flight value hready
      rcases Assoc.mem_set hmem with rfl | hmem
      · cases hready
      · exact all entry hmem flight value hready
  | some slot => cases slot <;> exact all

theorem dropFlight (all : cache.All P) (flight : Nat) : (cache.dropFlight key flight).All P := by
  unfold SingleFlight.dropFlight
  split
  · exact all.of_subset fun _ hmem => (List.mem_filter.1 hmem).1
  · exact all

theorem succeed (all : cache.All P) (flight : Nat) {value : α} (new : P value) :
    (cache.succeed key flight value).All P := by
  unfold SingleFlight.succeed
  dsimp only
  split
  · intro entry hmem other found hready
    rcases Assoc.mem_set hmem with rfl | hmem
    · cases hready
      exact new
    · exact all entry hmem other found hready
  · exact all

theorem fail (all : cache.All P) (flight : Nat) : (cache.fail key flight).All P := by
  have hcounted : SingleFlight.All P { cache with counters := cache.counters.failure 0 } := all
  exact hcounted.dropFlight flight

theorem invalidateIf (all : cache.All P) (test : α → Bool) :
    (cache.invalidateIf key test).1.All P := by
  unfold SingleFlight.invalidateIf SingleFlight.invalidate
  cases cache.peek key with
  | none => exact all
  | some value =>
      dsimp only
      split
      · split
        · exact all.of_subset fun _ hmem => (List.mem_filter.1 hmem).1
        · exact all
      · exact all

end All

end SingleFlight

end LiveTemplates
