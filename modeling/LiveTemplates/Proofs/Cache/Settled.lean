import LiveTemplates.Cache.SingleFlight
import Mathlib.Logic.Function.Basic

set_option autoImplicit false

/-! # Caches with no run under way

Where every run that is launched is carried out at once, the cache is settled between the
operations: no entry is pending, and all there is to know of it is the value of each key. A run that
lands changes the value of its own key, one that leaves nothing behind changes no value. -/

namespace LiveTemplates

namespace SingleFlight

variable {κ α : Type} [DecidableEq κ]

/-- No run is under way, and these are the values that are there. -/
structure Shows (cache : SingleFlight κ α) (values : κ → Option α) : Prop where
  settled : ∀ key flight, cache.slot? key ≠ some (.pending flight)
  peek : ∀ key, cache.peek key = values key

variable {cache : SingleFlight κ α} {values : κ → Option α} {key : κ}

theorem shows_empty : ({} : SingleFlight κ α).Shows fun _ => none where
  settled _ _ := nofun
  peek _ := rfl

theorem shows_of_slot? (h : ∀ key, (cache.slot? key = none ∧ values key = none)
    ∨ ∃ flight value, cache.slot? key = some (.ready flight value) ∧ values key = some value) :
    cache.Shows values where
  settled key flight := by
    obtain ⟨hslot, -⟩ | ⟨_, _, hslot, -⟩ := h key <;> simp [hslot]
  peek key := by
    unfold peek
    obtain ⟨hslot, hvalue⟩ | ⟨_, _, hslot, hvalue⟩ := h key <;> simp [hslot, hvalue]

theorem Shows.slot?_of_some (h : cache.Shows values) {value : α}
    (hvalue : values key = some value) :
    ∃ flight, cache.slot? key = some (.ready flight value) := by
  rw [← h.peek key] at hvalue
  exact (cache.peek_eq_some_iff key value).1 hvalue

theorem Shows.slot?_of_none (h : cache.Shows values) (hvalue : values key = none) :
    cache.slot? key = none := by
  have hpeek := h.peek key
  rw [hvalue] at hpeek
  unfold SingleFlight.peek at hpeek
  cases hslot : cache.slot? key with
  | none => rfl
  | some slot =>
      cases slot with
      | pending flight => exact absurd hslot (h.settled key flight)
      | ready flight value => simp [hslot] at hpeek

theorem Shows.slot? (h : cache.Shows values) (key : κ) :
    (cache.slot? key = none ∧ values key = none)
      ∨ ∃ flight value, cache.slot? key = some (.ready flight value)
          ∧ values key = some value := by
  cases hvalue : values key with
  | none => exact .inl ⟨h.slot?_of_none hvalue, rfl⟩
  | some value =>
      obtain ⟨flight, hslot⟩ := h.slot?_of_some hvalue
      exact .inr ⟨flight, value, hslot, rfl⟩

/-- What a cache shows is decided by its entries. -/
theorem Shows.congr (h : cache.Shows values) {other : SingleFlight κ α}
    (hsame : ∀ key, other.slot? key = cache.slot? key) : other.Shows values := by
  refine shows_of_slot? fun key => ?_
  rw [hsame key]
  exact h.slot? key

/-! ## Lookups -/

theorem Shows.lookup_of_some (h : cache.Shows values) {value : α}
    (hvalue : values key = some value) :
    (cache.lookup key).2 = .hit value ∧ (cache.lookup key).1.Shows values := by
  obtain ⟨flight, hslot⟩ := h.slot?_of_some hvalue
  refine ⟨by rw [lookup_snd, hslot], h.congr fun other => ?_⟩
  rw [slot?_lookup, if_neg (by simp [hslot])]

theorem Shows.lookup_of_none (h : cache.Shows values) (hvalue : values key = none) :
    (cache.lookup key).2 = .launch cache.nextFlight := by
  rw [lookup_snd, h.slot?_of_none hvalue]

/-- A run that is launched has a pending entry, and the other entries stay. -/
theorem Shows.slot?_launched (h : cache.Shows values) (hvalue : values key = none) (other : κ) :
    (cache.lookup key).1.slot? other
      = if other = key then some (.pending cache.nextFlight) else cache.slot? other := by
  rw [slot?_lookup, h.slot?_of_none hvalue]
  simp

theorem Shows.belongs_launched (h : cache.Shows values) (hvalue : values key = none) :
    (cache.lookup key).1.belongs key cache.nextFlight = true := by
  rw [belongs_iff, h.slot?_launched hvalue, if_pos rfl]
  exact ⟨_, rfl, rfl⟩

/-! ## Runs that are carried out at once -/

theorem Shows.succeed (h : cache.Shows values) (hvalue : values key = none) (value : α) :
    ((cache.lookup key).1.succeed key cache.nextFlight value).Shows
      (Function.update values key (some value)) := by
  refine shows_of_slot? fun other => ?_
  rw [slot?_succeed, h.slot?_launched hvalue, h.belongs_launched hvalue]
  by_cases ho : other = key
  · subst ho
    simp
  · simpa [ho] using h.slot? other

/-- A run that takes its own entry out again leaves the cache as it was shown. -/
theorem Shows.dropFlight (h : cache.Shows values) (hvalue : values key = none) :
    ((cache.lookup key).1.dropFlight key cache.nextFlight).Shows values := by
  refine shows_of_slot? fun other => ?_
  rw [slot?_dropFlight, h.slot?_launched hvalue, h.belongs_launched hvalue]
  by_cases ho : other = key
  · subst ho
    simp [hvalue]
  · simpa [ho] using h.slot? other

theorem Shows.fail (h : cache.Shows values) (hvalue : values key = none) :
    ((cache.lookup key).1.fail key cache.nextFlight).Shows values := by
  refine (h.dropFlight hvalue).congr fun other => ?_
  rw [slot?_fail, slot?_dropFlight]

/-! ## Taking entries out -/

theorem Shows.invalidateIf (h : cache.Shows values) (key : κ) (test : α → Bool) :
    (cache.invalidateIf key test).1.Shows
      (Function.update values key ((values key).filter fun value => !test value)) := by
  refine shows_of_slot? fun other => ?_
  rw [slot?_invalidateIf, h.peek key]
  by_cases ho : other = key
  · subst ho
    obtain ⟨hslot, hvalue⟩ | ⟨flight, value, hslot, hvalue⟩ := h.slot? other
    · simp [hslot, hvalue]
    · by_cases ht : test value = true <;> simp [hslot, hvalue, ht, Option.filter]
  · simpa [ho] using h.slot? other

theorem shows_clear (cache : SingleFlight κ α) : cache.clear.Shows fun _ => none :=
  shows_of_slot? fun _ => .inl ⟨slot?_clear _ _, rfl⟩

end SingleFlight

end LiveTemplates
