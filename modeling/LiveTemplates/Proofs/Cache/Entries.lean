import LiveTemplates.Cache.Traffic

set_option autoImplicit false

/-! # What an event does to the entry of a key

An event leaves the entry of a key as it is, makes one for a new run, gives it the value of its own
run, or takes it out, and it takes it out for few reasons only. `step_changes` says so for every
event and every traffic; what is said about entries elsewhere rests on it and looks no further into
the events. -/

namespace LiveTemplates

namespace Traffic

variable {κ α ε : Type} [DecidableEq κ]

/-- The caller that receives its outcome in an event, if it is known by then. -/
def Event.receiver? : Event κ α ε → Option Nat
  | .receive caller => some caller
  | .expire caller _ => some caller
  | _ => none

/-- The reasons for which an event takes out the entry of a key. -/
inductive Removes (traffic : Traffic κ α ε) (event : Event κ α ε) (key : κ) (slot : Slot α) : Prop
  | invalidated (is : event = .invalidate key)
  | refused (test : α → Bool) (flight : Nat) (value : α) (is : event = .invalidateIf key test)
      (ready : slot = .ready flight value) (passes : test value = true)
  | swept (part : κ → Bool) (is : event = .sweep part) (within : part key = true)
  /-- The run of the entry itself has failed. -/
  | failed (e : ε) (is : event = .finish slot.flight (.error e))
      (runs : Assoc.find? slot.flight traffic.running = some key)
  /-- The run of the entry itself has broken down, and a caller is told. -/
  | broke (caller : Nat) (explanation : Option String) (is : event.receiver? = some caller)
      (waits : traffic.ticket? caller = some ⟨caller, key, slot.flight⟩)
      (known : traffic.ending? slot.flight = some (.broken explanation))

/-- What an event may do to the entry of a key: the entry before it and the entry after it. -/
inductive Changes (traffic : Traffic κ α ε) (event : Event κ α ε) (key : κ) :
    Option (Slot α) → Option (Slot α) → Prop
  | kept (slot : Option (Slot α)) : Changes traffic event key slot slot
  | launched (caller : Nat) (is : event = .call caller key)
      (free : traffic.ticket? caller = none) :
      Changes traffic event key none (some (.pending traffic.cache.nextFlight))
  | landed (slot : Slot α) (value : α) (is : event = .finish slot.flight (.value value))
      (runs : Assoc.find? slot.flight traffic.running = some key) :
      Changes traffic event key (some slot) (some (.ready slot.flight value))
  | removed (slot : Slot α) (why : Removes traffic event key slot) :
      Changes traffic event key (some slot) none

/-! ## Event by event -/

theorem call_changes (traffic : Traffic κ α ε) (caller : Nat) (called key : κ)
    (free : traffic.ticket? caller = none) :
    Changes traffic (.call caller called) key (traffic.cache.slot? key)
      ((traffic.cache.lookup called).1.slot? key) := by
  rw [SingleFlight.slot?_lookup]
  split
  · next h =>
      obtain ⟨rfl, hnone⟩ := h
      rw [hnone]
      exact .launched caller rfl free
  · exact .kept _

theorem finish_changes (traffic : Traffic κ α ε) (flight : Nat) (ending : Ending α ε) (key : κ) :
    Changes traffic (.finish flight ending) key (traffic.cache.slot? key)
      ((traffic.finish flight ending).cache.slot? key) := by
  unfold finish
  cases hrun : Assoc.find? flight traffic.running with
  | none => exact .kept _
  | some home =>
      dsimp only
      cases ending with
      | value value =>
          dsimp only [settle]
          rw [SingleFlight.slot?_succeed]
          split
          · next h =>
              obtain ⟨rfl, hb⟩ := h
              obtain ⟨slot, hslot, rfl⟩ := (SingleFlight.belongs_iff _ _ _).1 hb
              rw [hslot]
              exact .landed slot value rfl hrun
          · exact .kept _
      | error e =>
          dsimp only [settle]
          rw [SingleFlight.slot?_fail]
          split
          · next h =>
              obtain ⟨rfl, hb⟩ := h
              obtain ⟨slot, hslot, rfl⟩ := (SingleFlight.belongs_iff _ _ _).1 hb
              rw [hslot]
              exact .removed slot (.failed e rfl hrun)
          · exact .kept _
      | broken explanation => exact .kept _

/-- A caller that receives its outcome takes out the entry of its run if the run broke down. -/
theorem receive_changes (traffic : Traffic κ α ε) (event : Event κ α ε) (caller : Nat) (key : κ)
    (is : event.receiver? = some caller) :
    Changes traffic event key (traffic.cache.slot? key)
      ((traffic.receive caller).cache.slot? key) := by
  unfold receive
  cases hticket : traffic.ticket? caller with
  | none => exact .kept _
  | some ticket =>
      dsimp only
      cases hend : traffic.ending? ticket.flight with
      | none => exact .kept _
      | some ending =>
          rw [cache_tell]
          cases ending with
          | value value => exact .kept _
          | error e => exact .kept _
          | broken explanation =>
              dsimp only [collect]
              rw [SingleFlight.slot?_dropFlight]
              split
              · next h =>
                  obtain ⟨rfl, hb⟩ := h
                  obtain ⟨slot, hslot, hflight⟩ := (SingleFlight.belongs_iff _ _ _).1 hb
                  rw [hslot]
                  refine .removed slot (.broke caller explanation is ?_ (hflight ▸ hend))
                  rw [hticket, hflight, ← ticket?_caller hticket]
              · exact .kept _

theorem invalidateIf_changes (traffic : Traffic κ α ε) (named key : κ) (test : α → Bool) :
    Changes traffic (.invalidateIf named test) key (traffic.cache.slot? key)
      ((traffic.cache.invalidateIf named test).1.slot? key) := by
  rw [SingleFlight.slot?_invalidateIf]
  split
  · next h =>
      obtain ⟨rfl, hpeek⟩ := h
      cases hp : traffic.cache.peek key with
      | none => simp [hp] at hpeek
      | some value =>
          obtain ⟨flight, hslot⟩ := (SingleFlight.peek_eq_some_iff _ _ _).1 hp
          rw [hslot]
          exact .removed _ (.refused test flight value rfl rfl (by simpa [hp] using hpeek))
  · exact .kept _

/-- Taking out entries without a look at their runs. -/
theorem changes_of_removed (traffic : Traffic κ α ε) (event : Event κ α ε) (key : κ)
    (why : ∀ slot, Removes traffic event key slot) :
    Changes traffic event key (traffic.cache.slot? key) none := by
  cases traffic.cache.slot? key with
  | none => exact .kept _
  | some slot => exact .removed slot (why slot)

theorem step_changes (traffic : Traffic κ α ε) (event : Event κ α ε) (key : κ) :
    Changes traffic event key (traffic.cache.slot? key) ((traffic.step event).cache.slot? key) := by
  cases event with
  | call caller called =>
      unfold step
      dsimp only
      split
      · exact .kept _
      · next hfree =>
          rw [call_cache]
          exact call_changes traffic caller called key (by simpa using hfree)
  | finish flight ending => exact finish_changes traffic flight ending key
  | report flight =>
      unfold step report
      dsimp only
      split <;> exact .kept _
  | receive caller => exact receive_changes traffic _ caller key rfl
  | expire caller milliseconds =>
      unfold step
      dsimp only
      rw [cache_expire]
      exact receive_changes traffic _ caller key rfl
  | leave caller => exact .kept _
  | invalidate named =>
      unfold step invalidate
      dsimp only
      rw [SingleFlight.slot?_invalidate]
      split
      · next h =>
          subst h
          exact changes_of_removed traffic _ key fun slot => .invalidated rfl
      · exact .kept _
  | invalidateIf named test => exact invalidateIf_changes traffic named key test
  | sweep part =>
      unfold step sweep
      dsimp only
      rw [SingleFlight.slot?_sweep]
      split
      · next h => exact changes_of_removed traffic _ key fun slot => .swept part rfl h
      · exact .kept _

/-! ## The entry after an event -/

/-- An entry that is there after an event was there before, or is that of a run that the event
launched, or has just been given its value. -/
theorem slot?_of_step {traffic : Traffic κ α ε} {event : Event κ α ε} {key : κ} {slot : Slot α}
    (h : (traffic.step event).cache.slot? key = some slot) :
    traffic.cache.slot? key = some slot
      ∨ (∃ caller, event = .call caller key ∧ traffic.ticket? caller = none
          ∧ traffic.cache.slot? key = none ∧ slot = .pending traffic.cache.nextFlight)
      ∨ ∃ before value, traffic.cache.slot? key = some before
          ∧ event = .finish before.flight (.value value)
          ∧ Assoc.find? before.flight traffic.running = some key
          ∧ slot = .ready before.flight value := by
  have hchanges := step_changes traffic event key
  rw [h] at hchanges
  generalize traffic.cache.slot? key = before at hchanges ⊢
  cases hchanges with
  | kept => exact .inl rfl
  | launched caller is free => exact .inr (.inl ⟨caller, is, free, rfl, rfl⟩)
  | landed before value is runs => exact .inr (.inr ⟨before, value, rfl, is, runs, rfl⟩)

theorem slot?_finish {traffic : Traffic κ α ε} {key : κ} {slot : Slot α}
    (h : traffic.cache.slot? key = some slot)
    (runs : Assoc.find? slot.flight traffic.running = some key) (ending : Ending α ε) :
    (traffic.finish slot.flight ending).cache.slot? key
      = match ending with
        | .value value => some (.ready slot.flight value)
        | .error _ => none
        | .broken _ => some slot := by
  have hbelongs : traffic.cache.belongs key slot.flight = true :=
    (SingleFlight.belongs_iff _ _ _).2 ⟨slot, h, rfl⟩
  unfold finish
  simp only [runs]
  cases ending with
  | value value => simp [settle, SingleFlight.slot?_succeed, hbelongs]
  | error e => simp [settle, SingleFlight.slot?_fail, hbelongs]
  | broken explanation => simpa [settle] using h

end Traffic

end LiveTemplates
