import LiveTemplates.Proofs.Cache.History

set_option autoImplicit false

/-! # Values land in the entries of their own runs

A value that is found under a key was given by a run of that key whose entry has been there from the
launch to this moment (`ready_since`). So a run whose entry was taken out in between leaves no
trace: its entry does not come back (`belongs_of_run`), and its end does nothing to the entry of
another run (`slot?_step_of_other_run`). -/

namespace LiveTemplates

namespace Traffic

variable {κ α ε : Type} [DecidableEq κ]

/-- A caller that does not wait and calls a key launches a run. -/
def Launches (traffic : Traffic κ α ε) (caller : Nat) (key : κ) (flight : Nat) : Prop :=
  traffic.ticket? caller = none ∧ (traffic.cache.lookup key).2 = .launch flight

/-- The entry of a run leaves the cache in an event. -/
def Leaves (traffic : Traffic κ α ε) (event : Event κ α ε) (key : κ) (flight : Nat) : Prop :=
  traffic.cache.belongs key flight = true ∧ (traffic.step event).cache.belongs key flight = false

/-- The entry of a run has left the cache in the course of events. -/
def Left (events : List (Event κ α ε)) (key : κ) (flight : Nat) : Prop :=
  ∃ earlier event later, events = earlier ++ [event] ++ later
    ∧ (after earlier).Leaves event key flight

/-- The entry of a key is the same after events and at every moment of later ones. -/
def Stands (events later : List (Event κ α ε)) (key : κ) (slot : Slot α) : Prop :=
  ∀ part, part <+: later → (after (events ++ part)).cache.slot? key = some slot

/-- The run on whose behalf an event changes entries: one that ends, or one whose outcome a caller
is about to receive. -/
def actsFor? (traffic : Traffic κ α ε) (event : Event κ α ε) : Option Nat :=
  match event with
  | .finish flight _ => some flight
  | .report flight => some flight
  | event => event.receiver?.bind fun caller => (traffic.ticket? caller).map Ticket.flight

/-! ## From the launch to the value -/

theorem Stands.of_nil {events : List (Event κ α ε)} {key : κ} {slot : Slot α}
    (h : (after events).cache.slot? key = some slot) : Stands events [] key slot := by
  intro part hpart
  rw [List.prefix_nil.1 hpart, List.append_nil]
  exact h

theorem Stands.snoc {events later : List (Event κ α ε)} {event : Event κ α ε} {key : κ}
    {slot : Slot α} (stands : Stands events later key slot)
    (h : (after (events ++ later ++ [event])).cache.slot? key = some slot) :
    Stands events (later ++ [event]) key slot := by
  intro part hpart
  rcases List.prefix_concat_iff.1 hpart with rfl | hpart
  · rwa [← List.append_assoc]
  · exact stands part hpart

/-- An entry that waits for its value has done so since a call launched its run. -/
theorem pending_since (events : List (Event κ α ε)) {key : κ} {flight : Nat}
    (h : (after events).cache.slot? key = some (.pending flight)) :
    ∃ earlier caller during,
      events = earlier ++ [.call caller key] ++ during
        ∧ (after earlier).Launches caller key flight
        ∧ Stands (earlier ++ [.call caller key]) during key (.pending flight) := by
  induction events using List.reverseRecOn with
  | nil => cases h
  | append_singleton events event ih =>
      have hnow := h
      rw [after_append_singleton] at h
      rcases slot?_of_step h with h | ⟨caller, rfl, free, hnone, hslot⟩ | ⟨_, _, _, _, _, hslot⟩
      · obtain ⟨earlier, caller, during, rfl, hlaunch, hstands⟩ := ih h
        exact ⟨earlier, caller, during ++ [event], by simp, hlaunch, hstands.snoc hnow⟩
      · cases hslot
        refine ⟨events, caller, [], by simp, ⟨free, ?_⟩, Stands.of_nil hnow⟩
        rw [SingleFlight.lookup_snd, hnone]
      · cases hslot

/-- A value that is found under a key was given by the run that a call of the key launched, and the
entry of the key has been that run's from the launch on. -/
theorem ready_since (events : List (Event κ α ε)) {key : κ} {flight : Nat} {value : α}
    (h : (after events).cache.slot? key = some (.ready flight value)) :
    ∃ earlier caller during later,
      events
          = earlier ++ [.call caller key] ++ during ++ [.finish flight (.value value)] ++ later
        ∧ (after earlier).Launches caller key flight
        ∧ Stands (earlier ++ [.call caller key]) during key (.pending flight)
        ∧ Assoc.find? flight (after (earlier ++ [.call caller key] ++ during)).running = some key
        ∧ Stands (earlier ++ [.call caller key] ++ during ++ [.finish flight (.value value)]) later
            key (.ready flight value) := by
  induction events using List.reverseRecOn with
  | nil => cases h
  | append_singleton events event ih =>
      have hnow := h
      rw [after_append_singleton] at h
      rcases slot?_of_step h with h | ⟨_, _, _, _, hslot⟩ | ⟨slot, _, hslot, rfl, runs, heq⟩
      · obtain ⟨earlier, caller, during, later, rfl, hlaunch, hpending, hruns, hready⟩ := ih h
        exact ⟨earlier, caller, during, later ++ [event], by simp, hlaunch, hpending, hruns,
          hready.snoc hnow⟩
      · cases hslot
      · cases heq
        have ledger := ledger_after events
        cases slot with
        | ready flight other =>
            -- a run under way has given no value yet
            have hnone := (ledger.running runs).2
            rw [Slot.flight, ledger.ready hslot] at hnone
            cases hnone
        | pending flight =>
            obtain ⟨earlier, caller, during, rfl, hlaunch, hpending⟩ := pending_since events hslot
            exact ⟨earlier, caller, during, [], by simp [Slot.flight], hlaunch, hpending, runs,
              Stands.of_nil (by simpa using hnow)⟩

/-! ## What a run cannot do any more -/

/-- An entry of a run that was launched before events and is there after them was there all the
time. -/
theorem belongs_of_run {traffic : Traffic κ α ε} {key : κ} {flight : Nat}
    (launched : flight < traffic.cache.nextFlight) (events : List (Event κ α ε))
    (h : (traffic.run events).cache.belongs key flight = true) :
    traffic.cache.belongs key flight = true := by
  induction events generalizing traffic with
  | nil => exact h
  | cons event rest ih =>
      have hnext : flight < (traffic.step event).cache.nextFlight := by
        rw [nextFlight_step]
        omega
      obtain ⟨slot, hslot, rfl⟩ := (SingleFlight.belongs_iff _ _ _).1 (ih hnext h)
      rw [SingleFlight.belongs_iff]
      rcases slot?_of_step hslot with hold | ⟨_, _, _, _, rfl⟩ | ⟨before, _, hold, _, _, rfl⟩
      · exact ⟨slot, hold, rfl⟩
      · exact absurd launched (Nat.lt_irrefl _)
      · exact ⟨before, hold, rfl⟩

theorem home_append {events later : List (Event κ α ε)} {flight : Nat} {key : κ}
    (h : (launches {} events)[flight]? = some key) :
    (launches {} (events ++ later))[flight]? = some key := by
  rw [launches_append]
  exact getElem?_append_of_eq_some h

/-- Once the entry of a run has left, no entry belongs to that run again. -/
theorem Left.not_belongs {events : List (Event κ α ε)} {key : κ} {flight : Nat}
    (left : Left events key flight) (other : κ) :
    (after events).cache.belongs other flight = false := by
  obtain ⟨earlier, event, later, rfl, hbefore, hgone⟩ := left
  by_contra hback
  rw [Bool.not_eq_false] at hback
  obtain ⟨before, hold, rfl⟩ := (SingleFlight.belongs_iff _ _ _).1 hbefore
  obtain ⟨slot, hslot, hflight⟩ := (SingleFlight.belongs_iff _ _ _).1 hback
  -- a run has entries under one key only, so the entry would have come back under its own
  have hhome := ((ledger_after earlier).last hold).1
  have hkey : other = key := by
    have hother := ((ledger_after _).last hslot).1
    rw [hflight, List.append_assoc, home_append hhome] at hother
    exact (Option.some.inj hother).symm
  subst hkey
  have hnext : before.flight < ((after earlier).step event).cache.nextFlight := by
    have := (ledger_after earlier).launch_new hhome
    rw [nextFlight_step]
    omega
  rw [after_append, after_append_singleton] at hback
  rw [belongs_of_run hnext later hback] at hgone
  cases hgone

omit [DecidableEq κ] in
theorem actsFor?_of_receiver? (traffic : Traffic κ α ε) {event : Event κ α ε} {caller : Nat}
    (h : event.receiver? = some caller) :
    traffic.actsFor? event = (traffic.ticket? caller).map Ticket.flight := by
  cases event with
  | receive other => cases h; rfl
  | expire other milliseconds => cases h; rfl
  | _ => cases h

/-- The end of a run, and the receipt of its outcome, leave the entries of other runs alone. -/
theorem slot?_step_of_other_run {traffic : Traffic κ α ε} {event : Event κ α ε} {key : κ}
    {slot : Slot α} {flight : Nat} (acts : traffic.actsFor? event = some flight)
    (h : traffic.cache.slot? key = some slot) (other : slot.flight ≠ flight) :
    (traffic.step event).cache.slot? key = some slot := by
  have hchanges := step_changes traffic event key
  rw [h] at hchanges
  generalize (traffic.step event).cache.slot? key = now at hchanges ⊢
  cases hchanges with
  | kept => rfl
  | landed _ value is runs =>
      subst is
      exact absurd (Option.some.inj acts) other
  | removed _ why =>
      cases why with
      | invalidated is => subst is; cases acts
      | refused test _ value is ready passes => subst is; cases acts
      | swept part is within => subst is; cases acts
      | failed e is runs =>
          subst is
          exact absurd (Option.some.inj acts) other
      | broke caller explanation is waits known =>
          rw [actsFor?_of_receiver? traffic is, waits] at acts
          exact absurd (Option.some.inj acts) other

/-! ## No stale value -/

/-- A value that is found under a key was given by a run that a call of the key launched, and the
entry of the key has been that run's since; a run whose entry has left never has one again; and what
ends or is received of a run never touches the entry of another one. -/
theorem ready_only_from_own_run (events : List (Event κ α ε)) :
    (∀ key flight value, (after events).cache.slot? key = some (.ready flight value) →
      ∃ earlier caller during later,
        events
            = earlier ++ [.call caller key] ++ during ++ [.finish flight (.value value)] ++ later
          ∧ (after earlier).Launches caller key flight
          ∧ Stands (earlier ++ [.call caller key]) during key (.pending flight)
          ∧ Assoc.find? flight (after (earlier ++ [.call caller key] ++ during)).running = some key
          ∧ Stands (earlier ++ [.call caller key] ++ during ++ [.finish flight (.value value)])
              later key (.ready flight value))
      ∧ (∀ key flight, Left events key flight →
          ∀ other, (after events).cache.belongs other flight = false)
      ∧ ∀ event flight key slot, (after events).actsFor? event = some flight →
          (after events).cache.slot? key = some slot → slot.flight ≠ flight →
          ((after events).step event).cache.slot? key = some slot := by
  refine ⟨?_, ?_, ?_⟩
  · intro key flight value h
    exact ready_since events h
  · intro key flight left other
    exact left.not_belongs other
  · intro event flight key slot acts h other
    exact slot?_step_of_other_run acts h other

/-- The entry of a run is taken out, and another run of the key ends after it. -/
def overtaken : List (Event Nat Nat Nat) :=
  [.call 0 7, .invalidate 7, .call 1 7, .finish 0 (.value 10), .finish 1 (.value 20)]

theorem ready_of_overtaken :
    (after overtaken).cache.slot? 7 = some (.ready 1 20)
      ∧ (∃ earlier caller during later, overtaken
          = earlier ++ [.call caller 7] ++ during ++ [.finish 1 (.value 20)] ++ later)
      ∧ Left overtaken 7 0 ∧ ∀ other, (after overtaken).cache.belongs other 0 = false := by
  have hready : (after overtaken).cache.slot? 7 = some (.ready 1 20) := by decide
  have left : Left overtaken 7 0 :=
    ⟨[.call 0 7], .invalidate 7, [.call 1 7, .finish 0 (.value 10), .finish 1 (.value 20)], rfl,
      by decide, by decide⟩
  obtain ⟨hsince, hgone, -⟩ := ready_only_from_own_run overtaken
  obtain ⟨earlier, caller, during, later, hevents, -⟩ := hsince 7 1 20 hready
  exact ⟨hready, ⟨earlier, caller, during, later, hevents⟩, left, hgone 7 0 left⟩

end Traffic

end LiveTemplates
