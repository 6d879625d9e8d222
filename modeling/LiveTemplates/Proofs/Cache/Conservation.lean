import LiveTemplates.Proofs.Cache.History

set_option autoImplicit false

/-! # As many launches as departures

Every run that is launched for a key makes an entry of that key, and the next run of the key can
only be launched when that entry has left. So launches and departures of a key keep step
(`launches_balance`): there is one launch more than there are departures while the key has an entry,
and none more while it has none. -/

namespace LiveTemplates

namespace Traffic

variable {κ α ε : Type} [DecidableEq κ]

/-- Whether the entry of a key leaves the cache in an event: there is one before the event, and
afterwards no entry of the same run. -/
def departs (traffic : Traffic κ α ε) (event : Event κ α ε) (key : κ) : Bool :=
  (traffic.cache.slot? key).any fun slot => !(traffic.step event).cache.belongs key slot.flight

/-- How often an entry of a key leaves the cache in the course of events. -/
def departures (traffic : Traffic κ α ε) (key : κ) : List (Event κ α ε) → Nat
  | [] => 0
  | event :: rest =>
    (if traffic.departs event key then 1 else 0) + departures (traffic.step event) key rest

/-- How many entries a key has. -/
def entryCount (traffic : Traffic κ α ε) (key : κ) : Nat :=
  if traffic.cache.contains key then 1 else 0

/-- An entry that leaves is taken out for one of few reasons, and no other takes its place. -/
theorem removed_of_departs {traffic : Traffic κ α ε} {event : Event κ α ε} {key : κ}
    {slot : Slot α} (h : traffic.cache.slot? key = some slot)
    (departs : traffic.departs event key = true) :
    Removes traffic event key slot ∧ (traffic.step event).cache.slot? key = none := by
  have hgone : (traffic.step event).cache.belongs key slot.flight = false := by
    simpa [Traffic.departs, h] using departs
  have hchanges := step_changes traffic event key
  rw [h] at hchanges
  unfold SingleFlight.belongs at hgone
  generalize (traffic.step event).cache.slot? key = now at hchanges hgone ⊢
  cases hchanges with
  | kept => simp at hgone
  | landed _ value is runs => simp [Slot.flight] at hgone
  | removed _ why => exact ⟨why, rfl⟩

theorem entryCount_of_departs {traffic : Traffic κ α ε} {event : Event κ α ε} {key : κ}
    (departs : traffic.departs event key = true) : (traffic.step event).entryCount key = 0 := by
  obtain ⟨slot, hslot, -⟩ := (Option.any_eq_true _ _).1 departs
  simp [entryCount, SingleFlight.contains, (removed_of_departs hslot departs).2]

theorem departures_append (traffic : Traffic κ α ε) (key : κ) (first second : List (Event κ α ε)) :
    traffic.departures key (first ++ second)
      = traffic.departures key first + (traffic.run first).departures key second := by
  induction first generalizing traffic with
  | nil => simp [departures]
  | cons event rest ih =>
      simp only [List.cons_append, departures, run_cons, ih]
      omega

/-- One event launches a run of a key exactly when it makes an entry, and an entry of the key leaves
exactly when there is one no more. -/
theorem step_balance (traffic : Traffic κ α ε) (event : Event κ α ε) (key : κ) :
    (traffic.launchOf? event).toList.count key + traffic.entryCount key
      = (if traffic.departs event key then 1 else 0) + (traffic.step event).entryCount key := by
  have hcount : (traffic.launchOf? event).toList.count key
      = if traffic.launchOf? event = some key then 1 else 0 := by
    cases traffic.launchOf? event with
    | none => rfl
    | some other => simp [List.count_singleton]
  rw [hcount]
  unfold entryCount departs SingleFlight.contains SingleFlight.belongs
  -- an event that launches a run finds no entry, and one that launches none makes none
  by_cases hlaunch : traffic.launchOf? event = some key
  · obtain ⟨_, _, _, hnone⟩ := (launchOf?_eq_some_iff _ _ _).1 hlaunch
    simp [hlaunch, hnone, slot?_launch hlaunch]
  · have hchanges := step_changes traffic event key
    generalize hbefore : traffic.cache.slot? key = before at hchanges
    generalize (traffic.step event).cache.slot? key = now at hchanges
    cases hchanges with
    | kept =>
        cases before <;> simp [hlaunch]
    | launched caller is free =>
        exact absurd ((launchOf?_eq_some_iff _ _ _).2 ⟨caller, is, free, hbefore⟩) hlaunch
    | landed slot value is runs => simp [hlaunch, Slot.flight]
    | removed slot why => simp [hlaunch]

theorem launches_balance (traffic : Traffic κ α ε) (events : List (Event κ α ε)) (key : κ) :
    (traffic.launches events).count key + traffic.entryCount key
      = traffic.departures key events + (traffic.run events).entryCount key := by
  induction events generalizing traffic with
  | nil => simp [launches, departures]
  | cons event rest ih =>
      have hstep := step_balance traffic event key
      have hrest := ih (traffic.step event)
      simp only [launches, departures, List.count_append, run_cons]
      omega

/-- As many runs of a key have been launched as entries of it have left, and one more if there is an
entry now. An entry leaves only when it is taken out or when its own run has failed or broken down.
Between two departures of a key exactly one run of it is launched, however often it is called. -/
theorem count_launches (events : List (Event κ α ε)) (key : κ) :
    (launches {} events).count key
        = departures {} key events + (if (after events).cache.contains key then 1 else 0)
      ∧ (∀ event slot, (after events).cache.slot? key = some slot →
          (after events).departs event key = true → Removes (after events) event key slot)
      ∧ ∀ first during last, (after events).departs first key = true →
          (after (events ++ [first])).departures key during = 0 →
          (after (events ++ [first] ++ during)).departs last key = true →
          ((after (events ++ [first])).launches (during ++ [last])).count key = 1 := by
  refine ⟨launches_balance {} events key, ?_, ?_⟩
  · intro event slot h departs
    exact (removed_of_departs h departs).1
  · intro first during last hfirst hduring hlast
    have hbegin : (after (events ++ [first])).entryCount key = 0 := by
      rw [after_append_singleton]
      exact entryCount_of_departs hfirst
    have hend : ((after (events ++ [first])).run (during ++ [last])).entryCount key = 0 := by
      rw [← after_append, ← List.append_assoc, after_append_singleton]
      exact entryCount_of_departs hlast
    have hdepartures : (after (events ++ [first])).departures key (during ++ [last]) = 1 := by
      rw [departures_append, hduring, ← after_append]
      simp only [departures, hlast, if_true]
    have hbalance := launches_balance (after (events ++ [first])) (during ++ [last]) key
    omega

theorem count_launches_between_invalidations :
    ((after ([.call 0 7] ++ [.invalidate 7]) : Traffic Nat Nat Nat).launches
      ([.call 1 7, .call 2 7] ++ [.invalidate 7])).count 7 = 1 :=
  (count_launches ([.call 0 7] : List (Event Nat Nat Nat)) 7).2.2 (.invalidate 7)
    [.call 1 7, .call 2 7] (.invalidate 7) (by decide) (by decide) (by decide)

end Traffic

end LiveTemplates
