import LiveTemplates.Proofs.Cache.Callers
import LiveTemplates.Proofs.Cache.Landing

set_option autoImplicit false

/-! # One outcome for all callers of a run

Whoever waits for a run is told how it ended (`fares_after`), and a run ends once. When a caller is
told, the cache has already taken note: a value is found under its key, unless the entry has left,
and a run that failed or broke down has no entry any more (`noted_of_receipt`). A lookup that
follows the receipt of a failure therefore finds a later run, or launches one. -/

namespace LiveTemplates

namespace Traffic

variable {κ α ε : Type} [DecidableEq κ]

/-- A lookup of a key launches a run after a given one, or attaches to one: it waits for it or finds
its value. -/
def FindsLater (cache : SingleFlight κ α) (key : κ) (flight : Nat) : Prop :=
  ∃ later, flight < later
    ∧ ((cache.lookup key).2 = .launch later ∨ (cache.lookup key).2 = .join later
      ∨ ∃ value, cache.slot? key = some (.ready later value) ∧ (cache.lookup key).2 = .hit value)

/-- What the cache shows of a run that ended in some way, when a caller has been told so. -/
def Noted (events : List (Event κ α ε)) (key : κ) (flight : Nat) : Ending α ε → Prop
  | .value value =>
    ((after events).cache.slot? key = some (.ready flight value)
        ∧ ((after events).cache.lookup key).2 = .hit value)
      ∨ Left events key flight
  | _ =>
    (∀ other, (after events).cache.belongs other flight = false)
      ∧ FindsLater (after events).cache key flight

/-! ## Where runs begin and end -/

/-- A run that has ended did so in one of the events. -/
theorem outcome?_since (events : List (Event κ α ε)) {flight : Nat} {ending : Ending α ε}
    (h : (after events).outcome? flight = some ending) :
    ∃ before rest key, events = before ++ [.finish flight ending] ++ rest
      ∧ Assoc.find? flight (after before).running = some key := by
  induction events using List.reverseRecOn with
  | nil => cases h
  | append_singleton events event ih =>
      rw [after_append_singleton] at h
      rcases outcome?_step (after events) event flight with hsame | ⟨other, key, rfl, hrun, hend⟩
      · rw [hsame] at h
        obtain ⟨before, rest, key, rfl, hrun⟩ := ih h
        exact ⟨before, rest ++ [event], key, by simp, hrun⟩
      · rw [hend] at h
        cases h
        exact ⟨events, [], key, by simp, hrun⟩

/-- A run was launched by a call of its key. -/
theorem launched_since (events : List (Event κ α ε)) {flight : Nat} {key : κ}
    (h : (launches {} events)[flight]? = some key) :
    ∃ earlier caller later, events = earlier ++ [.call caller key] ++ later
      ∧ (after earlier).Launches caller key flight := by
  induction events using List.reverseRecOn with
  | nil => cases h
  | append_singleton events event ih =>
      rw [launches_append_singleton] at h
      rcases getElem?_of_append_toList h with h | ⟨hlaunch, rfl⟩
      · obtain ⟨earlier, caller, later, rfl, hlaunch⟩ := ih h
        exact ⟨earlier, caller, later ++ [event], by simp, hlaunch⟩
      · obtain ⟨caller, rfl, free, hnone⟩ := (launchOf?_eq_some_iff _ _ _).1 hlaunch
        refine ⟨events, caller, [], by simp, free, ?_⟩
        rw [SingleFlight.lookup_snd, hnone, (ledger_after events).next]

/-- An entry that was there before events and is not there after them has left in one of them. -/
theorem leaves_of_not_belongs {traffic : Traffic κ α ε} {key : κ} {flight : Nat}
    (events : List (Event κ α ε)) (h : traffic.cache.belongs key flight = true)
    (gone : (traffic.run events).cache.belongs key flight = false) :
    ∃ before event rest, events = before ++ [event] ++ rest
      ∧ (traffic.run before).Leaves event key flight := by
  induction events generalizing traffic with
  | nil => rw [run_nil, h] at gone; cases gone
  | cons event rest ih =>
      cases hstep : (traffic.step event).cache.belongs key flight with
      | false => exact ⟨[], event, rest, rfl, h, hstep⟩
      | true =>
          obtain ⟨before, other, rest, rfl, hleaves⟩ := ih hstep gone
          exact ⟨event :: before, other, rest, rfl, hleaves⟩

/-- A run without an entry has lost it. -/
theorem left_of_not_belongs {events : List (Event κ α ε)} {key : κ} {flight : Nat}
    (home : (launches {} events)[flight]? = some key)
    (gone : (after events).cache.belongs key flight = false) : Left events key flight := by
  obtain ⟨earlier, caller, later, rfl, free, hlook⟩ := launched_since events home
  have hnone : (after earlier).cache.slot? key = none
      ∧ flight = (after earlier).cache.nextFlight := by
    rw [SingleFlight.lookup_snd] at hlook
    cases hslot : (after earlier).cache.slot? key with
    | none => simpa [hslot, eq_comm] using hlook
    | some slot => cases slot <;> simp [hslot] at hlook
  have hbelongs : (after (earlier ++ [.call caller key])).cache.belongs key flight = true := by
    have hlaunch : (after earlier).launchOf? (.call caller key) = some key :=
      (launchOf?_eq_some_iff _ _ _).2 ⟨caller, rfl, free, hnone.1⟩
    rw [SingleFlight.belongs_iff, after_append_singleton, slot?_launch hlaunch]
    exact ⟨_, rfl, hnone.2.symm⟩
  -- the call made an entry of the run, so it has gone in one of the events since
  rw [after_append] at gone
  obtain ⟨before, event, rest, rfl, hleaves⟩ := leaves_of_not_belongs later hbelongs gone
  exact ⟨earlier ++ [.call caller key] ++ before, event, rest, by simp, by rwa [after_append]⟩

/-! ## Entries of runs that have ended -/

namespace Ledger

variable {keys : List κ} {traffic : Traffic κ α ε}

/-- The entry of a run that has ended and not broken down holds the value that the run has given. -/
theorem slot?_of_outcome (ledger : Ledger keys traffic) {key : κ} {slot : Slot α}
    {ending : Ending α ε} (h : traffic.cache.slot? key = some slot)
    (ended : traffic.outcome? slot.flight = some ending)
    (whole : ∀ explanation, ending ≠ .broken explanation) :
    ∃ value, ending = .value value ∧ slot = .ready slot.flight value := by
  cases slot with
  | ready flight value =>
      rw [Slot.flight, ledger.ready h] at ended
      cases ended
      exact ⟨value, rfl, rfl⟩
  | pending flight =>
      rcases ledger.pending h with hrun | ⟨explanation, hbroken⟩
      · rw [Slot.flight, (ledger.running hrun).2] at ended
        cases ended
      · rw [Slot.flight, hbroken] at ended
        cases ended
        exact absurd rfl (whole explanation)

/-- A lookup finds a later run than one that has lost its entry. -/
theorem findsLater (ledger : Ledger keys traffic) {key : κ} {flight : Nat}
    (home : keys[flight]? = some key) (gone : traffic.cache.belongs key flight = false) :
    FindsLater traffic.cache key flight := by
  unfold FindsLater
  rw [SingleFlight.lookup_snd]
  unfold SingleFlight.belongs at gone
  cases hslot : traffic.cache.slot? key with
  | none => exact ⟨traffic.cache.nextFlight, ledger.launch_new home, .inl rfl⟩
  | some slot =>
      have hle := (ledger.last hslot).2 flight home
      have hne : slot.flight ≠ flight := by simpa [hslot] using gone
      refine ⟨slot.flight, by omega, ?_⟩
      cases slot with
      | pending other => exact .inr (.inl rfl)
      | ready other value => exact .inr (.inr ⟨value, rfl, rfl⟩)

end Ledger

/-! ## When a caller is told -/

/-- The receipt of a breakdown takes the entry of the run out. -/
theorem not_belongs_of_receipt {traffic : Traffic κ α ε} {caller : Nat} {key : κ} {flight : Nat}
    {explanation : Option String} (waits : traffic.ticket? caller = some ⟨caller, key, flight⟩)
    (known : traffic.ending? flight = some (.broken explanation)) :
    (traffic.receive caller).cache.belongs key flight = false := by
  rw [receive_of_known waits known]
  exact SingleFlight.belongs_dropFlight traffic.cache key flight

/-- An entry that is there after a receipt was there before. -/
theorem belongs_of_receipt {traffic : Traffic κ α ε} {event : Event κ α ε} {caller : Nat} {key : κ}
    {flight : Nat} (is : event.receiver? = some caller)
    (h : (traffic.step event).cache.belongs key flight = true) :
    traffic.cache.belongs key flight = true := by
  obtain ⟨slot, hslot, rfl⟩ := (SingleFlight.belongs_iff _ _ _).1 h
  rw [SingleFlight.belongs_iff]
  rcases slot?_of_step hslot with hold | ⟨_, rfl, _⟩ | ⟨_, _, _, rfl, _⟩
  · exact ⟨slot, hold, rfl⟩
  · cases is
  · cases is

/-- A run that failed or broke down has no entry when a caller is told. -/
theorem not_belongs_of_told {events : List (Event κ α ε)} {event : Event κ α ε} {caller : Nat}
    {key : κ} {flight : Nat} {ending : Ending α ε} (is : event.receiver? = some caller)
    (waits : (after events).ticket? caller = some ⟨caller, key, flight⟩)
    (known : (after events).ending? flight = some ending) (failed : ∀ value, ending ≠ .value value)
    (other : κ) : (after (events ++ [event])).cache.belongs other flight = false := by
  have ledger := ledger_after events
  have hhome : (launches {} events)[flight]? = some key :=
    ledger.waiting (List.mem_of_find?_eq_some waits)
  rw [after_append_singleton]
  by_contra hback
  rw [Bool.not_eq_false] at hback
  obtain ⟨slot, hslot, rfl⟩ :=
    (SingleFlight.belongs_iff _ _ _).1 (belongs_of_receipt is hback)
  cases ending with
  | value value => exact failed value rfl
  | error e =>
      obtain ⟨value, hvalue, -⟩ := ledger.slot?_of_outcome hslot (ledger.known known) (by simp)
      cases hvalue
  | broken explanation =>
      -- the caller itself takes the entry out, and it can only be under the key that it waits for
      have hother := (ledger.last hslot).1
      rw [hhome] at hother
      cases hother
      rw [step_of_known is waits known, not_belongs_of_receipt waits known] at hback
      cases hback

/-- When a caller is told how its run ended, the cache has taken note of it. -/
theorem noted_of_receipt {events : List (Event κ α ε)} {event : Event κ α ε} {caller : Nat}
    {key : κ} {flight : Nat} {ending : Ending α ε} (is : event.receiver? = some caller)
    (waits : (after events).ticket? caller = some ⟨caller, key, flight⟩)
    (known : (after events).ending? flight = some ending) :
    Noted (events ++ [event]) key flight ending := by
  have ledger := ledger_after (events ++ [event])
  have hhome : (launches {} (events ++ [event]))[flight]? = some key :=
    home_append ((ledger_after events).waiting (List.mem_of_find?_eq_some waits))
  have hlater := fun hfailed other => not_belongs_of_told is waits known hfailed other
  cases ending with
  | error e => exact ⟨hlater (by simp), ledger.findsLater hhome (hlater (by simp) key)⟩
  | broken explanation => exact ⟨hlater (by simp), ledger.findsLater hhome (hlater (by simp) key)⟩
  | value value =>
      cases hbelongs : (after (events ++ [event])).cache.belongs key flight with
      | false => exact .inr (left_of_not_belongs hhome hbelongs)
      | true =>
          obtain ⟨slot, hslot, rfl⟩ := (SingleFlight.belongs_iff _ _ _).1 hbelongs
          have hended : (after (events ++ [event])).outcome? slot.flight = some (.value value) := by
            rw [after_append_singleton]
            exact (ledger_after events).outcome?_mono ((ledger_after events).known known) event
          obtain ⟨other, hvalue, hready⟩ := ledger.slot?_of_outcome hslot hended (by simp)
          cases hvalue
          rw [hready] at hslot
          refine .inl ⟨hslot, ?_⟩
          rw [SingleFlight.lookup_snd, hslot]

/-- No entry waits for a run when a caller is told how the run ended. -/
theorem not_pending_of_receipt {events : List (Event κ α ε)} {event : Event κ α ε} {caller : Nat}
    {key : κ} {flight : Nat} {ending : Ending α ε} (is : event.receiver? = some caller)
    (waits : (after events).ticket? caller = some ⟨caller, key, flight⟩)
    (known : (after events).ending? flight = some ending) (other : κ) :
    (after (events ++ [event])).cache.slot? other ≠ some (.pending flight) := by
  intro hpending
  have hbelongs : (after (events ++ [event])).cache.belongs other flight = true :=
    (SingleFlight.belongs_iff _ _ _).2 ⟨_, hpending, rfl⟩
  have hgone := fun hfailed => not_belongs_of_told is waits known hfailed other
  cases ending with
  | error e =>
      rw [hgone (by simp)] at hbelongs
      cases hbelongs
  | broken explanation =>
      rw [hgone (by simp)] at hbelongs
      cases hbelongs
  | value value =>
      have hended : (after (events ++ [event])).outcome? flight = some (.value value) := by
        rw [after_append_singleton]
        exact (ledger_after events).outcome?_mono ((ledger_after events).known known) event
      obtain ⟨_, _, hready⟩ :=
        (ledger_after (events ++ [event])).slot?_of_outcome hpending hended (by simp)
      cases hready

/-! ## One outcome -/

/-- Whoever was made to wait for a run and neither called again nor left waits for it still, or was
told how it ended, or that its time was up; what is known of its end is how it ended in one of the
events, alike for all; and when a caller is told, no entry waits for the run and the cache has taken
note: of a value, unless the entry has left, and of a failure, after which a lookup finds a later
run. -/
theorem one_outcome_per_run :
    (∀ (earlier later : List (Event κ α ε)) (caller : Nat) (key : κ) (flight : Nat),
        (after earlier).Attaches caller key flight →
        (∀ event ∈ later, event ≠ .leave caller ∧ ∀ other, event ≠ .call caller other) →
        Fares (after (earlier ++ [.call caller key] ++ later)) later caller key flight)
      ∧ (∀ (events : List (Event κ α ε)) (flight : Nat) (ending : Ending α ε),
          (after events).ending? flight = some ending →
          ∃ before rest key, events = before ++ [.finish flight ending] ++ rest
            ∧ Assoc.find? flight (after before).running = some key)
      ∧ ∀ (events : List (Event κ α ε)) (event : Event κ α ε) (caller : Nat) (key : κ)
          (flight : Nat) (ending : Ending α ε), event.receiver? = some caller →
          (after events).ticket? caller = some ⟨caller, key, flight⟩ →
          (after events).ending? flight = some ending →
          (after (events ++ [event])).answer? caller = some (.ending ending)
            ∧ (∀ other, (after (events ++ [event])).cache.slot? other ≠ some (.pending flight))
            ∧ Noted (events ++ [event]) key flight ending := by
  refine ⟨?_, ?_, ?_⟩
  · intro earlier later caller key flight attaches stays
    exact fares_after earlier later attaches stays
  · intro events flight ending known
    exact outcome?_since events ((ledger_after events).known known)
  · intro events event caller key flight ending is waits known
    refine ⟨?_, not_pending_of_receipt is waits known, noted_of_receipt is waits known⟩
    rw [after_append_singleton, step_of_known is waits known]
    exact answer?_receive_of_known waits known

/-- Two callers wait for a run that breaks down, and one of them has been told. -/
def sharedBreakdown : List (Event Nat Nat Nat) :=
  [.call 0 7, .call 1 7, .finish 0 (.broken none), .report 0, .receive 0]

theorem answer_of_sharedBreakdown :
    (after sharedBreakdown).answer? 0 = some (.ending (.broken none))
      ∧ (after (sharedBreakdown ++ [.receive 1])).answer? 1 = some (.ending (.broken none))
      ∧ Noted (sharedBreakdown ++ [.receive 1]) 7 0 (.broken none) := by
  have waits : (after sharedBreakdown).ticket? 1 = some ⟨1, 7, 0⟩ := by decide
  have known : (after sharedBreakdown).ending? 0 = some (.broken none) := by decide
  obtain ⟨hanswer, -, hnoted⟩ :=
    one_outcome_per_run.2.2 sharedBreakdown (.receive 1) 1 7 0 (.broken none) rfl waits known
  exact ⟨by decide, hanswer, hnoted⟩

end Traffic

end LiveTemplates
