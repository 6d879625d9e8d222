import LiveTemplates.Proofs.Cache.Entries
import Mathlib.Data.List.Induction

set_option autoImplicit false

/-! # Runs and their entries over time

Runs are numbered in the order in which they are launched, so the keys of all runs launched so far
say which run is for which key. `Ledger` ties the traffic to that list: an entry belongs to the last
run of its key, it is pending while that run is under way (or has broken down) and has the value
that the run has given. Every event keeps the ledger (`Ledger.step`), hence it holds after any
events (`ledger_after`). -/

namespace LiveTemplates

namespace Traffic

variable {κ α ε : Type} [DecidableEq κ]

/-! ## Runs of events -/

/-- The traffic after events, the first of which met an empty cache and nobody around it. -/
def after (events : List (Event κ α ε)) : Traffic κ α ε :=
  run {} events

@[simp] theorem run_nil (traffic : Traffic κ α ε) : traffic.run [] = traffic := rfl

@[simp] theorem run_cons (traffic : Traffic κ α ε) (event : Event κ α ε)
    (events : List (Event κ α ε)) :
    traffic.run (event :: events) = (traffic.step event).run events := rfl

theorem run_append (traffic : Traffic κ α ε) (first second : List (Event κ α ε)) :
    traffic.run (first ++ second) = (traffic.run first).run second :=
  List.foldl_append

theorem after_append (first second : List (Event κ α ε)) :
    after (first ++ second) = (after first).run second :=
  run_append {} first second

theorem after_append_singleton (events : List (Event κ α ε)) (event : Event κ α ε) :
    after (events ++ [event]) = (after events).step event :=
  run_append {} events [event]

/-! ## Launches -/

/-- The key of the run that an event launches, if it launches one. -/
def launchOf? (traffic : Traffic κ α ε) : Event κ α ε → Option κ
  | .call caller key =>
    if (traffic.ticket? caller).isSome then none
    else
      match (traffic.cache.lookup key).2 with
      | .launch _ => some key
      | _ => none
  | _ => none

/-- The keys of the runs that events launch, in order. -/
def launches (traffic : Traffic κ α ε) : List (Event κ α ε) → List κ
  | [] => []
  | event :: rest => (traffic.launchOf? event).toList ++ launches (traffic.step event) rest

theorem launchOf?_eq_some_iff (traffic : Traffic κ α ε) (event : Event κ α ε) (key : κ) :
    traffic.launchOf? event = some key ↔
      ∃ caller, event = .call caller key ∧ traffic.ticket? caller = none
        ∧ traffic.cache.slot? key = none := by
  cases event with
  | call caller called =>
      simp only [launchOf?, SingleFlight.lookup_snd, Event.call.injEq]
      by_cases hkey : called = key
      · subst hkey
        cases hticket : traffic.ticket? caller with
        | some ticket => simp [hticket]
        | none =>
            cases hslot : traffic.cache.slot? called with
            | none => simp [hticket]
            | some slot => cases slot <;> simp
      · have hnot : ∀ other, ¬ (caller = other ∧ called = key) := fun _ h => hkey h.2
        simp only [hnot, false_and, exists_false, iff_false]
        split
        · simp
        · split <;> simp [hkey]
  | _ => simp [launchOf?]

theorem slot?_launch {traffic : Traffic κ α ε} {event : Event κ α ε} {key : κ}
    (h : traffic.launchOf? event = some key) :
    (traffic.step event).cache.slot? key = some (.pending traffic.cache.nextFlight) := by
  obtain ⟨caller, rfl, free, hnone⟩ := (launchOf?_eq_some_iff _ _ _).1 h
  simp [step, free, SingleFlight.slot?_lookup, hnone]

theorem launches_append (traffic : Traffic κ α ε) (first second : List (Event κ α ε)) :
    traffic.launches (first ++ second)
      = traffic.launches first ++ (traffic.run first).launches second := by
  induction first generalizing traffic with
  | nil => rfl
  | cons event rest ih => simp [launches, ih]

theorem launches_append_singleton (events : List (Event κ α ε)) (event : Event κ α ε) :
    launches {} (events ++ [event])
      = launches {} events ++ ((after events).launchOf? event).toList := by
  rw [launches_append]
  simp [launches, after]

/-! ## Runs under way and runs that have ended -/

/-- How a run has ended, whether or not it is known. -/
def outcome? (traffic : Traffic κ α ε) (flight : Nat) : Option (Ending α ε) :=
  (Assoc.find? flight traffic.closing).or (traffic.ending? flight)

theorem running_call (traffic : Traffic κ α ε) (caller : Nat) (key : κ) :
    (traffic.call caller key).1.running
      = if traffic.cache.slot? key = none then traffic.running ++ [(traffic.cache.nextFlight, key)]
        else traffic.running := by
  unfold call SingleFlight.lookup
  cases traffic.cache.slot? key with
  | none => rfl
  | some slot => cases slot <;> rfl

theorem closing_call (traffic : Traffic κ α ε) (caller : Nat) (key : κ) :
    (traffic.call caller key).1.closing = traffic.closing := by
  unfold call
  rcases traffic.cache.lookup key with ⟨cache, _ | _ | _⟩ <;> rfl

theorem ended_call (traffic : Traffic κ α ε) (caller : Nat) (key : κ) :
    (traffic.call caller key).1.ended = traffic.ended := by
  unfold call
  rcases traffic.cache.lookup key with ⟨cache, _ | _ | _⟩ <;> rfl

/-- A receipt changes nothing about the runs. -/
theorem runs_receive (traffic : Traffic κ α ε) (caller : Nat) :
    (traffic.receive caller).running = traffic.running
      ∧ (traffic.receive caller).closing = traffic.closing
      ∧ (traffic.receive caller).ended = traffic.ended := by
  unfold receive
  split
  · exact ⟨rfl, rfl, rfl⟩
  · split <;> exact ⟨rfl, rfl, rfl⟩

theorem runs_expire (traffic : Traffic κ α ε) (caller milliseconds : Nat) :
    (traffic.expire caller milliseconds).running = traffic.running
      ∧ (traffic.expire caller milliseconds).closing = traffic.closing
      ∧ (traffic.expire caller milliseconds).ended = traffic.ended := by
  unfold expire
  dsimp only
  split <;> exact runs_receive traffic caller

theorem nextFlight_receive (traffic : Traffic κ α ε) (caller : Nat) :
    (traffic.receive caller).cache.nextFlight = traffic.cache.nextFlight := by
  unfold receive
  split
  · rfl
  · split
    · rfl
    · next ending _ => cases ending <;> simp [collect]

theorem nextFlight_step (traffic : Traffic κ α ε) (event : Event κ α ε) :
    (traffic.step event).cache.nextFlight
      = traffic.cache.nextFlight + (traffic.launchOf? event).toList.length := by
  cases event with
  | call caller key =>
      simp only [step, launchOf?, SingleFlight.lookup_snd]
      split
      · rfl
      · rw [call_cache, SingleFlight.nextFlight_lookup]
        cases traffic.cache.slot? key with
        | none => rfl
        | some slot => cases slot <;> rfl
  | finish flight ending =>
      unfold step finish
      dsimp only
      split
      · rfl
      · cases ending <;> simp [settle, launchOf?]
  | report flight =>
      unfold step report
      dsimp only
      split <;> rfl
  | receive caller => exact nextFlight_receive traffic caller
  | expire caller milliseconds =>
      unfold step
      dsimp only
      rw [cache_expire]
      exact nextFlight_receive traffic caller
  | leave caller => rfl
  | invalidate key => simp [step, invalidate, launchOf?]
  | invalidateIf key test => simp [step, invalidateIf, launchOf?]
  | sweep part => rfl

/-- A run that is under way after an event was so before, or has just been launched. -/
theorem running_of_step {traffic : Traffic κ α ε} {event : Event κ α ε} {flight : Nat} {key : κ}
    (h : Assoc.find? flight (traffic.step event).running = some key) :
    (Assoc.find? flight traffic.running = some key ∧ ∀ ending, event ≠ .finish flight ending)
      ∨ (traffic.launchOf? event = some key ∧ flight = traffic.cache.nextFlight) := by
  cases event with
  | call caller called =>
      unfold step at h
      dsimp only at h
      split at h
      · exact .inl ⟨h, by simp⟩
      · next hfree =>
          rw [running_call] at h
          split at h
          · next hnone =>
              rw [Assoc.find?_append, Option.or_eq_some_iff] at h
              rcases h with h | ⟨_, h⟩
              · exact .inl ⟨h, by simp⟩
              · simp only [Assoc.find?, Option.ite_none_right_eq_some, Option.some.injEq] at h
                obtain ⟨hflight, rfl⟩ := h
                refine .inr ⟨?_, hflight.symm⟩
                exact (launchOf?_eq_some_iff _ _ _).2 ⟨caller, rfl, by simpa using hfree, hnone⟩
          · exact .inl ⟨h, by simp⟩
  | finish other ending =>
      unfold step finish at h
      dsimp only at h
      split at h
      · next hrun =>
          refine .inl ⟨h, ?_⟩
          rintro _ ⟨⟩
          simp [hrun] at h
      · rw [Assoc.find?_erase] at h
        split at h
        · cases h
        · next hne => exact .inl ⟨h, fun _ he => hne (by injection he with h1; exact h1.symm)⟩
  | report other =>
      unfold step report at h
      dsimp only at h
      split at h <;> exact .inl ⟨h, by simp⟩
  | receive caller =>
      unfold step at h
      dsimp only at h
      rw [(runs_receive traffic caller).1] at h
      exact .inl ⟨h, by simp⟩
  | expire caller milliseconds =>
      unfold step at h
      dsimp only at h
      rw [(runs_expire traffic caller milliseconds).1] at h
      exact .inl ⟨h, by simp⟩
  | leave caller => exact .inl ⟨h, by simp⟩
  | invalidate key => exact .inl ⟨h, by simp⟩
  | invalidateIf key test => exact .inl ⟨h, by simp⟩
  | sweep part => exact .inl ⟨h, by simp⟩

theorem outcome?_finish {traffic : Traffic κ α ε} {flight : Nat} {key : κ}
    (h : Assoc.find? flight traffic.running = some key) (ending : Ending α ε) (other : Nat) :
    (traffic.finish flight ending).outcome? other
      = if other = flight then some ending else traffic.outcome? other := by
  simp only [finish, h, outcome?, ending?, Assoc.find?_set]
  by_cases ho : other = flight <;> simp [ho]

omit [DecidableEq κ] in
theorem outcome?_report (traffic : Traffic κ α ε) (flight other : Nat) :
    (traffic.report flight).outcome? other = traffic.outcome? other := by
  unfold report
  cases h : Assoc.find? flight traffic.closing with
  | none => rfl
  | some ending =>
      simp only [outcome?, ending?, Assoc.find?_erase, Assoc.find?_set]
      by_cases ho : other = flight <;> simp [ho, h]

/-- Only the end of a run that is under way changes how runs have ended. -/
theorem outcome?_step (traffic : Traffic κ α ε) (event : Event κ α ε) (flight : Nat) :
    (traffic.step event).outcome? flight = traffic.outcome? flight
      ∨ ∃ ending key, event = .finish flight ending
          ∧ Assoc.find? flight traffic.running = some key
          ∧ (traffic.step event).outcome? flight = some ending := by
  cases event with
  | finish other ending =>
      cases hrun : Assoc.find? other traffic.running with
      | none => exact .inl (by simp [step, finish, hrun])
      | some key =>
          by_cases ho : flight = other
          · subst ho
            exact .inr ⟨ending, key, rfl, hrun, by simp [step, outcome?_finish hrun]⟩
          · exact .inl (by simp [step, outcome?_finish hrun, ho])
  | report other => exact .inl (outcome?_report traffic other flight)
  | call caller key =>
      unfold step
      dsimp only
      split
      · exact .inl rfl
      · exact .inl (by simp only [outcome?, ending?, closing_call, ended_call])
  | receive caller =>
      obtain ⟨-, hclosing, hended⟩ := runs_receive traffic caller
      exact .inl (by simp only [step, outcome?, ending?, hclosing, hended])
  | expire caller milliseconds =>
      obtain ⟨-, hclosing, hended⟩ := runs_expire traffic caller milliseconds
      exact .inl (by simp only [step, outcome?, ending?, hclosing, hended])
  | leave caller => exact .inl rfl
  | invalidate key => exact .inl rfl
  | invalidateIf key test => exact .inl rfl
  | sweep part => exact .inl rfl

/-- A run under way is still so after an event, unless it has just ended. -/
theorem run_step {traffic : Traffic κ α ε} {flight : Nat} {key : κ}
    (runs : Assoc.find? flight traffic.running = some key) (event : Event κ α ε) :
    Assoc.find? flight (traffic.step event).running = some key
      ∨ ∃ ending, event = .finish flight ending
          ∧ (traffic.step event).outcome? flight = some ending := by
  cases event with
  | finish other ending =>
      by_cases ho : flight = other
      · subst ho
        exact .inr ⟨ending, rfl, by simp [step, outcome?_finish runs]⟩
      · left
        unfold step finish
        dsimp only
        split
        · exact runs
        · simp [Assoc.find?_erase, ho, runs]
  | call caller called =>
      left
      unfold step
      dsimp only
      split
      · exact runs
      · rw [running_call]
        split
        · simp [Assoc.find?_append, runs]
        · exact runs
  | report other =>
      left
      unfold step report
      dsimp only
      split <;> exact runs
  | receive caller => exact .inl (by simpa only [step, (runs_receive traffic caller).1] using runs)
  | expire caller milliseconds =>
      exact .inl (by simpa only [step, (runs_expire traffic caller milliseconds).1] using runs)
  | leave caller => exact .inl runs
  | invalidate key => exact .inl runs
  | invalidateIf key test => exact .inl runs
  | sweep part => exact .inl runs

/-- Only the report of a run that has ended changes what is known about ends. -/
theorem ending?_step (traffic : Traffic κ α ε) (event : Event κ α ε) (flight : Nat) :
    (traffic.step event).ending? flight = traffic.ending? flight
      ∨ ∃ ending, event = .report flight ∧ Assoc.find? flight traffic.closing = some ending
          ∧ (traffic.step event).ending? flight = some ending := by
  cases event with
  | report other =>
      cases hclosing : Assoc.find? other traffic.closing with
      | none => exact .inl (by simp [step, report, hclosing])
      | some ending =>
          by_cases ho : flight = other
          · subst ho
            refine .inr ⟨ending, rfl, hclosing, ?_⟩
            simp [step, report, hclosing, ending?, Assoc.find?_set]
          · exact .inl (by simp [step, report, hclosing, ending?, Assoc.find?_set, ho])
  | finish other ending =>
      unfold step finish
      dsimp only
      split <;> exact .inl rfl
  | call caller key =>
      unfold step
      dsimp only
      split
      · exact .inl rfl
      · exact .inl (by simp only [ending?, ended_call])
  | receive caller => exact .inl (by simp only [step, ending?, (runs_receive traffic caller).2.2])
  | expire caller milliseconds =>
      exact .inl (by simp only [step, ending?, (runs_expire traffic caller milliseconds).2.2])
  | leave caller => exact .inl rfl
  | invalidate key => exact .inl rfl
  | invalidateIf key test => exact .inl rfl
  | sweep part => exact .inl rfl

/-! ## Callers that wait -/

/-- A call by a caller that does not wait makes it wait for a run of the key. -/
def Attaches (traffic : Traffic κ α ε) (caller : Nat) (key : κ) (flight : Nat) : Prop :=
  traffic.ticket? caller = none
    ∧ ((traffic.cache.lookup key).2 = .join flight ∨ (traffic.cache.lookup key).2 = .launch flight)

omit [DecidableEq κ] in
theorem mem_waiting_tell {traffic : Traffic κ α ε} {caller : Nat} {answer : Answer α ε}
    {ticket : Ticket κ} :
    ticket ∈ (traffic.tell caller answer).waiting
      ↔ ticket ∈ traffic.waiting ∧ ticket.caller ≠ caller := by
  simp [tell, leave]

theorem mem_waiting_receive {traffic : Traffic κ α ε} {caller : Nat} {ticket : Ticket κ}
    (h : ticket ∈ (traffic.receive caller).waiting) : ticket ∈ traffic.waiting := by
  unfold receive at h
  split at h
  · exact h
  · split at h
    · exact h
    · exact (mem_waiting_tell.1 h).1

/-- A caller that waits after an event has waited before, or has just called. -/
theorem waiting_of_step {traffic : Traffic κ α ε} {event : Event κ α ε} {ticket : Ticket κ}
    (h : ticket ∈ (traffic.step event).waiting) :
    ticket ∈ traffic.waiting
      ∨ (event = .call ticket.caller ticket.key
          ∧ traffic.Attaches ticket.caller ticket.key ticket.flight) := by
  cases event with
  | call caller key =>
      unfold step at h
      dsimp only at h
      split at h
      · exact .inl h
      · next hfree =>
          have hfree : traffic.ticket? caller = none := by simpa using hfree
          unfold call at h
          split at h
          · exact .inl (mem_waiting_tell.1 h).1
          · next hlook =>
              rcases List.mem_append.1 h with h | h
              · exact .inl h
              · rw [List.mem_singleton] at h
                subst h
                exact .inr ⟨rfl, hfree, .inl (by rw [hlook])⟩
          · next hlook =>
              rcases List.mem_append.1 h with h | h
              · exact .inl h
              · rw [List.mem_singleton] at h
                subst h
                exact .inr ⟨rfl, hfree, .inr (by rw [hlook])⟩
  | finish flight ending =>
      unfold step finish at h
      dsimp only at h
      split at h <;> exact .inl h
  | report flight =>
      unfold step report at h
      dsimp only at h
      split at h <;> exact .inl h
  | receive caller => exact .inl (mem_waiting_receive h)
  | expire caller milliseconds =>
      unfold step expire at h
      dsimp only at h
      split at h
      · exact .inl (mem_waiting_receive (mem_waiting_tell.1 h).1)
      · exact .inl (mem_waiting_receive h)
  | leave caller => exact .inl (List.mem_filter.1 h).1
  | invalidate key => exact .inl h
  | invalidateIf key test => exact .inl h
  | sweep part => exact .inl h

/-! ## The ledger -/

/-- How the traffic fits the keys of the runs that were launched. -/
structure Ledger (keys : List κ) (traffic : Traffic κ α ε) : Prop where
  next : traffic.cache.nextFlight = keys.length
  /-- An entry belongs to the last run of its key. -/
  last {key : κ} {slot : Slot α} (h : traffic.cache.slot? key = some slot) :
    keys[slot.flight]? = some key ∧ ∀ flight : Nat, keys[flight]? = some key → flight ≤ slot.flight
  pending {key : κ} {flight : Nat} (h : traffic.cache.slot? key = some (.pending flight)) :
    Assoc.find? flight traffic.running = some key
      ∨ ∃ explanation, traffic.outcome? flight = some (.broken explanation)
  ready {key : κ} {flight : Nat} {value : α}
    (h : traffic.cache.slot? key = some (.ready flight value)) :
    traffic.outcome? flight = some (.value value)
  running {flight : Nat} {key : κ} (h : Assoc.find? flight traffic.running = some key) :
    keys[flight]? = some key ∧ traffic.outcome? flight = none
  ended {flight : Nat} {ending : Ending α ε} (h : traffic.outcome? flight = some ending) :
    flight < keys.length
  known {flight : Nat} {ending : Ending α ε} (h : traffic.ending? flight = some ending) :
    traffic.outcome? flight = some ending
  waiting {ticket : Ticket κ} (h : ticket ∈ traffic.waiting) :
    keys[ticket.flight]? = some ticket.key

omit [DecidableEq κ] in
theorem getElem?_append_of_eq_some {keys more : List κ} {flight : Nat} {key : κ}
    (h : keys[flight]? = some key) : (keys ++ more)[flight]? = some key := by
  obtain ⟨hlt, -⟩ := List.getElem?_eq_some_iff.1 h
  rw [List.getElem?_append_left hlt, h]

omit [DecidableEq κ] in
theorem getElem?_of_append_toList {keys : List κ} {more : Option κ} {flight : Nat} {key : κ}
    (h : (keys ++ more.toList)[flight]? = some key) :
    keys[flight]? = some key ∨ (more = some key ∧ flight = keys.length) := by
  rcases Nat.lt_or_ge flight keys.length with hlt | hge
  · rw [List.getElem?_append_left hlt] at h
    exact .inl h
  · rw [List.getElem?_append_right hge] at h
    cases more with
    | none => simp at h
    | some last =>
        simp only [Option.toList_some, List.getElem?_singleton, Option.ite_none_right_eq_some,
          Option.some.injEq] at h
        exact .inr ⟨by rw [h.2], by omega⟩

namespace Ledger

variable {keys : List κ} {traffic : Traffic κ α ε}

theorem empty : Ledger ([] : List κ) ({} : Traffic κ α ε) where
  next := rfl
  last h := by cases h
  pending h := by cases h
  ready h := by cases h
  running h := by cases h
  ended h := by cases h
  known h := by cases h
  waiting h := by cases h

/-- How a run has ended never changes. -/
theorem outcome?_mono (ledger : Ledger keys traffic) {flight : Nat} {ending : Ending α ε}
    (h : traffic.outcome? flight = some ending) (event : Event κ α ε) :
    (traffic.step event).outcome? flight = some ending := by
  rcases outcome?_step traffic event flight with hsame | ⟨_, _, _, hrun, _⟩
  · rw [hsame, h]
  · rw [(ledger.running hrun).2] at h
    cases h

/-- The next run has a number that no run before it has. -/
theorem launch_new (ledger : Ledger keys traffic) {flight : Nat} {key : κ}
    (h : keys[flight]? = some key) : flight < traffic.cache.nextFlight := by
  obtain ⟨hlt, -⟩ := List.getElem?_eq_some_iff.1 h
  rw [ledger.next]
  exact hlt

theorem step_last (ledger : Ledger keys traffic) {event : Event κ α ε} {key : κ} {slot : Slot α}
    (h : (traffic.step event).cache.slot? key = some slot) :
    (keys ++ (traffic.launchOf? event).toList)[slot.flight]? = some key
      ∧ ∀ flight : Nat, (keys ++ (traffic.launchOf? event).toList)[flight]? = some key →
          flight ≤ slot.flight := by
  -- an event that launches a run for the key found no entry there
  have hold : ∀ before, traffic.cache.slot? key = some before → slot.flight = before.flight →
      (keys ++ (traffic.launchOf? event).toList)[slot.flight]? = some key
        ∧ ∀ flight : Nat, (keys ++ (traffic.launchOf? event).toList)[flight]? = some key →
            flight ≤ slot.flight := by
    intro before hbefore hflight
    obtain ⟨hhome, hlast⟩ := ledger.last hbefore
    rw [hflight]
    refine ⟨getElem?_append_of_eq_some hhome, fun flight hf => ?_⟩
    rcases getElem?_of_append_toList hf with hf | ⟨hlaunch, -⟩
    · exact hlast flight hf
    · obtain ⟨_, _, _, hnone⟩ := (launchOf?_eq_some_iff _ _ _).1 hlaunch
      rw [hnone] at hbefore
      cases hbefore
  rcases slot?_of_step h with
    h | ⟨caller, is, free, hnone, rfl⟩ | ⟨before, value, hbefore, _, _, rfl⟩
  · exact hold slot h rfl
  · have hlaunch : traffic.launchOf? event = some key :=
      (launchOf?_eq_some_iff _ _ _).2 ⟨caller, is, free, hnone⟩
    simp only [Slot.flight, hlaunch, ledger.next, Option.toList_some]
    refine ⟨by simp, fun flight hf => ?_⟩
    obtain ⟨hlt, -⟩ := List.getElem?_eq_some_iff.1 hf
    rw [List.length_append, List.length_singleton] at hlt
    exact Nat.le_of_lt_succ hlt
  · exact hold before hbefore rfl

theorem step_pending (ledger : Ledger keys traffic) {event : Event κ α ε} {key : κ} {flight : Nat}
    (h : (traffic.step event).cache.slot? key = some (.pending flight)) :
    Assoc.find? flight (traffic.step event).running = some key
      ∨ ∃ explanation, (traffic.step event).outcome? flight = some (.broken explanation) := by
  rcases slot?_of_step h with hbefore | ⟨caller, rfl, free, hnone, hslot⟩ | ⟨_, _, _, _, _, hslot⟩
  · rcases ledger.pending hbefore with hrun | ⟨explanation, hbroken⟩
    · rcases run_step hrun event with hrun | ⟨ending, rfl, hend⟩
      · exact .inl hrun
      · -- the run has just ended, and its entry is still pending: it broke down
        have hslot := slot?_finish hbefore hrun ending
        simp only [step, Slot.flight] at h hslot
        rw [h] at hslot
        cases ending with
        | value value => cases hslot
        | error e => cases hslot
        | broken explanation => exact .inr ⟨explanation, hend⟩
    · exact .inr ⟨explanation, ledger.outcome?_mono hbroken event⟩
  · cases hslot
    left
    -- no run under way has the number of the one that is launched
    have hfree : (traffic.ticket? caller).isSome = false := by simp [free]
    simp only [step, hfree, Bool.false_eq_true, if_false, running_call, hnone, if_true,
      Assoc.find?_append, Option.or_eq_some_iff, Assoc.find?]
    right
    refine ⟨?_, trivial⟩
    cases hrun : Assoc.find? traffic.cache.nextFlight traffic.running with
    | none => rfl
    | some other => exact absurd (ledger.launch_new (ledger.running hrun).1) (Nat.lt_irrefl _)
  · cases hslot

theorem step_ready (ledger : Ledger keys traffic) {event : Event κ α ε} {key : κ} {flight : Nat}
    {value : α} (h : (traffic.step event).cache.slot? key = some (.ready flight value)) :
    (traffic.step event).outcome? flight = some (.value value) := by
  rcases slot?_of_step h with hbefore | ⟨_, _, _, _, hslot⟩ | ⟨before, _, _, rfl, runs, hslot⟩
  · exact ledger.outcome?_mono (ledger.ready hbefore) event
  · cases hslot
  · cases hslot
    simp [step, outcome?_finish runs]

theorem step_running (ledger : Ledger keys traffic) {event : Event κ α ε} {flight : Nat} {key : κ}
    (h : Assoc.find? flight (traffic.step event).running = some key) :
    (keys ++ (traffic.launchOf? event).toList)[flight]? = some key
      ∧ (traffic.step event).outcome? flight = none := by
  rcases running_of_step h with ⟨hrun, hne⟩ | ⟨hlaunch, rfl⟩
  · obtain ⟨hkey, hnone⟩ := ledger.running hrun
    refine ⟨getElem?_append_of_eq_some hkey, ?_⟩
    rcases outcome?_step traffic event flight with hsame | ⟨ending, _, is, _, _⟩
    · rw [hsame, hnone]
    · exact absurd is (hne ending)
  · refine ⟨by simp [hlaunch, ledger.next], ?_⟩
    obtain ⟨caller, rfl, -, -⟩ := (launchOf?_eq_some_iff _ _ _).1 hlaunch
    rcases outcome?_step traffic (.call caller key) traffic.cache.nextFlight with
      hsame | ⟨_, _, is, _, _⟩
    · rw [hsame]
      cases hend : traffic.outcome? traffic.cache.nextFlight with
      | none => rfl
      | some ending => exact absurd (ledger.ended hend) (by rw [ledger.next]; omega)
    · cases is

theorem step_ended (ledger : Ledger keys traffic) {event : Event κ α ε} {flight : Nat}
    {ending : Ending α ε} (h : (traffic.step event).outcome? flight = some ending) :
    flight < (keys ++ (traffic.launchOf? event).toList).length := by
  rw [List.length_append]
  rcases outcome?_step traffic event flight with hsame | ⟨_, _, _, hrun, _⟩
  · rw [hsame] at h
    have := ledger.ended h
    omega
  · have := ledger.launch_new (ledger.running hrun).1
    rw [ledger.next] at this
    omega

theorem step_known (ledger : Ledger keys traffic) {event : Event κ α ε} {flight : Nat}
    {ending : Ending α ε} (h : (traffic.step event).ending? flight = some ending) :
    (traffic.step event).outcome? flight = some ending := by
  rcases ending?_step traffic event flight with hsame | ⟨other, rfl, hclosing, hknown⟩
  · rw [hsame] at h
    exact ledger.outcome?_mono (ledger.known h) event
  · rw [hknown] at h
    cases h
    exact (outcome?_report traffic flight flight).trans (by simp [outcome?, hclosing])

/-- What is known about the end of a run stays so. -/
theorem ending?_mono (ledger : Ledger keys traffic) {flight : Nat} {ending : Ending α ε}
    (h : traffic.ending? flight = some ending) (event : Event κ α ε) :
    (traffic.step event).ending? flight = some ending := by
  rcases ending?_step traffic event flight with hsame | ⟨other, rfl, hclosing, hknown⟩
  · rw [hsame, h]
  · have := ledger.known h
    rw [outcome?, hclosing, Option.some_or] at this
    rw [hknown, this]

theorem step_waiting (ledger : Ledger keys traffic) {event : Event κ α ε} {ticket : Ticket κ}
    (h : ticket ∈ (traffic.step event).waiting) :
    (keys ++ (traffic.launchOf? event).toList)[ticket.flight]? = some ticket.key := by
  rcases waiting_of_step h with h | ⟨is, free, hlook⟩
  · exact getElem?_append_of_eq_some (ledger.waiting h)
  · rw [SingleFlight.lookup_snd] at hlook
    cases hslot : traffic.cache.slot? ticket.key with
    | none =>
        have hlaunch : traffic.launchOf? event = some ticket.key :=
          (launchOf?_eq_some_iff _ _ _).2 ⟨ticket.caller, is, free, hslot⟩
        simp only [hslot, reduceCtorEq, false_or, Lookup.launch.injEq] at hlook
        simp [hlaunch, ← hlook, ledger.next]
    | some slot =>
        cases slot with
        | ready flight value => simp [hslot] at hlook
        | pending flight =>
            simp only [hslot, Lookup.join.injEq, reduceCtorEq, or_false] at hlook
            subst hlook
            exact getElem?_append_of_eq_some (ledger.last hslot).1

protected theorem step (ledger : Ledger keys traffic) (event : Event κ α ε) :
    Ledger (keys ++ (traffic.launchOf? event).toList) (traffic.step event) where
  next := by rw [nextFlight_step, List.length_append, ledger.next]
  last := ledger.step_last
  pending := ledger.step_pending
  ready := ledger.step_ready
  running := ledger.step_running
  ended := ledger.step_ended
  known := ledger.step_known
  waiting := ledger.step_waiting

end Ledger

/-- The ledger of all runs launched so far holds after any events. -/
theorem ledger_after (events : List (Event κ α ε)) :
    Ledger (launches {} events) (after events) := by
  induction events using List.reverseRecOn with
  | nil => exact Ledger.empty
  | append_singleton events event ih =>
      rw [launches_append_singleton, after_append_singleton]
      exact ih.step event

end Traffic

end LiveTemplates
