import LiveTemplates.Proofs.Assoc
import LiveTemplates.Proofs.Cache.Replies

set_option autoImplicit false

/-! # What the counters tell

Every lookup is counted once, as a hit, a join or a miss; a miss is a run that is launched, and an
invalidation an entry that was there and was taken out. A run that ends is counted if it gives a
value or an error, and not if it breaks down. So the runs that are counted as productions, the
breakdowns and the runs under way add up to the misses (`accounts`).

Counters have 64 bits: they show what has happened as long as there is room for it. -/

namespace LiveTemplates

/-! ## What is counted of one event -/

/-- A value was there. -/
def Lookup.isHit {α : Type} : Lookup α → Bool
  | hit _ => true
  | _ => false

/-- A run was under way. -/
def Lookup.isJoin {α : Type} : Lookup α → Bool
  | join _ => true
  | _ => false

/-- A run had to be started. -/
def Lookup.isLaunch {α : Type} : Lookup α → Bool
  | launch _ => true
  | _ => false

/-- A lookup is a hit, a join or a launch, and only one of them. -/
theorem Lookup.countP_add {α : Type} (found : List (Lookup α)) :
    found.countP isHit + found.countP isJoin + found.countP isLaunch = found.length := by
  induction found with
  | nil => rfl
  | cons first rest ih =>
      simp only [List.countP_cons, List.length_cons]
      cases first <;> simp [isHit, isJoin, isLaunch] <;> omega

/-- A run gave a value. -/
def Ending.isValue {α ε : Type} : Ending α ε → Bool
  | value _ => true
  | _ => false

/-- A run gave an error. -/
def Ending.isError {α ε : Type} : Ending α ε → Bool
  | error _ => true
  | _ => false

/-- A run broke down. -/
def Ending.isBroken {α ε : Type} : Ending α ε → Bool
  | broken _ => true
  | _ => false

theorem Ending.countP_add {α ε : Type} (endings : List (Ending α ε)) :
    endings.countP isValue + endings.countP isError + endings.countP isBroken
      = endings.length := by
  induction endings with
  | nil => rfl
  | cons first rest ih =>
      simp only [List.countP_cons, List.length_cons]
      cases first <;> simp [isValue, isError, isBroken] <;> omega

/-- An entry was there and was taken out. -/
def Traffic.Reply.isRemoval {α ε : Type} : Reply α ε → Bool
  | removed there => there
  | told _ _ => false

namespace SingleFlight

variable {κ α : Type} [DecidableEq κ]

theorem counters_lookup (cache : SingleFlight κ α) (key : κ) :
    (cache.lookup key).1.counters
      = match (cache.lookup key).2 with
        | .hit _ => cache.counters.hit
        | .join _ => cache.counters.join
        | .launch _ => cache.counters.miss := by
  unfold lookup
  cases cache.slot? key with
  | none => rfl
  | some slot => cases slot <;> rfl

@[simp] theorem counters_dropFlight (cache : SingleFlight κ α) (key : κ) (flight : Nat) :
    (cache.dropFlight key flight).counters = cache.counters := by
  unfold dropFlight
  split <;> rfl

@[simp] theorem counters_succeed (cache : SingleFlight κ α) (key : κ) (flight : Nat) (value : α) :
    (cache.succeed key flight value).counters = cache.counters.load 0 := by
  unfold succeed
  dsimp only
  split <;> rfl

@[simp] theorem counters_fail (cache : SingleFlight κ α) (key : κ) (flight : Nat) :
    (cache.fail key flight).counters = cache.counters.failure 0 := by
  unfold fail
  rw [counters_dropFlight]

theorem counters_invalidate (cache : SingleFlight κ α) (key : κ) :
    (cache.invalidate key).1.counters
      = if (cache.invalidate key).2 then cache.counters.invalidation else cache.counters := by
  unfold invalidate
  split <;> rfl

theorem counters_invalidateIf (cache : SingleFlight κ α) (key : κ) (test : α → Bool) :
    (cache.invalidateIf key test).1.counters
      = if (cache.invalidateIf key test).2 then cache.counters.invalidation
        else cache.counters := by
  unfold invalidateIf
  cases cache.peek key with
  | none => rfl
  | some value =>
      dsimp only
      split
      · exact counters_invalidate cache key
      · rfl

end SingleFlight

namespace Traffic

variable {κ α ε : Type} [DecidableEq κ]

/-- What has happened, of each kind that is counted. -/
structure Tally where
  hits : Nat
  joins : Nat
  misses : Nat
  loads : Nat
  failures : Nat
  invalidations : Nat

/-- What is to be counted of lookups, ends of runs and replies. -/
def Tally.of (found : List (Lookup α)) (ended : List (Ending α ε)) (replied : List (Reply α ε)) :
    Tally where
  hits := found.countP Lookup.isHit
  joins := found.countP Lookup.isJoin
  misses := found.countP Lookup.isLaunch
  loads := ended.countP Ending.isValue
  failures := ended.countP Ending.isError
  invalidations := replied.countP Reply.isRemoval

/-- What has happened in a history. -/
def tally (events : List (Event κ α ε)) : Tally :=
  .of (lookups events) (endings events) (replies events)

/-- Counters after some more has been counted. -/
def Tally.onto (tally : Tally) (counters : Counters) : Counters :=
  { counters with
    hits := counters.hits + .ofNat tally.hits
    joins := counters.joins + .ofNat tally.joins
    misses := counters.misses + .ofNat tally.misses
    loads := counters.loads + .ofNat tally.loads
    failures := counters.failures + .ofNat tally.failures
    invalidations := counters.invalidations + .ofNat tally.invalidations }

/-- There is room in the counters for what has happened. -/
structure Tally.Fits (tally : Tally) : Prop where
  hits : tally.hits < UInt64.size
  joins : tally.joins < UInt64.size
  misses : tally.misses < UInt64.size
  invalidations : tally.invalidations < UInt64.size

/-! ## Events and counters -/

theorem Tally.onto_nothing (counters : Counters) :
    (Tally.of ([] : List (Lookup α)) ([] : List (Ending α ε)) []).onto counters = counters := by
  simp [Tally.onto, Tally.of]

theorem counters_receive (traffic : Traffic κ α ε) (caller : Nat) :
    (traffic.receive caller).cache.counters = traffic.cache.counters := by
  unfold receive
  split
  · rfl
  · split
    · rfl
    · next ending _ => cases ending <;> simp [collect]

/-- A number for which there is room is shown as it is. -/
theorem toNat_counted {n : Nat} (room : n < UInt64.size) : ((0 : UInt64) + .ofNat n).toNat = n := by
  rw [UInt64.zero_add]
  exact UInt64.toNat_ofNat_of_lt room

/-- What is told to a caller is no removal. -/
theorem countP_of_caller (traffic : Traffic κ α ε) {event : Event κ α ε} {caller : Nat}
    (about : event.caller? = some caller) :
    (traffic.reply? event).toList.countP Reply.isRemoval = 0 := by
  cases hreply : traffic.reply? event with
  | none => rfl
  | some reply =>
      obtain ⟨answer, rfl⟩ := told_of_caller about hreply
      rfl

/-- Each event counts for what it comes to. -/
theorem counters_step (traffic : Traffic κ α ε) (event : Event κ α ε) :
    (traffic.step event).cache.counters
      = (Tally.of (traffic.found? event).toList (traffic.endingOf? event).toList
          (traffic.reply? event).toList).onto traffic.cache.counters := by
  cases event with
  | call caller key =>
      simp only [step, found?, endingOf?, reply?]
      split
      · simp [Tally.onto, Tally.of]
      · rw [call_cache, SingleFlight.counters_lookup]
        cases (traffic.cache.lookup key).2 <;>
          simp [Tally.onto, Tally.of, Lookup.isHit, Lookup.isJoin, Lookup.isLaunch,
            Reply.isRemoval, Counters.hit, Counters.join, Counters.miss]
  | finish flight ending =>
      simp only [step, found?, endingOf?, reply?, finish]
      cases Assoc.find? flight traffic.running with
      | none => simp [Tally.onto, Tally.of]
      | some key =>
          cases ending <;>
            simp [settle, Tally.onto, Tally.of, Ending.isValue, Ending.isError, Counters.load,
              Counters.failure]
  | report flight =>
      simp only [step, found?, endingOf?, reply?, report]
      split <;> simp [Tally.onto, Tally.of]
  | receive caller =>
      have hnothing := traffic.countP_of_caller (rfl : (Event.receive caller).caller? = _)
      simp [step, found?, endingOf?, counters_receive, Tally.onto, Tally.of, hnothing]
  | expire caller milliseconds =>
      have hnothing := traffic.countP_of_caller
        (rfl : (Event.expire caller milliseconds).caller? = _)
      simp [step, found?, endingOf?, counters_receive, Tally.onto, Tally.of, hnothing]
  | leave caller => exact (Tally.onto_nothing _).symm
  | invalidate key =>
      have hcounters := traffic.cache.counters_invalidate key
      cases hgone : (traffic.cache.invalidate key).2 <;>
        simp_all [step, found?, endingOf?, reply?, invalidate, Tally.onto, Tally.of,
          Reply.isRemoval, Counters.invalidation]
  | invalidateIf key test =>
      have hcounters := traffic.cache.counters_invalidateIf key test
      cases hgone : (traffic.cache.invalidateIf key test).2 <;>
        simp_all [step, found?, endingOf?, reply?, invalidateIf, Tally.onto, Tally.of,
          Reply.isRemoval, Counters.invalidation]
  | sweep part => exact (Tally.onto_nothing _).symm

/-! ## Histories and counters -/

theorem Tally.onto_onto (found more : List (Lookup α)) (ended later : List (Ending α ε))
    (replied further : List (Reply α ε)) (counters : Counters) :
    (Tally.of more later further).onto ((Tally.of found ended replied).onto counters)
      = (Tally.of (found ++ more) (ended ++ later) (replied ++ further)).onto counters := by
  simp [Tally.onto, Tally.of, UInt64.ofNat_add, UInt64.add_assoc]

/-- The counters show what has happened, up to the room that there is. -/
theorem counters_after (events : List (Event κ α ε)) :
    (after events).cache.counters = (tally events).onto {} := by
  induction events using List.reverseRecOn with
  | nil => exact (Tally.onto_nothing _).symm
  | append_singleton events event ih =>
      rw [after_append_singleton, counters_step, ih, tally, Tally.onto_onto, tally,
        lookups_append_singleton, endings_append_singleton, replies_append_singleton]

/-! ## Runs that were launched, that have ended and that are under way -/

theorem countP_found? (traffic : Traffic κ α ε) (event : Event κ α ε) :
    (traffic.found? event).toList.countP Lookup.isLaunch
      = (traffic.launchOf? event).toList.length := by
  cases event with
  | call caller key =>
      simp only [found?, launchOf?]
      split
      · rfl
      · cases (traffic.cache.lookup key).2 <;> rfl
  | _ => rfl

/-- The misses are the runs that were launched. -/
theorem misses_tally (events : List (Event κ α ε)) :
    (tally events).misses = (launches {} events).length := by
  show (lookups events).countP Lookup.isLaunch = _
  induction events using List.reverseRecOn with
  | nil => rfl
  | append_singleton events event ih =>
      rw [lookups_append_singleton, launches_append_singleton, List.countP_append,
        List.length_append, ih, countP_found?]

/-- All that an event can do to the runs under way: one is launched, or one ends. -/
theorem running_cases (traffic : Traffic κ α ε) (event : Event κ α ε) :
    ((traffic.step event).running = traffic.running ∧ traffic.launchOf? event = none
        ∧ traffic.endingOf? event = none)
      ∨ (∃ key, traffic.launchOf? event = some key ∧ traffic.endingOf? event = none
        ∧ (traffic.step event).running = traffic.running ++ [(traffic.cache.nextFlight, key)])
      ∨ ∃ flight ending, flight ∈ traffic.running.map Prod.fst
        ∧ traffic.endingOf? event = some ending ∧ traffic.launchOf? event = none
        ∧ (traffic.step event).running = Assoc.erase flight traffic.running := by
  cases event with
  | call caller key =>
      by_cases hlaunch : traffic.launchOf? (.call caller key) = some key
      · obtain ⟨other, hcall, hfree, hnone⟩ := (launchOf?_eq_some_iff _ _ _).1 hlaunch
        cases hcall
        refine .inr (.inl ⟨key, hlaunch, rfl, ?_⟩)
        simp [step, hfree, running_call, hnone]
      · have hno : traffic.launchOf? (.call caller key) = none := by
          cases hother : traffic.launchOf? (.call caller key) with
          | none => rfl
          | some other =>
              obtain ⟨_, hcall, -⟩ := (launchOf?_eq_some_iff _ _ _).1 hother
              cases hcall
              exact absurd hother hlaunch
        refine .inl ⟨?_, hno, rfl⟩
        unfold step
        dsimp only
        split
        · rfl
        · next hfree =>
            rw [running_call, if_neg]
            intro hnone
            exact hlaunch
              ((launchOf?_eq_some_iff _ _ _).2 ⟨caller, rfl, by simpa using hfree, hnone⟩)
  | finish flight ending =>
      cases hrun : Assoc.find? flight traffic.running with
      | none => exact .inl ⟨by simp [step, finish, hrun], rfl, by simp [endingOf?, hrun]⟩
      | some key =>
          exact .inr (.inr ⟨flight, ending, Assoc.mem_keys_of_find? hrun, by simp [endingOf?, hrun],
            rfl, by simp [step, finish, hrun]⟩)
  | report flight =>
      refine .inl ⟨?_, rfl, rfl⟩
      unfold step report
      dsimp only
      split <;> rfl
  | receive caller => exact .inl ⟨(runs_receive traffic caller).1, rfl, rfl⟩
  | expire caller milliseconds => exact .inl ⟨(runs_expire traffic caller milliseconds).1, rfl, rfl⟩
  | leave caller => exact .inl ⟨rfl, rfl, rfl⟩
  | invalidate key => exact .inl ⟨rfl, rfl, rfl⟩
  | invalidateIf key test => exact .inl ⟨rfl, rfl, rfl⟩
  | sweep part => exact .inl ⟨rfl, rfl, rfl⟩

/-- Runs under way have numbers of their own. -/
theorem nodup_running (events : List (Event κ α ε)) :
    ((after events).running.map Prod.fst).Nodup := by
  induction events using List.reverseRecOn with
  | nil => exact List.nodup_nil
  | append_singleton events event ih =>
      rw [after_append_singleton]
      obtain ⟨hsame, -⟩ | ⟨key, -, -, hmore⟩ | ⟨flight, _, -, -, -, hless⟩ :=
        running_cases (after events) event
      · rwa [hsame]
      · rw [hmore, List.map_append]
        refine List.nodup_append.2 ⟨ih, by simp, ?_⟩
        intro flight hmem other hother
        rw [List.map_singleton, List.mem_singleton] at hother
        -- every run before has a number below that of the next
        obtain ⟨home, hrun⟩ := Option.isSome_iff_exists.1 (Assoc.find?_isSome_of_mem hmem)
        have hlt := (ledger_after events).launch_new ((ledger_after events).running hrun).1
        omega
      · rw [hless]
        exact Assoc.nodup_erase ih

/-- Whatever was launched has ended or is under way. -/
theorem length_launches (events : List (Event κ α ε)) :
    (launches {} events).length = (after events).running.length + (endings events).length := by
  induction events using List.reverseRecOn with
  | nil => rfl
  | append_singleton events event ih =>
      rw [launches_append_singleton, endings_append_singleton, after_append_singleton,
        List.length_append, List.length_append, ih]
      obtain ⟨hsame, hnone, hended⟩ | ⟨key, hlaunch, hended, hmore⟩ |
        ⟨flight, _, hmem, hended, hnone, hless⟩ := running_cases (after events) event
      · simp [hsame, hnone, hended]
      · simp [hmore, hlaunch, hended]
        omega
      · have hlength := Assoc.length_erase (nodup_running events) hmem
        simp [hless, hnone, hended]
        omega

/-! ## The accounts -/

/-- As long as there is room in the counters: hits, joins and misses together are the lookups that
were made; the misses are the runs that were launched; the invalidations are the entries that were
there when they were to be taken out. Loads are the runs that gave a value and failures those that
gave an error, so the productions are the runs that have ended without breaking down: the misses are
the productions, the breakdowns and the runs under way. Where no run has broken down, the
productions are the runs that have ended. -/
theorem accounts (events : List (Event κ α ε)) (room : (tally events).Fits) :
    let counters := (after events).cache.counters
    counters.hits.toNat + counters.joins.toNat + counters.misses.toNat = (lookups events).length
      ∧ counters.misses.toNat = (launches {} events).length
      ∧ counters.invalidations.toNat = (replies events).countP Reply.isRemoval
      ∧ counters.loads.toNat = (endings events).countP Ending.isValue
      ∧ counters.failures.toNat = (endings events).countP Ending.isError
      ∧ counters.productions.toNat + (endings events).countP Ending.isBroken
          = (endings events).length
      ∧ counters.misses.toNat
          = counters.productions.toNat + (endings events).countP Ending.isBroken
            + (after events).running.length
      ∧ ((∀ ending ∈ endings events, ending.isBroken = false) →
          counters.productions.toNat = (endings events).length
            ∧ counters.misses.toNat - counters.productions.toNat
                = (after events).running.length) := by
  intro counters
  have hfound := Lookup.countP_add (lookups events)
  have hended := Ending.countP_add (endings events)
  have hmisses := misses_tally events
  have hlaunched := length_launches events
  have hroom := room.misses
  have hcounters : counters = (tally events).onto {} := counters_after events
  -- no counter has wrapped, so each shows its part of the tally
  have hhits : counters.hits.toNat = (lookups events).countP Lookup.isHit := by
    rw [hcounters]
    exact toNat_counted room.hits
  have hjoins : counters.joins.toNat = (lookups events).countP Lookup.isJoin := by
    rw [hcounters]
    exact toNat_counted room.joins
  have hlaunches : counters.misses.toNat = (lookups events).countP Lookup.isLaunch := by
    rw [hcounters]
    exact toNat_counted room.misses
  have hinvalidations : counters.invalidations.toNat = (replies events).countP Reply.isRemoval := by
    rw [hcounters]
    exact toNat_counted room.invalidations
  have hcount : (tally events).misses = (lookups events).countP Lookup.isLaunch := rfl
  have hloads : counters.loads.toNat = (endings events).countP Ending.isValue := by
    rw [hcounters]
    exact toNat_counted (show (endings events).countP Ending.isValue < _ by omega)
  have hfailures : counters.failures.toNat = (endings events).countP Ending.isError := by
    rw [hcounters]
    exact toNat_counted (show (endings events).countP Ending.isError < _ by omega)
  have hproductions : counters.productions.toNat
      = (endings events).countP Ending.isValue + (endings events).countP Ending.isError := by
    rw [Counters.productions, UInt64.toNat_add, hloads, hfailures]
    exact Nat.mod_eq_of_lt (show _ < UInt64.size by omega)
  refine ⟨by omega, by omega, hinvalidations, hloads, hfailures, by omega, by omega, ?_⟩
  intro whole
  have hbroken : (endings events).countP Ending.isBroken = 0 := by
    rw [List.countP_eq_zero]
    intro ending hmem
    simp [whole ending hmem]
  constructor <;> omega

/-- A value is found and another is joined, one run gives a value, one an error, and one breaks
down; an entry is taken out. -/
def mixedFortunes : List (Event Nat Nat Nat) :=
  [.call 0 7, .call 1 7, .finish 0 (.value 10), .call 2 7, .invalidate 7, .invalidate 7, .call 3 8,
    .finish 1 (.error 5), .call 4 9, .finish 2 (.broken none), .call 5 6]

theorem accounts_of_mixedFortunes :
    let counters := (after mixedFortunes).cache.counters
    (tally mixedFortunes).Fits
      ∧ counters.hits.toNat + counters.joins.toNat + counters.misses.toNat = 6
      ∧ counters.misses.toNat = 4 ∧ counters.invalidations.toNat = 1
      ∧ counters.productions.toNat + 1 = 3
      ∧ counters.misses.toNat = counters.productions.toNat + 1 + 1 := by
  have room : (tally mixedFortunes).Fits := by constructor <;> decide
  obtain ⟨hlookups, hlaunches, hremovals, -, -, hended, hmisses, -⟩ := accounts mixedFortunes room
  exact ⟨room, hlookups, hlaunches, hremovals, hended, hmisses⟩

/-- The only run there is breaks down. -/
def breakdown : List (Event Nat Nat Nat) :=
  [.call 0 7, .finish 0 (.broken none), .report 0, .receive 0]

/-- The productions are not always the runs that have ended: a run that breaks down is none of them,
and so it seems to be under way for good. -/
theorem unaccounted_breakdown :
    ¬ (∀ events : List (Event Nat Nat Nat), (tally events).Fits →
        (after events).cache.counters.productions.toNat = (endings events).length
          ∧ (after events).cache.counters.misses.toNat
              - (after events).cache.counters.productions.toNat = (after events).running.length)
      ∧ (tally breakdown).Fits
      ∧ (endings breakdown).length = 1
      ∧ (after breakdown).running = []
      ∧ (after breakdown).cache.counters.misses = 1
      ∧ (after breakdown).cache.counters.productions = 0 := by
  have room : (tally breakdown).Fits := by constructor <;> decide
  refine ⟨fun claim => ?_, room, by decide, by decide, by decide, by decide⟩
  have hproductions := (claim breakdown room).1
  exact absurd hproductions (by decide)

end Traffic

end LiveTemplates
