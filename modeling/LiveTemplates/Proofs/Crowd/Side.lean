import LiveTemplates.Engine.Concurrent
import LiveTemplates.Proofs.Assoc
import LiveTemplates.Proofs.Cache.Newcomers

set_option autoImplicit false

/-! # One side of a crowd

A crowd has two caches, each with traffic around it and with the runs that were launched for it on
record. Here is said once, for either of them, what a call comes to and what stays as it is when
newcomers call: the name of a run, the value that it gave, and the run that a caller was led to. -/

namespace LiveTemplates

/-- The value that a lookup has found. -/
def Lookup.value? {α : Type} : Lookup α → Option α
  | .hit value => some value
  | _ => none

namespace Traffic

variable {κ α ε : Type} [DecidableEq κ]

theorem call_snd (traffic : Traffic κ α ε) (caller : Nat) (key : κ) :
    (traffic.call caller key).2 = (traffic.cache.lookup key).2 := by
  unfold call
  rcases traffic.cache.lookup key with ⟨cache, _ | _ | _⟩ <;> rfl

theorem outcome?_call (traffic : Traffic κ α ε) (caller : Nat) (key : κ) (flight : Nat) :
    (traffic.call caller key).1.outcome? flight = traffic.outcome? flight := by
  simp only [outcome?, ending?, closing_call, ended_call]

theorem outcome?_receive (traffic : Traffic κ α ε) (caller flight : Nat) :
    (traffic.receive caller).outcome? flight = traffic.outcome? flight := by
  obtain ⟨-, hclosing, hended⟩ := runs_receive traffic caller
  simp only [outcome?, ending?, hclosing, hended]

/-- A run that has ended had done so before, or has just ended. -/
theorem outcome?_of_finish {traffic : Traffic κ α ε} {flight other : Nat}
    {ending ended : Ending α ε} (h : (traffic.finish flight ending).outcome? other = some ended) :
    traffic.outcome? other = some ended ∨ other = flight ∧ ended = ending := by
  cases hrun : Assoc.find? flight traffic.running with
  | none => exact .inl (by simpa [finish, hrun] using h)
  | some key =>
      rw [outcome?_finish hrun] at h
      split at h
      · next hother => exact .inr ⟨hother, (Option.some.inj h).symm⟩
      · exact .inl h

theorem Free.step_call {traffic : Traffic κ α ε} {caller : Nat} (free : traffic.Free caller)
    (key : κ) : traffic.step (.call caller key) = (traffic.call caller key).1 := by
  simp [Traffic.step, free.ticket]

/-- The key of the run that a lookup launches, if it launches one. -/
theorem Free.launchOf?_call {traffic : Traffic κ α ε} {caller : Nat} (free : traffic.Free caller)
    (key : κ) : (traffic.launchOf? (.call caller key)).toList
      = if traffic.cache.slot? key = none then [key] else [] := by
  cases hslot : traffic.cache.slot? key with
  | none =>
      rw [(launchOf?_eq_some_iff _ _ _).2 ⟨caller, rfl, free.ticket, hslot⟩]
      rfl
  | some slot =>
      cases hlaunch : traffic.launchOf? (.call caller key) with
      | none => rfl
      | some other =>
          obtain ⟨_, hcall, _, hnone⟩ := (launchOf?_eq_some_iff _ _ _).1 hlaunch
          cases hcall
          rw [hslot] at hnone
          cases hnone

/-- A value that a run has given is there as long as the entry is that of the run. -/
theorem Ledger.peek_of_belongs {keys : List κ} {traffic : Traffic κ α ε}
    (ledger : Ledger keys traffic) {flight : Nat} {value : α}
    (gave : traffic.outcome? flight = some (.value value)) {key : κ}
    (belongs : traffic.cache.belongs key flight = true) : traffic.cache.peek key = some value := by
  obtain ⟨slot, hslot, rfl⟩ := (SingleFlight.belongs_iff _ _ _).1 belongs
  obtain ⟨other, hvalue, hready⟩ := ledger.slot?_of_outcome hslot gave (by simp)
  cases hvalue
  exact (SingleFlight.peek_eq_some_iff traffic.cache key value).2 ⟨slot.flight, hready ▸ hslot⟩

/-- A value that is there stays, unless someone takes it out: no run and no caller does. -/
theorem Ledger.peek_step {keys : List κ} {traffic : Traffic κ α ε} (ledger : Ledger keys traffic)
    {key : κ} {value : α} (there : traffic.cache.peek key = some value) (event : Event κ α ε) :
    (traffic.step event).cache.peek key = some value
      ∨ event = .invalidate key ∨ (∃ test, event = .invalidateIf key test)
      ∨ ∃ part, event = .sweep part ∧ part key = true := by
  obtain ⟨flight, hslot⟩ := (SingleFlight.peek_eq_some_iff _ _ _).1 there
  have hgave := ledger.ready hslot
  have hchanges := traffic.step_changes event key
  rw [hslot] at hchanges
  generalize hafter : (traffic.step event).cache.slot? key = after at hchanges
  cases hchanges with
  | kept => exact .inl ((SingleFlight.peek_eq_some_iff _ _ _).2 ⟨flight, hafter⟩)
  | landed _ _ _ runs =>
      -- the run has given a value, so it is not under way
      have hrunning := (ledger.running runs).2
      rw [Slot.flight, hgave] at hrunning
      cases hrunning
  | removed _ why =>
      right
      cases why with
      | invalidated is => exact .inl is
      | refused test _ _ is _ _ => exact .inr (.inl ⟨test, is⟩)
      | swept part is within => exact .inr (.inr ⟨part, is, within⟩)
      | failed _ _ runs =>
          have hrunning := (ledger.running runs).2
          rw [Slot.flight, hgave] at hrunning
          cases hrunning
      | broke _ _ _ _ known =>
          -- nor has it broken down
          have hended := ledger.known known
          rw [Slot.flight, hgave] at hended
          cases hended

/-- A value that is refused is not there any more. -/
theorem Ledger.not_belongs_invalidateIf {keys : List κ} {traffic : Traffic κ α ε}
    (ledger : Ledger keys traffic) {flight : Nat} {value : α} {test : α → Bool}
    (gave : traffic.outcome? flight = some (.value value)) (passes : test value = true) (key : κ) :
    (traffic.cache.invalidateIf key test).1.belongs key flight = false := by
  rw [Bool.eq_false_iff, ne_eq, SingleFlight.belongs_iff]
  rintro ⟨slot, hslot, rfl⟩
  rw [SingleFlight.slot?_invalidateIf] at hslot
  split at hslot
  · cases hslot
  · next hkept =>
      have hpeek := ledger.peek_of_belongs gave ((SingleFlight.belongs_iff _ _ _).2 ⟨slot, hslot, rfl⟩)
      exact hkept ⟨rfl, by rw [hpeek]; exact passes⟩

end Traffic

namespace Crowd

/-- A cache with the traffic around it, and the runs that were launched for it on record. -/
structure Side (σ α : Type) where
  records : List (Nat × String × σ)
  traffic : Traffic String α TemplateError

namespace Side

variable {σ α : Type}

/-- The names of the runs on record, in order. -/
def names (side : Side σ α) : List String :=
  side.records.map fun entry => entry.2.1

/-- The runs on record are those that were launched, each under its number. -/
structure Traced (side : Side σ α) : Prop where
  numbered : side.records.map Prod.fst = List.range side.records.length
  ledger : Traffic.Ledger side.names side.traffic

/-- One side comes to be another while callers with numbers from one up to another call. -/
structure Grows (low high : Nat) (before after : Side σ α) : Prop where
  numbered : after.records.map Prod.fst = List.range after.records.length
  reaches : ∃ launched, after.names = before.names ++ launched
    ∧ Traffic.Reaches low high launched before.traffic after.traffic

/-- A run of a name has ended. -/
structure Ended (side : Side σ α) (name : String) (flight : Nat) (ending : Ending α TemplateError) :
    Prop where
  named : side.names[flight]? = some name
  outcome : side.traffic.outcome? flight = some ending

/-- A run of a name has given a value. -/
structure Gave (side : Side σ α) (name : String) (flight : Nat) (value : α) : Prop where
  named : side.names[flight]? = some name
  outcome : side.traffic.outcome? flight = some (.value value)

/-- A caller has asked for a name and was led to a run. -/
structure Asked (side : Side σ α) (caller : Nat) (name : String) (flight : Nat) : Prop where
  named : side.names[flight]? = some name
  concerns : side.traffic.Concerns caller name flight

theorem Gave.ended {side : Side σ α} {name : String} {flight : Nat} {value : α}
    (gave : side.Gave name flight value) : side.Ended name flight (.value value) :=
  ⟨gave.named, gave.outcome⟩

theorem Ended.gave {side : Side σ α} {name : String} {flight : Nat} {value : α}
    (ended : side.Ended name flight (.value value)) : side.Gave name flight value :=
  ⟨ended.named, ended.outcome⟩

namespace Traced

variable {side : Side σ α}

theorem named (traced : side.Traced) {flight : Nat} {name : String} {stage : σ}
    (h : Assoc.find? flight side.records = some (name, stage)) :
    side.names[flight]? = some name := by
  obtain ⟨index, hindex⟩ := List.getElem?_of_mem (Assoc.mem_of_find? h)
  have hnumber : (side.records.map Prod.fst)[index]? = some flight := by
    rw [List.getElem?_map, hindex]
    rfl
  rw [traced.numbered, List.getElem?_eq_some_iff] at hnumber
  obtain ⟨hlt, hflight⟩ := hnumber
  rw [List.getElem_range] at hflight
  subst hflight
  rw [names, List.getElem?_map, hindex]
  rfl

theorem lt_nextFlight (traced : side.Traced) {flight : Nat} {name : String} {stage : σ}
    (h : Assoc.find? flight side.records = some (name, stage)) :
    flight < side.traffic.cache.nextFlight :=
  traced.ledger.launch_new (traced.named h)

/-- The next run is not on record. -/
theorem length_records (traced : side.Traced) :
    side.records.length = side.traffic.cache.nextFlight := by
  rw [traced.ledger.next, names, List.length_map]

end Traced

namespace Grows

variable {low middle high : Nat} {before between after : Side σ α}

theorem refl (traced : before.Traced) (low high : Nat) : Grows low high before before :=
  ⟨traced.numbered, [], (List.append_nil _).symm, .refl low high _⟩

theorem trans (first : Grows low middle before between) (second : Grows middle high between after)
    (hlow : low ≤ middle) (hhigh : middle ≤ high) : Grows low high before after := by
  obtain ⟨launched, hnames, hreaches⟩ := first.reaches
  obtain ⟨more, hmore, hlater⟩ := second.reaches
  exact ⟨second.numbered, launched ++ more, by rw [hmore, hnames, List.append_assoc],
    hreaches.trans hlater hlow hhigh⟩

theorem traced (grows : Grows low high before after) (traced : before.Traced) : after.Traced := by
  obtain ⟨launched, hnames, hreaches⟩ := grows.reaches
  exact ⟨grows.numbered, hnames ▸ hreaches.ledger traced.ledger⟩

theorem free (grows : Grows low high before after) {caller : Nat} (unknown : high ≤ caller)
    (free : before.traffic.Free caller) : after.traffic.Free caller := by
  obtain ⟨launched, -, hreaches⟩ := grows.reaches
  exact hreaches.free unknown free

theorem nextFlight_le (grows : Grows low high before after) :
    before.traffic.cache.nextFlight ≤ after.traffic.cache.nextFlight := by
  obtain ⟨launched, -, hreaches⟩ := grows.reaches
  exact hreaches.nextFlight_le

theorem named (grows : Grows low high before after) {flight : Nat} {name : String}
    (h : before.names[flight]? = some name) : after.names[flight]? = some name := by
  obtain ⟨launched, hnames, -⟩ := grows.reaches
  rw [hnames]
  exact Traffic.getElem?_append_of_eq_some h

theorem ended (grows : Grows low high before after) (traced : before.Traced) {name : String}
    {flight : Nat} {ending : Ending α TemplateError} (ended : before.Ended name flight ending) :
    after.Ended name flight ending := by
  obtain ⟨launched, -, hreaches⟩ := grows.reaches
  exact ⟨grows.named ended.named, hreaches.outcome? traced.ledger ended.outcome⟩

/-- A run that had ended before, or was on record at a stage, was so under the name that it has
now. -/
theorem ended_or_stage (grows : Grows low high before after) (traced : before.Traced)
    {name : String} {flight : Nat} {ending : Ending α TemplateError} {stage : σ}
    (ended : after.Ended name flight ending)
    (earlier : before.traffic.outcome? flight = some ending
      ∨ ∃ other, Assoc.find? flight before.records = some (other, stage)) :
    before.Ended name flight ending ∨ Assoc.find? flight before.records = some (name, stage) := by
  rcases earlier with houtcome | ⟨other, hstage⟩
  · obtain ⟨launched, hnames, -⟩ := grows.reaches
    have hnamed := ended.named
    rw [hnames, List.getElem?_append_left (traced.ledger.ended houtcome)] at hnamed
    exact .inl ⟨hnamed, houtcome⟩
  · have hnamed := grows.named (traced.named hstage)
    rw [ended.named] at hnamed
    cases hnamed
    exact .inr hstage

theorem gave (grows : Grows low high before after) (traced : before.Traced) {name : String}
    {flight : Nat} {value : α} (gave : before.Gave name flight value) :
    after.Gave name flight value :=
  (grows.ended traced gave.ended).gave

theorem asked (grows : Grows low high before after) (traced : before.Traced) {caller : Nat}
    {name : String} {flight : Nat} (known : caller < low) (asked : before.Asked caller name flight) :
    after.Asked caller name flight := by
  obtain ⟨launched, -, hreaches⟩ := grows.reaches
  exact ⟨grows.named asked.named, hreaches.concerns traced.ledger known asked.concerns⟩

theorem le_flightOf (grows : Grows low high before after) {name : String} {flight : Nat}
    (sole : before.traffic.cache.Sole name flight)
    (gone : after.traffic.cache.belongs name flight = false) :
    before.traffic.cache.nextFlight ≤ after.traffic.cache.flightOf name := by
  obtain ⟨launched, -, hreaches⟩ := grows.reaches
  exact hreaches.le_flightOf sole gone

/-- An entry of a run that had been launched was there before if it is there now. -/
theorem belongs (grows : Grows low high before after) {name : String} {flight : Nat}
    (launched : flight < before.traffic.cache.nextFlight)
    (h : after.traffic.cache.belongs name flight = true) :
    before.traffic.cache.belongs name flight = true := by
  obtain ⟨-, -, events, hrun, -⟩ := grows.reaches
  rw [← hrun] at h
  exact Traffic.belongs_of_run launched events h

/-- An entry that is not that of a run which had been launched does not become its entry again. -/
theorem gone (grows : Grows low high before after) {name : String} {flight : Nat}
    (launched : flight < before.traffic.cache.nextFlight)
    (h : before.traffic.cache.belongs name flight = false) :
    after.traffic.cache.belongs name flight = false :=
  Bool.eq_false_iff.2 fun hback => Bool.eq_false_iff.1 h (grows.belongs launched hback)

/-- An entry that waits for a run that had been launched waited for it before. -/
theorem pending (grows : Grows low high before after) (traced : before.Traced) {name : String}
    {flight : Nat} (launched : flight < before.traffic.cache.nextFlight)
    (h : after.traffic.cache.slot? name = some (.pending flight)) :
    before.traffic.cache.slot? name = some (.pending flight) := by
  have hbelongs := grows.belongs launched ((SingleFlight.belongs_iff _ _ _).2 ⟨_, h, rfl⟩)
  obtain ⟨slot, hslot, rfl⟩ := (SingleFlight.belongs_iff _ _ _).1 hbelongs
  cases slot with
  | pending flight => exact hslot
  | ready flight value =>
      -- a run that has given its value is not waited for again
      have hgave := traced.ledger.ready hslot
      obtain ⟨ran, -, hreaches⟩ := grows.reaches
      have hended := hreaches.outcome? traced.ledger hgave
      obtain ⟨_, -, hready⟩ :=
        (hreaches.ledger traced.ledger).slot?_of_outcome h hended (by simp)
      cases hready

/-- An event that launches nothing. -/
theorem of_step (traced : before.Traced) (low high : Nat)
    (event : Traffic.Event String α TemplateError) (newcomer : event.Newcomer low high)
    (quiet : before.traffic.launchOf? event = none) :
    Grows low high before { before with traffic := before.traffic.step event } :=
  ⟨traced.numbered, [], (List.append_nil _).symm, .of_quiet_step newcomer quiet⟩

/-- A run goes from one stage to another. -/
theorem set (grows : Grows low high before after) {flight : Nat} {name : String} {stage : σ}
    (h : Assoc.find? flight after.records = some (name, stage)) (next : σ) :
    Grows low high before
      { after with records := Assoc.set flight (name, next) after.records } := by
  obtain ⟨launched, hnames, hreaches⟩ := grows.reaches
  have hnumbers := Assoc.map_set Prod.fst (name, next) h rfl
  have hlength := congrArg List.length hnumbers
  rw [List.length_map, List.length_map] at hlength
  refine ⟨by rw [hnumbers, hlength]; exact grows.numbered, launched, ?_, hreaches⟩
  have hsame := Assoc.map_set (fun entry => entry.2.1) (name, next) h rfl
  exact hsame.trans hnames

end Grows

/-- Runs may be launched, but none ends and none goes on to another stage. -/
structure Kept (start : σ) (before after : Side σ α) : Prop where
  outcome? (flight : Nat) : after.traffic.outcome? flight = before.traffic.outcome? flight
  records {flight : Nat} {name : String} {stage : σ}
    (h : Assoc.find? flight after.records = some (name, stage)) :
    Assoc.find? flight before.records = some (name, stage) ∨ stage = start

namespace Kept

variable {start : σ} {before between after : Side σ α}

theorem refl (start : σ) (side : Side σ α) : Kept start side side :=
  ⟨fun _ => rfl, .inl⟩

/-- Neither the runs nor their ends are touched. -/
theorem of_traffic {records : List (Nat × String × σ)}
    {traffic traffic' : Traffic String α TemplateError}
    (h : ∀ flight, traffic'.outcome? flight = traffic.outcome? flight) :
    Kept start ⟨records, traffic⟩ ⟨records, traffic'⟩ :=
  ⟨h, .inl⟩

end Kept

/-! ### Calls -/

/-- The runs on record after a lookup. -/
def recorded (start : σ) (name : String) (found : Lookup α) (records : List (Nat × String × σ)) :
    List (Nat × String × σ) :=
  match found with
  | .launch flight => records ++ [(flight, name, start)]
  | _ => records

/-- A side after a new caller has asked for a name. -/
def call (side : Side σ α) (start : σ) (caller : Nat) (name : String) : Side σ α where
  records := recorded start name (side.traffic.cache.lookup name).2 side.records
  traffic := (side.traffic.call caller name).1

variable {side : Side σ α} {caller : Nat}

theorem Traced.grows_call (traced : side.Traced) (free : side.traffic.Free caller) (start : σ)
    (name : String) : Grows caller (caller + 1) side (side.call start caller name) := by
  have hnewcomer : (Traffic.Event.call caller name : Traffic.Event String α TemplateError).Newcomer
      caller (caller + 1) := ⟨Nat.le_refl _, Nat.lt_succ_self _⟩
  have hreaches : Traffic.Reaches _ _ _ side.traffic _ := .of_step hnewcomer
  rw [free.step_call, free.launchOf?_call] at hreaches
  unfold call recorded
  rcases side.traffic.cache.lookup_cases name with ⟨_, hslot, hfound⟩ | ⟨hslot, hfound⟩ | hlaunch
  · rw [if_neg (by simp [hslot])] at hreaches
    rw [hfound]
    exact ⟨traced.numbered, [], (List.append_nil _).symm, hreaches⟩
  · rw [if_neg (by simp [hslot])] at hreaches
    rw [hfound]
    exact ⟨traced.numbered, [], (List.append_nil _).symm, hreaches⟩
  · obtain ⟨hslot, hflight, hfound⟩ := hlaunch
    rw [if_pos hslot] at hreaches
    rw [hfound, hflight, ← traced.length_records]
    refine ⟨?_, [name], by simp [names], hreaches⟩
    simp [traced.numbered, List.range_succ]

theorem kept_call (side : Side σ α) (start : σ) (caller : Nat) (name : String) :
    Kept start side (side.call start caller name) where
  outcome? flight := side.traffic.outcome?_call caller name flight
  records {flight other stage} h := by
    unfold call recorded at h
    dsimp only at h
    split at h
    · rw [Assoc.find?_append, Option.or_eq_some_iff] at h
      rcases h with h | ⟨-, h⟩
      · exact .inl h
      · simp only [Assoc.find?, Option.ite_none_right_eq_some, Option.some.injEq,
          Prod.mk.injEq] at h
        exact .inr h.2.2.symm
    · exact .inl h

/-- A lookup leads to a run of the name that is looked up, and no other run has its entry then. -/
theorem Traced.led (traced : side.Traced) (free : side.traffic.Free caller) (start : σ)
    (name : String) :
    (side.call start caller name).names[side.traffic.cache.flightOf name]? = some name
      ∧ (side.call start caller name).traffic.cache.Sole name (side.traffic.cache.flightOf name) := by
  have hledger := ((traced.grows_call free start name).traced traced).ledger
  have hcache : (side.call start caller name).traffic.cache = (side.traffic.cache.lookup name).1 :=
    side.traffic.call_cache caller name
  refine ⟨?_, hcache ▸ SingleFlight.sole_lookup side.traffic.cache name⟩
  have hslot := side.traffic.cache.slot?_lookup name name
  unfold SingleFlight.flightOf
  rw [← hcache] at hslot
  cases hold : side.traffic.cache.slot? name with
  | none =>
      rw [if_pos ⟨rfl, hold⟩] at hslot
      exact (hledger.last hslot).1
  | some slot =>
      rw [if_neg (by simp [hold]), hold] at hslot
      exact (hledger.last hslot).1

/-- A caller that finds no value is led to a run. -/
theorem Traced.asked (traced : side.Traced) (free : side.traffic.Free caller) (start : σ)
    {name : String} (missing : (side.traffic.cache.lookup name).2.value? = none) :
    (side.call start caller name).Asked caller name (side.traffic.cache.flightOf name) :=
  ⟨(traced.led free start name).1,
    free.concerns_call fun value hit => by rw [hit] at missing; cases missing⟩

/-- After a lookup that finds no value, the entry waits for the run that the lookup leads to. -/
theorem pending_call (side : Side σ α) (start : σ) (caller : Nat) {name : String}
    (missing : (side.traffic.cache.lookup name).2.value? = none) :
    (side.call start caller name).traffic.cache.slot? name
      = some (.pending (side.traffic.cache.flightOf name)) := by
  have hcache : (side.call start caller name).traffic.cache = (side.traffic.cache.lookup name).1 :=
    side.traffic.call_cache caller name
  rw [hcache, SingleFlight.slot?_lookup]
  rcases side.traffic.cache.lookup_cases name with ⟨_, -, hit⟩ | ⟨hslot, -⟩ | ⟨hslot, hflight, -⟩
  · rw [hit] at missing
    cases missing
  · rw [if_neg (by simp [hslot]), hslot]
  · rw [if_pos ⟨rfl, hslot⟩, hflight]

/-- A value that is found was given by the run that the lookup leads to. -/
theorem Traced.gave (traced : side.Traced) {name : String} {value : α}
    (found : (side.traffic.cache.lookup name).2.value? = some value) :
    side.Gave name (side.traffic.cache.flightOf name) value := by
  rcases side.traffic.cache.lookup_cases name with
    ⟨other, hslot, hlook⟩ | ⟨-, hlook⟩ | ⟨-, -, hlook⟩
  · rw [hlook] at found
    cases found
    exact ⟨(traced.ledger.last hslot).1, traced.ledger.ready hslot⟩
  · rw [hlook] at found
    cases found
  · rw [hlook] at found
    cases found

/-! ### Receipts and ends -/

/-- What a caller is told is how the run ended that it was led to. -/
theorem Asked.told {name : String} {flight : Nat} (asked : side.Asked caller name flight)
    (traced : side.Traced) {answer : Answer α TemplateError}
    (h : (side.traffic.receive caller).answer? caller = some answer) :
    ∃ ending, answer = .ending ending ∧ side.Ended name flight ending := by
  have hledger := traced.ledger.step (.receive caller)
  obtain ⟨ending, rfl, houtcome⟩ :=
    (asked.concerns.receive traced.ledger).outcome?_of_answer? hledger h
  exact ⟨ending, rfl, asked.named,
    (side.traffic.outcome?_receive caller flight).symm.trans houtcome⟩

end Side

end Crowd

end LiveTemplates
