import LiveTemplates.Proofs.Cache.Landing
import LiveTemplates.Proofs.Cache.Outcome

set_option autoImplicit false

/-! # What newcomers leave alone

Around a cache where every call is made by a caller that has not been heard of before, and nobody's
time is ever up, a caller that has called once is concerned with one run for good: the one that its
call led to. Whatever it is told is how that run ended (`Concerns`). Traffic `Reaches` other traffic
if nothing else happens in between than that. -/

namespace LiveTemplates

namespace SingleFlight

variable {κ α : Type} [DecidableEq κ]

/-- The run that a lookup of a key leads to: the one that has its entry, or else the next. -/
def flightOf (cache : SingleFlight κ α) (key : κ) : Nat :=
  match cache.slot? key with
  | some slot => slot.flight
  | none => cache.nextFlight

/-- No other run has the entry of a key. -/
def Sole (cache : SingleFlight κ α) (key : κ) (flight : Nat) : Prop :=
  ∀ other, cache.belongs key other = true → other = flight

/-- What a lookup comes to, and where. -/
theorem lookup_cases (cache : SingleFlight κ α) (key : κ) :
    (∃ value, cache.slot? key = some (.ready (cache.flightOf key) value)
        ∧ (cache.lookup key).2 = .hit value)
      ∨ cache.slot? key = some (.pending (cache.flightOf key))
        ∧ (cache.lookup key).2 = .join (cache.flightOf key)
      ∨ cache.slot? key = none ∧ cache.flightOf key = cache.nextFlight
        ∧ (cache.lookup key).2 = .launch (cache.flightOf key) := by
  rw [lookup_snd]
  unfold flightOf
  cases cache.slot? key with
  | none => exact .inr (.inr ⟨rfl, rfl, rfl⟩)
  | some slot =>
      cases slot with
      | pending flight => exact .inr (.inl ⟨rfl, rfl⟩)
      | ready flight value => exact .inl ⟨value, rfl, rfl⟩

theorem sole_lookup (cache : SingleFlight κ α) (key : κ) :
    (cache.lookup key).1.Sole key (cache.flightOf key) := by
  intro other h
  obtain ⟨slot, hslot, rfl⟩ := (belongs_iff _ _ _).1 h
  rw [slot?_lookup] at hslot
  unfold flightOf
  cases hold : cache.slot? key with
  | none =>
      rw [if_pos ⟨rfl, hold⟩] at hslot
      cases hslot
      rfl
  | some before =>
      rw [if_neg (by simp [hold]), hold] at hslot
      cases hslot
      rfl

end SingleFlight

namespace Traffic

variable {κ α ε : Type} [DecidableEq κ]

/-- A caller has not been heard of: it does not wait and was told nothing. -/
structure Free (traffic : Traffic κ α ε) (caller : Nat) : Prop where
  ticket : traffic.ticket? caller = none
  answer : traffic.answer? caller = none

/-- If a caller waits it does so for this run, and if it was told something that is how the run
ended. -/
structure Concerns (traffic : Traffic κ α ε) (caller : Nat) (key : κ) (flight : Nat) : Prop where
  ticket {ticket : Ticket κ} (h : traffic.ticket? caller = some ticket) :
    ticket = ⟨caller, key, flight⟩
  answer {answer : Answer α ε} (h : traffic.answer? caller = some answer) :
    ∃ ending, answer = .ending ending ∧ traffic.ending? flight = some ending

/-- Calls are made by callers with numbers from one up to another, and nobody's time is up. -/
def Event.Newcomer (low high : Nat) : Event κ α ε → Prop
  | .call caller _ => low ≤ caller ∧ caller < high
  | .expire _ _ => False
  | _ => True

/-- Traffic comes to be other traffic while newcomers call and launch runs of some keys. -/
def Reaches (low high : Nat) (keys : List κ) (before after : Traffic κ α ε) : Prop :=
  ∃ events, before.run events = after ∧ before.launches events = keys
    ∧ ∀ event ∈ events, event.Newcomer low high

/-! ## One event -/

protected theorem Free.step {traffic : Traffic κ α ε} {caller : Nat} (free : traffic.Free caller)
    {event : Event κ α ε} (quiet : ∀ key, event ≠ .call caller key) :
    (traffic.step event).Free caller := by
  by_cases habout : event.caller? = some caller
  · cases event with
    | call other key => cases habout; exact absurd rfl (quiet key)
    | receive other => cases habout; rwa [Traffic.step, receive_of_gone free.ticket]
    | expire other milliseconds => cases habout; rwa [Traffic.step, expire_of_gone free.ticket]
    | leave other =>
        cases habout
        exact ⟨(ticket?_leave ..).trans (if_pos rfl), free.answer⟩
    | _ => cases habout
  · obtain ⟨hticket, hanswer⟩ := waiter_step_of_ne traffic habout
    exact ⟨hticket.trans free.ticket, hanswer.trans free.answer⟩

/-- A caller that has not been heard of and finds no value is concerned with the run that its call
leads to. -/
theorem Free.concerns_call {traffic : Traffic κ α ε} {caller : Nat} (free : traffic.Free caller)
    {key : κ} (missing : ∀ value, (traffic.cache.lookup key).2 ≠ .hit value) :
    (traffic.call caller key).1.Concerns caller key (traffic.cache.flightOf key) := by
  have hattaches : traffic.Attaches caller key (traffic.cache.flightOf key) := by
    refine ⟨free.ticket, ?_⟩
    rcases traffic.cache.lookup_cases key with ⟨value, -, hit⟩ | ⟨-, join⟩ | ⟨-, -, launch⟩
    · exact absurd hit (missing value)
    · exact .inl join
    · exact .inr launch
  have hticket := hattaches.ticket?
  have hanswer : (traffic.call caller key).1.answer? caller = none := by
    unfold call
    split
    · next heq => exact absurd (congrArg Prod.snd heq) (missing _)
    · exact free.answer
    · exact free.answer
  rw [Traffic.step, free.ticket] at hticket
  exact ⟨fun h => Option.some.inj (h.symm.trans hticket), fun h => by rw [hanswer] at h; cases h⟩

theorem Concerns.receive {keys : List κ} {traffic : Traffic κ α ε} (ledger : Ledger keys traffic)
    {caller : Nat} {key : κ} {flight : Nat} (concerns : traffic.Concerns caller key flight) :
    (traffic.receive caller).Concerns caller key flight := by
  cases hticket : traffic.ticket? caller with
  | none => rwa [receive_of_gone hticket]
  | some ticket =>
      cases concerns.ticket hticket
      cases hknown : traffic.ending? flight with
      | none => rwa [receive_of_unknown hticket hknown]
      | some ending =>
          refine ⟨fun h => ?_, fun h => ⟨ending, ?_, ledger.ending?_mono hknown (.receive caller)⟩⟩
          · rw [ticket?_receive_of_known hticket hknown] at h
            cases h
          · rw [answer?_receive_of_known hticket hknown] at h
            exact (Option.some.inj h).symm

protected theorem Concerns.step {keys : List κ} {traffic : Traffic κ α ε} (ledger : Ledger keys traffic)
    {caller : Nat} {key : κ} {flight : Nat} (concerns : traffic.Concerns caller key flight)
    {low high : Nat} (known : caller < low) {event : Event κ α ε}
    (newcomer : event.Newcomer low high) : (traffic.step event).Concerns caller key flight := by
  by_cases habout : event.caller? = some caller
  · cases event with
    | call other called =>
        cases habout
        exact absurd known (Nat.not_lt.2 newcomer.1)
    | receive other => cases habout; exact concerns.receive ledger
    | expire other milliseconds => exact newcomer.elim
    | leave other =>
        cases habout
        refine ⟨fun h => ?_, concerns.answer⟩
        have hgone := ticket?_leave traffic caller caller
        rw [if_pos rfl] at hgone
        exact absurd (hgone.symm.trans h) nofun
    | _ => cases habout
  · obtain ⟨hticket, hanswer⟩ := waiter_step_of_ne traffic habout
    refine ⟨fun h => concerns.ticket (hticket.symm.trans h), fun h => ?_⟩
    obtain ⟨ending, rfl, hknown⟩ := concerns.answer (hanswer.symm.trans h)
    exact ⟨ending, rfl, ledger.ending?_mono hknown event⟩

/-- A caller that is told something is told how its run ended. -/
theorem Concerns.outcome?_of_answer? {keys : List κ} {traffic : Traffic κ α ε}
    (ledger : Ledger keys traffic) {caller : Nat} {key : κ} {flight : Nat}
    (concerns : traffic.Concerns caller key flight) {answer : Answer α ε}
    (h : traffic.answer? caller = some answer) :
    ∃ ending, answer = .ending ending ∧ traffic.outcome? flight = some ending := by
  obtain ⟨ending, rfl, hknown⟩ := concerns.answer h
  exact ⟨ending, rfl, ledger.known hknown⟩

/-! ## Many events -/

namespace Reaches

variable {low middle high : Nat} {keys launched more : List κ} {before between after : Traffic κ α ε}

theorem refl (low high : Nat) (traffic : Traffic κ α ε) : Reaches low high [] traffic traffic :=
  ⟨[], rfl, rfl, nofun⟩

theorem of_step {event : Event κ α ε} (newcomer : event.Newcomer low high) :
    Reaches low high (before.launchOf? event).toList before (before.step event) :=
  ⟨[event], rfl, by simp [launches], by simpa using newcomer⟩

theorem of_quiet_step {event : Event κ α ε} (newcomer : event.Newcomer low high)
    (quiet : before.launchOf? event = none) : Reaches low high [] before (before.step event) :=
  ⟨[event], rfl, by simp [launches, quiet], by simpa using newcomer⟩

theorem trans (first : Reaches low middle launched before between)
    (second : Reaches middle high more between after) (hlow : low ≤ middle) (hhigh : middle ≤ high) :
    Reaches low high (launched ++ more) before after := by
  obtain ⟨events, rfl, rfl, hfirst⟩ := first
  obtain ⟨later, rfl, rfl, hsecond⟩ := second
  refine ⟨events ++ later, run_append .., launches_append .., fun event hmem => ?_⟩
  rcases List.mem_append.1 hmem with hmem | hmem
  · have := hfirst event hmem
    cases event with
    | call caller key => exact ⟨this.1, Nat.lt_of_lt_of_le this.2 hhigh⟩
    | expire caller milliseconds => exact this
    | _ => trivial
  · have := hsecond event hmem
    cases event with
    | call caller key => exact ⟨Nat.le_trans hlow this.1, this.2⟩
    | expire caller milliseconds => exact this
    | _ => trivial

theorem nextFlight_le (reaches : Reaches low high launched before after) :
    before.cache.nextFlight ≤ after.cache.nextFlight := by
  obtain ⟨events, rfl, -, -⟩ := reaches
  clear launched
  induction events generalizing before with
  | nil => exact Nat.le_refl _
  | cons event rest ih =>
      refine Nat.le_trans ?_ ih
      rw [nextFlight_step]
      exact Nat.le_add_right _ _

theorem ledger (reaches : Reaches low high launched before after) (ledger : Ledger keys before) :
    Ledger (keys ++ launched) after := by
  obtain ⟨events, rfl, rfl, -⟩ := reaches
  induction events generalizing before keys with
  | nil => simpa [launches] using ledger
  | cons event rest ih =>
      rw [launches, ← List.append_assoc]
      exact ih (ledger.step event)

/-- How a run has ended never changes. -/
theorem outcome? (reaches : Reaches low high launched before after) (ledger : Ledger keys before)
    {flight : Nat} {ending : Ending α ε} (h : before.outcome? flight = some ending) :
    after.outcome? flight = some ending := by
  obtain ⟨events, rfl, -, -⟩ := reaches
  clear launched
  induction events generalizing before keys with
  | nil => exact h
  | cons event rest ih => exact ih (ledger.step event) (ledger.outcome?_mono h event)

/-- A caller that has not been heard of, and does not call, is not heard of. -/
theorem free (reaches : Reaches low high launched before after) {caller : Nat}
    (unknown : high ≤ caller) (free : before.Free caller) : after.Free caller := by
  obtain ⟨events, rfl, -, hnew⟩ := reaches
  clear launched
  induction events generalizing before with
  | nil => exact free
  | cons event rest ih =>
      refine ih (free.step fun key hcall => ?_) fun other hmem => hnew other (.tail _ hmem)
      have hcaller := hnew event (.head _)
      rw [hcall] at hcaller
      exact absurd hcaller.2 (Nat.not_lt.2 unknown)

/-- A caller that has called before goes on being concerned with its run. -/
theorem concerns (reaches : Reaches low high launched before after) (ledger : Ledger keys before)
    {caller : Nat} {key : κ} {flight : Nat} (known : caller < low)
    (concerns : before.Concerns caller key flight) : after.Concerns caller key flight := by
  obtain ⟨events, rfl, -, hnew⟩ := reaches
  clear launched
  induction events generalizing before keys with
  | nil => exact concerns
  | cons event rest ih =>
      exact ih (ledger.step event) (concerns.step ledger known (hnew event (.head _)))
        fun other hmem => hnew other (.tail _ hmem)

/-- If no other run had the entry of a key, and this one has lost it, a lookup leads to a run that
was launched in between or will be. -/
theorem le_flightOf (reaches : Reaches low high launched before after) {key : κ} {flight : Nat}
    (sole : before.cache.Sole key flight) (gone : after.cache.belongs key flight = false) :
    before.cache.nextFlight ≤ after.cache.flightOf key := by
  have hnext := reaches.nextFlight_le
  obtain ⟨events, rfl, -, -⟩ := reaches
  unfold SingleFlight.flightOf
  cases hslot : (before.run events).cache.slot? key with
  | none => exact hnext
  | some slot =>
      dsimp only
      by_contra hlt
      have hbelongs := (SingleFlight.belongs_iff _ _ _).2 ⟨slot, hslot, rfl⟩
      -- an entry of a run launched before was there before, and only one run had it then
      have hsame := sole _ (belongs_of_run (Nat.not_le.1 hlt) events hbelongs)
      rw [hsame, gone] at hbelongs
      cases hbelongs

end Reaches

end Traffic

end LiveTemplates
