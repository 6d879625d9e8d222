import LiveTemplates.Proofs.Cache.Replies

set_option autoImplicit false

/-! # One key alone

What happens to one key is not affected by what happens to the others. The events of a history that
concern a key make a history of their own (`alone`), in which runs have other numbers: a run is
numbered by how many runs of the key come before it. The entry of the key goes through the same
changes in both, the lookups of the key come to the same and its callers are told the same
(`keys_do_not_interfere`). -/

namespace LiveTemplates

/-! ## Other numbers for runs -/

/-- How many runs of a key come before a run, in a list of the keys of all runs. -/
def rank {κ : Type} [DecidableEq κ] (keys : List κ) (key : κ) (flight : Nat) : Nat :=
  (keys.take flight).count key

section rank

variable {κ : Type} [DecidableEq κ] {keys : List κ} {key : κ}

theorem rank_append {flight : Nat} (more : List κ) (h : flight ≤ keys.length) :
    rank (keys ++ more) key flight = rank keys key flight := by
  rw [rank, rank, List.take_append_of_le_length h]

@[simp] theorem rank_length : rank keys key keys.length = keys.count key := by
  rw [rank, List.take_length]

theorem rank_mono {first second : Nat} (h : first ≤ second) :
    rank keys key first ≤ rank keys key second := by
  have hpart : keys.take first = (keys.take second).take first := by
    rw [List.take_take, Nat.min_eq_left h]
  rw [rank, rank, hpart]
  exact (List.take_sublist _ _).count_le _

theorem rank_succ {flight : Nat} (home : keys[flight]? = some key) :
    rank keys key (flight + 1) = rank keys key flight + 1 := by
  rw [rank, rank, List.take_add_one, home]
  simp

theorem rank_lt {flight : Nat} (home : keys[flight]? = some key) :
    rank keys key flight < keys.count key := by
  obtain ⟨hlt, -⟩ := List.getElem?_eq_some_iff.1 home
  have hsucc := rank_succ home
  have hle : rank keys key (flight + 1) ≤ rank keys key keys.length := rank_mono hlt
  rw [rank_length] at hle
  omega

theorem rank_injective {first second : Nat} (home : keys[first]? = some key)
    (home' : keys[second]? = some key) (same : rank keys key first = rank keys key second) :
    first = second := by
  have hfirst := rank_succ home
  have hsecond := rank_succ home'
  rcases Nat.lt_trichotomy first second with hlt | heq | hgt
  · have hle : rank keys key (first + 1) ≤ rank keys key second := rank_mono hlt
    omega
  · exact heq
  · have hle : rank keys key (second + 1) ≤ rank keys key first := rank_mono hgt
    omega

end rank

/-- The entry with another number for its run. -/
def Slot.renumber {α : Type} (number : Nat → Nat) : Slot α → Slot α
  | pending flight => pending (number flight)
  | ready flight value => ready (number flight) value

/-- The lookup with another number for its run. -/
def Lookup.renumber {α : Type} (number : Nat → Nat) : Lookup α → Lookup α
  | hit value => hit value
  | join flight => join (number flight)
  | launch flight => launch (number flight)

/-- The ticket with another number for its run. -/
def Ticket.renumber {κ : Type} (number : Nat → Nat) (ticket : Ticket κ) : Ticket κ :=
  { ticket with flight := number ticket.flight }

@[simp] theorem Slot.flight_renumber {α : Type} (number : Nat → Nat) (slot : Slot α) :
    (slot.renumber number).flight = number slot.flight := by
  cases slot <;> rfl

namespace Traffic

open History

variable {κ α ε : Type} [DecidableEq κ]

/-! ## The events of one key -/

/-- The ticket of a caller that waits for a run of a key. -/
def ticketFor? (traffic : Traffic κ α ε) (key : κ) (caller : Nat) : Option (Ticket κ) :=
  (traffic.ticket? caller).filter fun ticket => ticket.key = key

/-- The event as one of a key, if it is one: it is about the key itself, about a run of the key, or
about a caller that waits for one. Runs have their numbers among those of the key. -/
def eventOf? (traffic : Traffic κ α ε) (keys : List κ) (key : κ) :
    Event κ α ε → Option (Event κ α ε)
  | .call caller called =>
    if called = key ∧ traffic.ticket? caller = none then some (.call caller called) else none
  | .finish flight ending =>
    if keys[flight]? = some key then some (.finish (rank keys key flight) ending) else none
  | .report flight =>
    if keys[flight]? = some key then some (.report (rank keys key flight)) else none
  | .receive caller => (traffic.ticketFor? key caller).map fun _ => .receive caller
  | .expire caller milliseconds =>
    (traffic.ticketFor? key caller).map fun _ => .expire caller milliseconds
  | .leave caller => (traffic.ticketFor? key caller).map fun _ => .leave caller
  | .invalidate called => if called = key then some (.invalidate called) else none
  | .invalidateIf called test => if called = key then some (.invalidateIf called test) else none
  | .sweep part => if part key then some (.sweep part) else none

/-- What an event that concerns a key can be, and what it is among the events of the key. -/
inductive Projects (traffic : Traffic κ α ε) (keys : List κ) (key : κ) :
    Event κ α ε → Event κ α ε → Prop where
  | call {caller : Nat} (free : traffic.ticket? caller = none) :
      Projects traffic keys key (.call caller key) (.call caller key)
  | finish {flight : Nat} {ending : Ending α ε} (home : keys[flight]? = some key) :
      Projects traffic keys key (.finish flight ending) (.finish (rank keys key flight) ending)
  | report {flight : Nat} (home : keys[flight]? = some key) :
      Projects traffic keys key (.report flight) (.report (rank keys key flight))
  | receive {caller : Nat} {ticket : Ticket κ}
      (waits : traffic.ticketFor? key caller = some ticket) :
      Projects traffic keys key (.receive caller) (.receive caller)
  | expire {caller milliseconds : Nat} {ticket : Ticket κ}
      (waits : traffic.ticketFor? key caller = some ticket) :
      Projects traffic keys key (.expire caller milliseconds) (.expire caller milliseconds)
  | leave {caller : Nat} {ticket : Ticket κ}
      (waits : traffic.ticketFor? key caller = some ticket) :
      Projects traffic keys key (.leave caller) (.leave caller)
  | invalidate : Projects traffic keys key (.invalidate key) (.invalidate key)
  | invalidateIf {test : α → Bool} :
      Projects traffic keys key (.invalidateIf key test) (.invalidateIf key test)
  | sweep {part : κ → Bool} (within : part key = true) :
      Projects traffic keys key (.sweep part) (.sweep part)

theorem projects_of_eventOf? {traffic : Traffic κ α ε} {keys : List κ} {key : κ}
    {event own : Event κ α ε} (is : traffic.eventOf? keys key event = some own) :
    traffic.Projects keys key event own := by
  cases event with
  | receive caller =>
      obtain ⟨ticket, waits, rfl⟩ := Option.map_eq_some_iff.1 is
      exact .receive waits
  | expire caller milliseconds =>
      obtain ⟨ticket, waits, rfl⟩ := Option.map_eq_some_iff.1 is
      exact .expire waits
  | leave caller =>
      obtain ⟨ticket, waits, rfl⟩ := Option.map_eq_some_iff.1 is
      exact .leave waits
  | call caller called =>
      obtain ⟨⟨rfl, free⟩, h⟩ := Option.ite_none_right_eq_some.1 is
      cases h
      exact .call free
  | finish flight ending =>
      obtain ⟨home, h⟩ := Option.ite_none_right_eq_some.1 is
      cases h
      exact .finish home
  | report flight =>
      obtain ⟨home, h⟩ := Option.ite_none_right_eq_some.1 is
      cases h
      exact .report home
  | invalidate called =>
      obtain ⟨rfl, h⟩ := Option.ite_none_right_eq_some.1 is
      cases h
      exact .invalidate
  | invalidateIf called test =>
      obtain ⟨rfl, h⟩ := Option.ite_none_right_eq_some.1 is
      cases h
      exact .invalidateIf
  | sweep part =>
      obtain ⟨within, h⟩ := Option.ite_none_right_eq_some.1 is
      cases h
      exact .sweep within

/-- A history without the events of all other keys. -/
def alone (key : κ) (events : List (Event κ α ε)) : List (Event κ α ε) :=
  record (fun earlier event => (after earlier).eventOf? (launches {} earlier) key event) events

theorem alone_append_singleton (key : κ) (events : List (Event κ α ε)) (event : Event κ α ε) :
    alone key (events ++ [event])
      = alone key events
        ++ ((after events).eventOf? (launches {} events) key event).toList :=
  record_append_singleton _ events event

/-! ## The numbering -/

/-- The numbers of the runs so far, among those of a key. -/
def Numbers (number : Nat → Nat) (keys : List κ) (key : κ) : Prop :=
  ∀ flight ≤ keys.length, number flight = rank keys key flight

namespace Numbers

variable {number : Nat → Nat} {keys more : List κ} {key : κ}

theorem of_append (numbers : Numbers number (keys ++ more) key) : Numbers number keys key := by
  intro flight hle
  rw [numbers flight (by rw [List.length_append]; omega), rank_append more hle]

theorem home (numbers : Numbers number keys key) {flight : Nat} (home : keys[flight]? = some key) :
    number flight = rank keys key flight := by
  obtain ⟨hlt, -⟩ := List.getElem?_eq_some_iff.1 home
  exact numbers flight (Nat.le_of_lt hlt)

theorem next (numbers : Numbers number keys key) : number keys.length = keys.count key := by
  rw [numbers keys.length (Nat.le_refl _), rank_length]

theorem lt (numbers : Numbers number keys key) {flight : Nat} (home : keys[flight]? = some key) :
    number flight < keys.count key := by
  rw [numbers.home home]
  exact rank_lt home

theorem injective (numbers : Numbers number keys key) {first second : Nat}
    (home : keys[first]? = some key) (home' : keys[second]? = some key) :
    number first = number second ↔ first = second := by
  rw [numbers.home home, numbers.home home']
  exact ⟨rank_injective home home', fun h => by rw [h]⟩

end Numbers

/-! ## The mirror of one key -/

/-- One traffic shows of a key all that another one does, with other numbers for the runs. -/
structure Mirrors (number : Nat → Nat) (keys : List κ) (key : κ) (traffic mirror : Traffic κ α ε) :
    Prop where
  slot? : mirror.cache.slot? key = (traffic.cache.slot? key).map (Slot.renumber number)
  next : mirror.cache.nextFlight = keys.count key
  running {flight : Nat} (home : keys[flight]? = some key) :
    Assoc.find? (number flight) mirror.running = Assoc.find? flight traffic.running
  closing {flight : Nat} (home : keys[flight]? = some key) :
    Assoc.find? (number flight) mirror.closing = Assoc.find? flight traffic.closing
  ending? {flight : Nat} (home : keys[flight]? = some key) :
    mirror.ending? (number flight) = traffic.ending? flight
  ticket? (caller : Nat) :
    mirror.ticket? caller = (traffic.ticketFor? key caller).map (Ticket.renumber number)

/-! ## Events of other keys -/

section other

variable {keys : List κ} {key : κ} {traffic : Traffic κ α ε} {event : Event κ α ε}

theorem ticketFor?_of_ticket?_eq_none {caller : Nat} (gone : traffic.ticket? caller = none) :
    traffic.ticketFor? key caller = none := by
  rw [ticketFor?, gone, Option.filter_none]

/-- A caller that waited for no run of the key waits for none after a call of another key. -/
theorem ticketFor?_call_of_ne {caller : Nat} {called : κ} (free : traffic.ticket? caller = none)
    (hne : called ≠ key) :
    (traffic.step (.call caller called)).ticketFor? key caller = none := by
  cases hlook : (traffic.cache.lookup called).2 with
  | hit value => exact ticketFor?_of_ticket?_eq_none (ticket?_of_hit free hlook)
  | join flight => simp [ticketFor?, Attaches.ticket? ⟨free, .inl hlook⟩, hne]
  | launch flight => simp [ticketFor?, Attaches.ticket? ⟨free, .inr hlook⟩, hne]

theorem ticketFor?_step_of_other (other : traffic.eventOf? keys key event = none) (caller : Nat) :
    (traffic.step event).ticketFor? key caller = traffic.ticketFor? key caller := by
  by_cases habout : event.caller? = some caller
  · -- a caller that waited for a run of the key would make the event one of the key
    have hwaiter : event.waiter? = some caller →
        (traffic.step event).ticketFor? key caller = traffic.ticketFor? key caller := by
      intro ends
      have hnone : traffic.ticketFor? key caller = none := by
        cases event with
        | receive _ => cases ends; simpa [eventOf?] using other
        | expire _ _ => cases ends; simpa [eventOf?] using other
        | leave _ => cases ends; simpa [eventOf?] using other
        | _ => cases ends
      rcases ticket?_step_of_waiter traffic ends with hsame | hgone
      · rw [ticketFor?, hsame, ticketFor?]
      · rw [ticketFor?_of_ticket?_eq_none hgone, hnone]
    cases event with
    | call _ called =>
        cases habout
        cases hticket : traffic.ticket? caller with
        | some ticket => simp [step, hticket]
        | none =>
            have hne : called ≠ key := by
              rintro rfl
              simp [eventOf?, hticket] at other
            rw [ticketFor?_call_of_ne hticket hne, ticketFor?_of_ticket?_eq_none hticket]
    | receive _ => exact hwaiter habout
    | expire _ _ => exact hwaiter habout
    | leave _ => exact hwaiter habout
    | _ => cases habout
  · rw [ticketFor?, (waiter_step_of_ne traffic habout).1, ticketFor?]

/-- An event of another key leaves the entry of the key. -/
theorem slot?_step_of_other (ledger : Ledger keys traffic)
    (other : traffic.eventOf? keys key event = none) :
    (traffic.step event).cache.slot? key = traffic.cache.slot? key := by
  have hchanges := step_changes traffic event key
  generalize hbefore : traffic.cache.slot? key = before at hchanges ⊢
  generalize (traffic.step event).cache.slot? key = after at hchanges ⊢
  cases hchanges with
  | kept => rfl
  | launched caller is free =>
      subst is
      simp [eventOf?, free] at other
  | landed slot value is runs =>
      subst is
      simp [eventOf?, (ledger.running runs).1] at other
  | removed slot why =>
      cases why with
      | invalidated is =>
          subst is
          simp [eventOf?] at other
      | refused test flight value is ready passes =>
          subst is
          simp [eventOf?] at other
      | swept part is within =>
          subst is
          simp [eventOf?, within] at other
      | failed e is runs =>
          subst is
          simp [eventOf?, (ledger.running runs).1] at other
      | broke caller explanation is waits known =>
          have hticket : traffic.ticketFor? key caller = some ⟨caller, key, slot.flight⟩ := by
            simp [ticketFor?, waits]
          cases event with
          | receive _ => cases is; simp [eventOf?, hticket] at other
          | expire _ _ => cases is; simp [eventOf?, hticket] at other
          | _ => cases is

/-- An event of another key leaves the runs of the key. -/
theorem runs_step_of_other (ledger : Ledger keys traffic)
    (other : traffic.eventOf? keys key event = none) {flight : Nat}
    (home : keys[flight]? = some key) :
    Assoc.find? flight (traffic.step event).running = Assoc.find? flight traffic.running
      ∧ Assoc.find? flight (traffic.step event).closing = Assoc.find? flight traffic.closing
      ∧ (traffic.step event).ending? flight = traffic.ending? flight := by
  cases event with
  | call caller called =>
      unfold step
      dsimp only
      split
      · exact ⟨rfl, rfl, rfl⟩
      · have hne : traffic.cache.nextFlight ≠ flight := by
          have := ledger.launch_new home
          omega
        simp only [running_call, closing_call, ending?, ended_call, and_self, and_true]
        split
        · simp [Assoc.find?_append, Assoc.find?, hne]
        · rfl
  | finish run ending =>
      have hne : flight ≠ run := by
        rintro rfl
        simp [eventOf?, home] at other
      unfold step finish
      dsimp only
      split
      · exact ⟨rfl, rfl, rfl⟩
      · simp [ending?, Assoc.find?_erase, Assoc.find?_set, hne]
  | report run =>
      have hne : flight ≠ run := by
        rintro rfl
        simp [eventOf?, home] at other
      unfold step report
      dsimp only
      split
      · exact ⟨rfl, rfl, rfl⟩
      · simp [ending?, Assoc.find?_erase, Assoc.find?_set, hne]
  | receive caller => simp only [step, ending?, runs_receive, and_self]
  | expire caller milliseconds => simp only [step, ending?, runs_expire, and_self]
  | _ => exact ⟨rfl, rfl, rfl⟩

/-- A run that an event of another key launches is for another key. -/
theorem launchOf?_of_other (other : traffic.eventOf? keys key event = none) :
    traffic.launchOf? event ≠ some key := by
  intro hlaunch
  obtain ⟨caller, rfl, free, -⟩ := (launchOf?_eq_some_iff _ _ _).1 hlaunch
  simp [eventOf?, free] at other

end other

section mirror

variable {number : Nat → Nat} {keys ranks : List κ} {key : κ} {traffic mirror : Traffic κ α ε}
  {event own : Event κ α ε}

/-- The mirror of a key stands still in an event of another key. -/
theorem Mirrors.step_other (mirrors : Mirrors number keys key traffic mirror)
    (ledger : Ledger keys traffic) (other : traffic.eventOf? keys key event = none) :
    Mirrors number (keys ++ (traffic.launchOf? event).toList) key (traffic.step event) mirror := by
  have hlaunch := launchOf?_of_other other
  have hhome : ∀ {flight : Nat},
      (keys ++ (traffic.launchOf? event).toList)[flight]? = some key →
        keys[flight]? = some key := by
    intro flight home
    exact (getElem?_of_append_toList home).resolve_right fun h => hlaunch h.1
  exact {
    slot? := by rw [slot?_step_of_other ledger other, mirrors.slot?]
    next := by
      rw [mirrors.next, List.count_append]
      cases hnew : traffic.launchOf? event with
      | none => rfl
      | some new =>
          have hne : new ≠ key := fun h => hlaunch (h ▸ hnew)
          simp [hne]
    running := fun home => by
      rw [(runs_step_of_other ledger other (hhome home)).1, mirrors.running (hhome home)]
    closing := fun home => by
      rw [(runs_step_of_other ledger other (hhome home)).2.1, mirrors.closing (hhome home)]
    ending? := fun home => by
      rw [(runs_step_of_other ledger other (hhome home)).2.2, mirrors.ending? (hhome home)]
    ticket? := fun caller => by rw [ticketFor?_step_of_other other, mirrors.ticket?] }

/-! ## Events of the key -/

theorem Mirrors.peek (mirrors : Mirrors number keys key traffic mirror) :
    mirror.cache.peek key = traffic.cache.peek key := by
  unfold SingleFlight.peek
  rw [mirrors.slot?]
  rcases traffic.cache.slot? key with _ | _ | _ <;> rfl

theorem Mirrors.contains (mirrors : Mirrors number keys key traffic mirror) :
    mirror.cache.contains key = traffic.cache.contains key := by
  unfold SingleFlight.contains
  rw [mirrors.slot?, Option.isSome_map]

theorem Mirrors.isPending (mirrors : Mirrors number keys key traffic mirror) :
    mirror.cache.isPending key = traffic.cache.isPending key := by
  unfold SingleFlight.isPending
  rw [mirrors.slot?]
  rcases traffic.cache.slot? key with _ | _ | _ <;> rfl

theorem Mirrors.lookup (mirrors : Mirrors number keys key traffic mirror)
    (ledger : Ledger keys traffic) (numbers : Numbers number keys key) :
    (mirror.cache.lookup key).2 = (traffic.cache.lookup key).2.renumber number := by
  rw [SingleFlight.lookup_snd, SingleFlight.lookup_snd, mirrors.slot?, mirrors.next, ledger.next,
    ← numbers.next]
  rcases traffic.cache.slot? key with _ | _ | _ <;> rfl

theorem Mirrors.belongs (mirrors : Mirrors number keys key traffic mirror)
    (ledger : Ledger keys traffic) (numbers : Numbers number keys key) {flight : Nat}
    (home : keys[flight]? = some key) :
    mirror.cache.belongs key (number flight) = traffic.cache.belongs key flight := by
  unfold SingleFlight.belongs
  rw [mirrors.slot?]
  cases hslot : traffic.cache.slot? key with
  | none => rfl
  | some slot => simp [numbers.injective (ledger.last hslot).1 home]

/-- A caller that waits for a run of the key in the mirror does so behind it. -/
theorem Mirrors.ticket?_eq_some (mirrors : Mirrors number keys key traffic mirror)
    {caller : Nat} {ticket : Ticket κ} (waits : traffic.ticketFor? key caller = some ticket) :
    mirror.ticket? caller = some (ticket.renumber number) := by
  rw [mirrors.ticket?, waits, Option.map_some]

theorem of_ticketFor? {caller : Nat} {ticket : Ticket κ}
    (waits : traffic.ticketFor? key caller = some ticket) :
    traffic.ticket? caller = some ticket ∧ ticket.key = key := by
  simpa [ticketFor?, Option.filter_eq_some_iff] using waits

theorem Mirrors.ticket?_eq_none (mirrors : Mirrors number keys key traffic mirror) {caller : Nat}
    (gone : traffic.ticket? caller = none) : mirror.ticket? caller = none := by
  rw [mirrors.ticket?, ticketFor?_of_ticket?_eq_none gone, Option.map_none]

theorem Mirrors.receive_slot? (mirrors : Mirrors number keys key traffic mirror)
    (ledger : Ledger keys traffic) (numbers : Numbers number keys key) {caller : Nat}
    {ticket : Ticket κ} (waits : traffic.ticketFor? key caller = some ticket) :
    (mirror.receive caller).cache.slot? key
      = ((traffic.receive caller).cache.slot? key).map (Slot.renumber number) := by
  obtain ⟨hticket, rfl⟩ := of_ticketFor? waits
  have hmirror := mirrors.ticket?_eq_some waits
  have home := ledger.waiting (List.mem_of_find?_eq_some hticket)
  have hending := mirrors.ending? home
  cases hknown : traffic.ending? ticket.flight with
  | none =>
      rw [receive_of_unknown hticket hknown,
        receive_of_unknown hmirror (hending.trans hknown), mirrors.slot?]
  | some ending =>
      rw [receive_of_known hticket hknown, receive_of_known hmirror (hending.trans hknown),
        cache_tell, cache_tell]
      cases ending with
      | value value => exact mirrors.slot?
      | error e => exact mirrors.slot?
      | broken explanation =>
          have hbelongs := mirrors.belongs ledger numbers home
          simp only [collect, Ticket.renumber, SingleFlight.slot?_dropFlight, hbelongs,
            mirrors.slot?]
          split <;> rfl

/-- The entry of the key changes in the mirror as it does behind it. -/
theorem Mirrors.step_slot? (mirrors : Mirrors number keys key traffic mirror)
    (ledger : Ledger keys traffic) (numbers : Numbers number keys key)
    (is : traffic.Projects keys key event own) :
    (mirror.step own).cache.slot? key
      = ((traffic.step event).cache.slot? key).map (Slot.renumber number) := by
  cases is with
  | call free =>
      simp only [step, free, mirrors.ticket?_eq_none free, Option.isSome_none, Bool.false_eq_true,
        if_false, call_cache, SingleFlight.slot?_lookup, mirrors.slot?, mirrors.next, ledger.next,
        true_and, Option.map_eq_none_iff]
      split
      · simp [Slot.renumber, numbers.next]
      · rfl
  | @finish flight ending home =>
      have hbelongs := mirrors.belongs ledger numbers home
      simp only [step, finish, ← numbers.home home, mirrors.running home]
      cases hrun : Assoc.find? flight traffic.running with
      | none => exact mirrors.slot?
      | some of =>
          have hkey := (ledger.running hrun).1
          rw [home] at hkey
          cases hkey
          cases ending with
          | value value =>
              simp only [settle, SingleFlight.slot?_succeed, hbelongs, mirrors.slot?]
              split <;> rfl
          | error e =>
              simp only [settle, SingleFlight.slot?_fail, hbelongs, mirrors.slot?]
              split <;> rfl
          | broken explanation => exact mirrors.slot?
  | report home =>
      simp only [step, report, ← numbers.home home, mirrors.closing home]
      split <;> exact mirrors.slot?
  | receive waits => exact mirrors.receive_slot? ledger numbers waits
  | expire waits =>
      simp only [step, cache_expire]
      exact mirrors.receive_slot? ledger numbers waits
  | leave waits => exact mirrors.slot?
  | invalidate => simp [step, invalidate, SingleFlight.slot?_invalidate]
  | invalidateIf =>
      simp only [step, invalidateIf, SingleFlight.slot?_invalidateIf, mirrors.peek, mirrors.slot?]
      split <;> rfl
  | sweep within => simp [step, sweep, SingleFlight.slot?_sweep, within]

/-- What an event of the key comes to in the mirror. -/
theorem Mirrors.found? (mirrors : Mirrors number keys key traffic mirror)
    (ledger : Ledger keys traffic) (numbers : Numbers number keys key)
    (is : traffic.Projects keys key event own) :
    mirror.found? own = (traffic.found? event).map (Lookup.renumber number) := by
  cases is with
  | call free =>
      simp [Traffic.found?, free, mirrors.ticket?_eq_none free, mirrors.lookup ledger numbers]
  | _ => rfl

theorem Mirrors.reply? (mirrors : Mirrors number keys key traffic mirror)
    (ledger : Ledger keys traffic) (numbers : Numbers number keys key)
    (is : traffic.Projects keys key event own) :
    mirror.reply? own = traffic.reply? event := by
  cases is with
  | @call caller free =>
      simp only [Traffic.reply?, mirrors.found? ledger numbers (.call free)]
      rcases traffic.found? (.call caller key) with _ | _ | _ | _ <;> rfl
  | receive waits =>
      obtain ⟨hticket, rfl⟩ := of_ticketFor? waits
      have hending := mirrors.ending? (ledger.waiting (List.mem_of_find?_eq_some hticket))
      simp [Traffic.reply?, mirrors.ticket?_eq_some waits, hticket, Ticket.renumber, hending]
  | expire waits =>
      obtain ⟨hticket, rfl⟩ := of_ticketFor? waits
      have hending := mirrors.ending? (ledger.waiting (List.mem_of_find?_eq_some hticket))
      simp [Traffic.reply?, mirrors.ticket?_eq_some waits, hticket, Ticket.renumber, hending]
  | invalidate =>
      simp only [Traffic.reply?, invalidate, SingleFlight.invalidate_snd, mirrors.contains]
  | invalidateIf =>
      simp only [Traffic.reply?, invalidateIf, SingleFlight.invalidateIf_snd, mirrors.peek]
  | _ => rfl

/-- What an event of the key launches is a run of the key, in the mirror and behind it. -/
theorem Mirrors.launchOf? (mirrors : Mirrors number keys key traffic mirror)
    (is : traffic.Projects keys key event own) :
    mirror.launchOf? own = traffic.launchOf? event
      ∧ ∀ new, traffic.launchOf? event = some new → new = key := by
  cases is with
  | call free =>
      have hmirror := mirrors.ticket?_eq_none free
      constructor
      · simp only [Traffic.launchOf?, free, hmirror, SingleFlight.lookup_snd, mirrors.slot?]
        rcases traffic.cache.slot? key with _ | _ | _ <;> rfl
      · intro new hnew
        obtain ⟨_, hcall, -⟩ := (launchOf?_eq_some_iff _ _ _).1 hnew
        cases hcall
        rfl
  | _ => exact ⟨rfl, fun _ h => by cases h⟩

/-- The number of a run that is yet to be launched is free. -/
theorem Ledger.free (ledger : Ledger keys traffic) :
    Assoc.find? keys.length traffic.running = none
      ∧ Assoc.find? keys.length traffic.closing = none
      ∧ traffic.ending? keys.length = none := by
  have hend : traffic.outcome? keys.length = none := by
    cases hended : traffic.outcome? keys.length with
    | none => rfl
    | some ending => exact absurd (ledger.ended hended) (Nat.lt_irrefl _)
  refine ⟨?_, Option.or_eq_none_iff.1 hend⟩
  cases hrun : Assoc.find? keys.length traffic.running with
  | none => rfl
  | some of => exact absurd (ledger.launch_new (ledger.running hrun).1) (by rw [ledger.next]; omega)

theorem ending?_call (traffic : Traffic κ α ε) (caller : Nat) (called : κ) (flight : Nat) :
    (traffic.call caller called).1.ending? flight = traffic.ending? flight := by
  rw [ending?, ended_call, ending?]

/-- A call leaves the runs of the key that were launched before. -/
theorem Mirrors.runs_call (mirrors : Mirrors number keys key traffic mirror)
    (ledger : Ledger keys traffic) (numbers : Numbers number keys key) (caller : Nat) {flight : Nat}
    (home : keys[flight]? = some key) :
    Assoc.find? (number flight) (mirror.call caller key).1.running
        = Assoc.find? flight (traffic.call caller key).1.running
      ∧ Assoc.find? (number flight) (mirror.call caller key).1.closing
        = Assoc.find? flight (traffic.call caller key).1.closing
      ∧ (mirror.call caller key).1.ending? (number flight)
        = (traffic.call caller key).1.ending? flight := by
  have hnext : traffic.cache.nextFlight ≠ flight := by
    have := ledger.launch_new home
    omega
  have hnext' : mirror.cache.nextFlight ≠ number flight := by
    have := numbers.lt home
    rw [mirrors.next]
    omega
  rw [running_call, running_call, closing_call, closing_call, ending?_call, ending?_call]
  refine ⟨?_, mirrors.closing home, mirrors.ending? home⟩
  simp only [mirrors.slot?, Option.map_eq_none_iff]
  split
  · simp [Assoc.find?_append, Assoc.find?, hnext, hnext', mirrors.running home]
  · exact mirrors.running home

/-- A call that launches a run of the key launches one in the mirror. -/
theorem Mirrors.runs_launch (mirrors : Mirrors number keys key traffic mirror)
    (ledger : Ledger keys traffic) (ledger' : Ledger ranks mirror)
    (numbers : Numbers number keys key) (caller : Nat) (none : traffic.cache.slot? key = none) :
    Assoc.find? (number keys.length) (mirror.call caller key).1.running
        = Assoc.find? keys.length (traffic.call caller key).1.running
      ∧ Assoc.find? (number keys.length) (mirror.call caller key).1.closing
        = Assoc.find? keys.length (traffic.call caller key).1.closing
      ∧ (mirror.call caller key).1.ending? (number keys.length)
        = (traffic.call caller key).1.ending? keys.length := by
  obtain ⟨hrunning, hclosing, hending⟩ := ledger.free
  have hranks : number keys.length = ranks.length := by
    rw [numbers.next, ← mirrors.next, ledger'.next]
  obtain ⟨hrunning', hclosing', hending'⟩ := ledger'.free
  have hslot' : mirror.cache.slot? key = Option.none := by rw [mirrors.slot?, none, Option.map_none]
  rw [hranks, running_call, running_call, closing_call, closing_call, ending?_call, ending?_call,
    if_pos none, if_pos hslot', hclosing, hclosing', hending, hending']
  simp [Assoc.find?_append, Assoc.find?, hrunning, hrunning', ledger.next, ledger'.next]

/-- The runs of the key go on in the mirror as they do behind it. -/
theorem Mirrors.step_runs (mirrors : Mirrors number keys key traffic mirror)
    (ledger : Ledger keys traffic) (ledger' : Ledger ranks mirror)
    (numbers : Numbers number keys key) (is : traffic.Projects keys key event own)
    {flight : Nat} (home : (keys ++ (traffic.launchOf? event).toList)[flight]? = some key) :
    Assoc.find? (number flight) (mirror.step own).running
        = Assoc.find? flight (traffic.step event).running
      ∧ Assoc.find? (number flight) (mirror.step own).closing
        = Assoc.find? flight (traffic.step event).closing
      ∧ (mirror.step own).ending? (number flight) = (traffic.step event).ending? flight := by
  rcases getElem?_of_append_toList home with old | ⟨hlaunch, rfl⟩
  · have hending := mirrors.ending? old
    simp only [Traffic.ending?] at hending
    cases is with
    | @call caller free =>
        simp only [step, free, mirrors.ticket?_eq_none free, Option.isSome_none, Bool.false_eq_true,
          if_false]
        exact mirrors.runs_call ledger numbers caller old
    | finish hrun =>
        simp only [step, finish, ← numbers.home hrun, mirrors.running hrun]
        split
        · exact ⟨mirrors.running old, mirrors.closing old, mirrors.ending? old⟩
        · simp only [Traffic.ending?, Assoc.find?_erase, Assoc.find?_set,
            numbers.injective old hrun, mirrors.running old, mirrors.closing old, hending, and_self]
    | report hrun =>
        simp only [step, report, ← numbers.home hrun, mirrors.closing hrun]
        split
        · exact ⟨mirrors.running old, mirrors.closing old, mirrors.ending? old⟩
        · simp only [Traffic.ending?, Assoc.find?_erase, Assoc.find?_set,
            numbers.injective old hrun, mirrors.running old, mirrors.closing old, hending, and_self]
    | receive waits =>
        simp only [step, Traffic.ending?, runs_receive, mirrors.running old, mirrors.closing old,
          hending, and_self]
    | expire waits =>
        simp only [step, Traffic.ending?, runs_expire, mirrors.running old, mirrors.closing old,
          hending, and_self]
    | _ => exact ⟨mirrors.running old, mirrors.closing old, mirrors.ending? old⟩
  · obtain ⟨caller, rfl, free, none⟩ := (launchOf?_eq_some_iff _ _ _).1 hlaunch
    cases is
    simp only [step, free, mirrors.ticket?_eq_none free, Option.isSome_none, Bool.false_eq_true,
      if_false]
    exact mirrors.runs_launch ledger ledger' numbers caller none

theorem Projects.caller? (is : traffic.Projects keys key event own) :
    own.caller? = event.caller? := by
  cases is <;> rfl

theorem ticketFor?_of_attaches {caller flight : Nat}
    (attaches : traffic.Attaches caller key flight) :
    (traffic.step (.call caller key)).ticketFor? key caller = some ⟨caller, key, flight⟩ := by
  rw [ticketFor?, attaches.ticket?, Option.filter_some, if_pos (by simp)]

/-- Whoever calls the key waits for the same run in the mirror. -/
theorem Mirrors.ticket?_call (mirrors : Mirrors number keys key traffic mirror)
    (ledger : Ledger keys traffic) (numbers : Numbers number keys key) {caller : Nat}
    (free : traffic.ticket? caller = none) :
    (mirror.step (.call caller key)).ticket? caller
      = ((traffic.step (.call caller key)).ticketFor? key caller).map
          (Ticket.renumber number) := by
  have hfree := mirrors.ticket?_eq_none free
  have hlookup := mirrors.lookup ledger numbers
  cases hlook : (traffic.cache.lookup key).2 with
  | hit value =>
      rw [hlook] at hlookup
      rw [ticket?_of_hit hfree hlookup, ticketFor?_of_ticket?_eq_none (ticket?_of_hit free hlook)]
      rfl
  | join flight =>
      rw [hlook] at hlookup
      rw [Attaches.ticket? ⟨hfree, .inl hlookup⟩, ticketFor?_of_attaches ⟨free, .inl hlook⟩]
      rfl
  | launch flight =>
      rw [hlook] at hlookup
      rw [Attaches.ticket? ⟨hfree, .inr hlookup⟩, ticketFor?_of_attaches ⟨free, .inr hlook⟩]
      rfl

/-- The callers of the key fare in the mirror as they do behind it. -/
theorem Mirrors.step_ticket? (mirrors : Mirrors number keys key traffic mirror)
    (ledger : Ledger keys traffic) (numbers : Numbers number keys key)
    (is : traffic.Projects keys key event own) (caller : Nat) :
    (mirror.step own).ticket? caller
      = ((traffic.step event).ticketFor? key caller).map (Ticket.renumber number) := by
  by_cases habout : event.caller? = some caller
  · cases is with
    | call free =>
        cases habout
        exact mirrors.ticket?_call ledger numbers free
    | @receive _ ticket waits =>
        cases habout
        obtain ⟨hticket, rfl⟩ := of_ticketFor? waits
        have hmirror := mirrors.ticket?_eq_some waits
        have hending := mirrors.ending? (ledger.waiting (List.mem_of_find?_eq_some hticket))
        simp only [step]
        cases hknown : traffic.ending? ticket.flight with
        | none =>
            rw [receive_of_unknown hticket hknown,
              receive_of_unknown hmirror (hending.trans hknown), mirrors.ticket?]
        | some ending =>
            rw [ticket?_receive_of_known hmirror (hending.trans hknown),
              ticketFor?_of_ticket?_eq_none (ticket?_receive_of_known hticket hknown)]
            rfl
    | expire waits =>
        cases habout
        simp only [step]
        rw [ticket?_expire, ticketFor?_of_ticket?_eq_none (ticket?_expire _ _ _)]
        rfl
    | leave waits =>
        cases habout
        have hgone : ∀ some : Traffic κ α ε, (some.leave caller).ticket? caller = none :=
          fun some => (ticket?_leave some caller caller).trans (if_pos rfl)
        simp only [step]
        rw [hgone, ticketFor?_of_ticket?_eq_none (hgone traffic)]
        rfl
    | _ => cases habout
  · have hown : own.caller? ≠ some caller := by rwa [is.caller?]
    rw [(waiter_step_of_ne mirror hown).1, mirrors.ticket?, ticketFor?, ticketFor?,
      (waiter_step_of_ne traffic habout).1]

/-- An event of the key happens in the mirror as it does behind it. -/
theorem Mirrors.step_own (mirrors : Mirrors number keys key traffic mirror)
    (ledger : Ledger keys traffic) (ledger' : Ledger ranks mirror)
    (numbers : Numbers number keys key) (is : traffic.Projects keys key event own) :
    Mirrors number (keys ++ (traffic.launchOf? event).toList) key (traffic.step event)
      (mirror.step own) where
  slot? := mirrors.step_slot? ledger numbers is
  next := by
    obtain ⟨hlaunch, hkey⟩ := mirrors.launchOf? is
    rw [nextFlight_step, mirrors.next, hlaunch, List.count_append]
    cases hnew : traffic.launchOf? event with
    | none => rfl
    | some new => simp [hkey new hnew]
  running home := (mirrors.step_runs ledger ledger' numbers is home).1
  closing home := (mirrors.step_runs ledger ledger' numbers is home).2.1
  ending? home := (mirrors.step_runs ledger ledger' numbers is home).2.2
  ticket? := mirrors.step_ticket? ledger numbers is

end mirror

/-! ## Histories -/

/-- A history shows of a key all that the events of the key alone show. -/
theorem mirrors_alone {number : Nat → Nat} (key : κ) (events : List (Event κ α ε))
    (numbers : Numbers number (launches {} events) key) :
    Mirrors number (launches {} events) key (after events) (after (alone key events)) := by
  induction events using List.reverseRecOn with
  | nil => exact ⟨rfl, rfl, fun _ => rfl, fun _ => rfl, fun _ => rfl, fun _ => rfl⟩
  | append_singleton events event ih =>
      rw [launches_append_singleton] at numbers
      have hbefore := ih numbers.of_append
      rw [launches_append_singleton, alone_append_singleton, after_append_singleton]
      cases hown : (after events).eventOf? (launches {} events) key event with
      | none =>
          rw [Option.toList_none, List.append_nil]
          exact hbefore.step_other (ledger_after events) hown
      | some own =>
          rw [Option.toList_some, after_append_singleton]
          exact hbefore.step_own (ledger_after events) (ledger_after _) numbers.of_append
            (projects_of_eventOf? hown)

/-- The runs so far are numbered by their ranks. -/
theorem numbers_rank (keys : List κ) (key : κ) : Numbers (rank keys key) keys key :=
  fun _ _ => rfl

/-- What the events of a key come back with. -/
def repliesFor (key : κ) (events : List (Event κ α ε)) : List (Reply α ε) :=
  record (fun earlier event =>
    ((after earlier).eventOf? (launches {} earlier) key event).bind fun _ =>
      (after earlier).reply? event) events

/-- What the lookups of a key come to. -/
def lookupsOf (key : κ) (events : List (Event κ α ε)) : List (Lookup α) :=
  record (fun earlier event =>
    ((after earlier).eventOf? (launches {} earlier) key event).bind fun _ =>
      (after earlier).found? event) events

/-- The entry of a key after an event that has changed it. -/
def entryChange? [DecidableEq α] (traffic : Traffic κ α ε) (key : κ) (event : Event κ α ε) :
    Option (Option (Slot α)) :=
  if (traffic.step event).cache.slot? key = traffic.cache.slot? key then none
  else some ((traffic.step event).cache.slot? key)

/-- What the entry of a key goes through. -/
def entryChanges [DecidableEq α] (key : κ) (events : List (Event κ α ε)) :
    List (Option (Slot α)) :=
  record (fun earlier event => (after earlier).entryChange? key event) events

theorem replies_alone (key : κ) (events : List (Event κ α ε)) :
    replies (alone key events) = repliesFor key events := by
  induction events using List.reverseRecOn with
  | nil => rfl
  | append_singleton events event ih =>
      have mirrors := mirrors_alone key events (numbers_rank _ _)
      rw [alone_append_singleton, repliesFor, record_append_singleton, ← repliesFor, ← ih]
      cases hown : (after events).eventOf? (launches {} events) key event with
      | none => simp
      | some own =>
          rw [Option.toList_some, replies_append_singleton,
            mirrors.reply? (ledger_after events) (numbers_rank _ _) (projects_of_eventOf? hown),
            Option.bind_some]

theorem lookups_alone {number : Nat → Nat} (key : κ) (events : List (Event κ α ε))
    (numbers : Numbers number (launches {} events) key) :
    lookups (alone key events) = (lookupsOf key events).map (Lookup.renumber number) := by
  induction events using List.reverseRecOn with
  | nil => rfl
  | append_singleton events event ih =>
      rw [launches_append_singleton] at numbers
      have hbefore := numbers.of_append
      have mirrors := mirrors_alone key events hbefore
      rw [alone_append_singleton, lookupsOf, record_append_singleton, ← lookupsOf, List.map_append,
        ← ih hbefore]
      cases hown : (after events).eventOf? (launches {} events) key event with
      | none => simp
      | some own =>
          rw [Option.toList_some, lookups_append_singleton,
            mirrors.found? (ledger_after events) hbefore (projects_of_eventOf? hown),
            Option.bind_some]
          cases (after events).found? event <;> rfl

theorem entryChanges_append_singleton [DecidableEq α] (key : κ) (events : List (Event κ α ε))
    (event : Event κ α ε) :
    entryChanges key (events ++ [event])
      = entryChanges key events ++ ((after events).entryChange? key event).toList :=
  record_append_singleton _ events event

omit [DecidableEq κ] in
/-- Other numbers tell entries apart that belong to different runs. -/
theorem renumber_inj {number : Nat → Nat} {first second : Option (Slot α)}
    (inj : ∀ slot ∈ first, ∀ other ∈ second, number slot.flight = number other.flight →
      slot.flight = other.flight)
    (same : first.map (Slot.renumber number) = second.map (Slot.renumber number)) :
    first = second := by
  rcases first with _ | slot <;> rcases second with _ | other
  · rfl
  · cases same
  · cases same
  · have hsame : slot.renumber number = other.renumber number := Option.some.inj same
    have hflight : slot.flight = other.flight := by
      refine inj slot rfl other rfl ?_
      rw [← Slot.flight_renumber number slot, hsame, Slot.flight_renumber]
    cases slot <;> cases other <;> simp_all [Slot.renumber, Slot.flight]

/-- The entry of the key changes in the mirror when it does behind it. -/
theorem Mirrors.entryChange? [DecidableEq α] {number : Nat → Nat} {keys ranks : List κ} {key : κ}
    {traffic mirror : Traffic κ α ε} {event own : Event κ α ε}
    (mirrors : Mirrors number keys key traffic mirror) (ledger : Ledger keys traffic)
    (ledger' : Ledger ranks mirror)
    (numbers : Numbers number (keys ++ (traffic.launchOf? event).toList) key)
    (is : traffic.Projects keys key event own) :
    mirror.entryChange? key own
      = (traffic.entryChange? key event).map (Option.map (Slot.renumber number)) := by
  have hnext := mirrors.step_own ledger ledger' numbers.of_append is
  have hsame : (mirror.step own).cache.slot? key = mirror.cache.slot? key
      ↔ (traffic.step event).cache.slot? key = traffic.cache.slot? key := by
    rw [hnext.slot?, mirrors.slot?]
    refine ⟨renumber_inj fun slot hslot other hother => ?_, fun same => by rw [same]⟩
    have home := ((ledger.step event).last hslot).1
    exact (numbers.injective home (getElem?_append_of_eq_some (ledger.last hother).1)).1
  simp only [Traffic.entryChange?, hsame]
  split
  · rfl
  · rw [hnext.slot?, Option.map_some]

theorem entryChanges_alone [DecidableEq α] {number : Nat → Nat} (key : κ)
    (events : List (Event κ α ε)) (numbers : Numbers number (launches {} events) key) :
    entryChanges key (alone key events)
      = (entryChanges key events).map (Option.map (Slot.renumber number)) := by
  induction events using List.reverseRecOn with
  | nil => rfl
  | append_singleton events event ih =>
      rw [launches_append_singleton] at numbers
      have mirrors := mirrors_alone key events numbers.of_append
      rw [alone_append_singleton, entryChanges_append_singleton key events, List.map_append,
        ← ih numbers.of_append]
      cases hown : (after events).eventOf? (launches {} events) key event with
      | none =>
          have hsame := slot?_step_of_other (ledger_after events) hown
          simp [entryChange?, hsame]
      | some own =>
          rw [Option.toList_some, entryChanges_append_singleton,
            mirrors.entryChange? (ledger_after events) (ledger_after _) numbers
              (projects_of_eventOf? hown)]
          cases (after events).entryChange? key event <;> rfl

theorem launches_alone (key : κ) (events : List (Event κ α ε)) :
    launches {} (alone key events) = List.replicate ((launches {} events).count key) key := by
  induction events using List.reverseRecOn with
  | nil => rfl
  | append_singleton events event ih =>
      have mirrors := mirrors_alone key events (numbers_rank _ _)
      rw [alone_append_singleton, launches_append_singleton events, List.count_append]
      cases hown : (after events).eventOf? (launches {} events) key event with
      | none =>
          have hlaunch := launchOf?_of_other hown
          cases hnew : (after events).launchOf? event with
          | none => simpa using ih
          | some new =>
              have hne : new ≠ key := fun h => hlaunch (h ▸ hnew)
              simpa [hne] using ih
      | some own =>
          obtain ⟨hlaunch, hkey⟩ := mirrors.launchOf? (projects_of_eventOf? hown)
          rw [Option.toList_some, launches_append_singleton, ih, hlaunch]
          cases hnew : (after events).launchOf? event with
          | none => simp
          | some new => simp [hkey new hnew, List.replicate_succ']

/-! ## The outcomes of runs -/

/-- How a run ends depends on nothing but its key and on how many runs of the key came before it. -/
def Follows (outcome : κ → Nat → Ending α ε) (events : List (Event κ α ε)) : Prop :=
  ∀ earlier flight ending key, earlier ++ [.finish flight ending] <+: events →
    Assoc.find? flight (after earlier).running = some key →
    ending = outcome key (rank (launches {} earlier) key flight)

theorem Follows.alone {outcome : κ → Nat → Ending α ε} {events : List (Event κ α ε)}
    (follows : Follows outcome events) (key : κ) : Follows outcome (alone key events) := by
  intro before number ending of hpart runs
  obtain ⟨earlier, event, hearlier, rfl, hown⟩ := of_prefix_record hpart
  rw [← Traffic.alone] at runs ⊢
  have mirrors := mirrors_alone key earlier (numbers_rank _ _)
  have ledger := ledger_after earlier
  -- the run ends in the whole history, in an event that finishes one of the key
  cases projects_of_eventOf? hown with
  | @finish flight ending home =>
      rw [mirrors.running home] at runs
      have hof := (ledger.running runs).1
      rw [home] at hof
      cases hof
      have hlt := rank_lt home
      have hrank : rank (launches {} (Traffic.alone key earlier)) key
          (rank (launches {} earlier) key flight) = rank (launches {} earlier) key flight := by
        rw [launches_alone, rank, List.take_replicate, List.count_replicate_self]
        omega
      rw [hrank]
      exact follows earlier flight ending key hearlier runs

/-! ## No interference -/

/-- Leave out of a history the events of all keys but one. The callers of that key are told the same
in the same order, and it is said alike whether entries of it were taken out; but for the numbers of
runs, its lookups come to the same and its entry goes through the same changes; at each moment its
entry, its runs and its callers are the same. Runs of the key get different numbers again, and all
runs are of the key. If it depends on nothing but its key and its place among the runs of the key
how a run ends, then this goes on being so. -/
theorem keys_do_not_interfere [DecidableEq α] (key : κ) (events : List (Event κ α ε)) :
    let keys := launches {} events
    let number := rank keys key
    replies (alone key events) = repliesFor key events
      ∧ lookups (alone key events) = (lookupsOf key events).map (Lookup.renumber number)
      ∧ entryChanges key (alone key events)
          = (entryChanges key events).map (Option.map (Slot.renumber number))
      ∧ (∀ earlier, earlier <+: events → alone key earlier <+: alone key events
          ∧ Mirrors number (launches {} earlier) key (after earlier) (after (alone key earlier))
          ∧ (after (alone key earlier)).cache.peek key = (after earlier).cache.peek key
          ∧ (after (alone key earlier)).cache.contains key = (after earlier).cache.contains key
          ∧ (after (alone key earlier)).cache.isPending key = (after earlier).cache.isPending key)
      ∧ launches {} (alone key events) = List.replicate (keys.count key) key
      ∧ (∀ first second : Nat, keys[first]? = some key → keys[second]? = some key →
          number first = number second → first = second)
      ∧ ∀ outcome : κ → Nat → Ending α ε, Follows outcome events →
          Follows outcome (alone key events) := by
  intro keys number
  have numbers : Numbers number keys key := numbers_rank keys key
  refine ⟨replies_alone key events, lookups_alone key events numbers,
    entryChanges_alone key events numbers, ?_, launches_alone key events, ?_, ?_⟩
  · intro earlier hpart
    have hnumbers : Numbers number (launches {} earlier) key := by
      obtain ⟨later, rfl⟩ := hpart
      have hkeys : keys = launches {} earlier ++ (after earlier).launches later :=
        launches_append {} earlier later
      rw [hkeys] at numbers
      exact numbers.of_append
    have mirrors := mirrors_alone key earlier hnumbers
    exact ⟨record_mono _ hpart, mirrors, mirrors.peek, mirrors.contains, mirrors.isPending⟩
  · intro first second home home'
    exact rank_injective home home'
  · intro outcome follows
    exact follows.alone key

/-- Two keys are looked up; a run of each ends, and a caller of each waits. -/
def interleaved : List (Event Nat Nat Nat) :=
  [.call 0 8, .call 1 7, .call 2 8, .finish 0 (.error 5), .finish 1 (.value 10), .report 0,
    .receive 0, .report 1, .receive 1, .invalidate 7, .call 1 7]

example : alone 7 interleaved
    = [.call 1 7, .finish 0 (.value 10), .report 0, .receive 1, .invalidate 7, .call 1 7] := rfl

end Traffic

end LiveTemplates
