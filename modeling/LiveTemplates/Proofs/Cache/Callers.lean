import LiveTemplates.Proofs.Cache.History

set_option autoImplicit false

/-! # How callers fare

A caller that was made to wait for a run keeps its ticket until it is told something or leaves, and
what others do makes no difference to it (`Fares.step`). It is told how its run ended as soon as it
looks when that is known, and else that its time is up. -/

namespace LiveTemplates

namespace Traffic

variable {κ α ε : Type} [DecidableEq κ]

/-- The caller that an event is about. -/
def Event.caller? : Event κ α ε → Option Nat
  | .call caller _ => some caller
  | .receive caller => some caller
  | .expire caller _ => some caller
  | .leave caller => some caller
  | _ => none

/-- The caller whose wait may end in an event. -/
def Event.waiter? : Event κ α ε → Option Nat
  | .receive caller => some caller
  | .expire caller _ => some caller
  | .leave caller => some caller
  | _ => none

omit [DecidableEq κ] in
theorem Event.caller?_of_waiter? (event : Event κ α ε) {caller : Nat}
    (ends : event.waiter? = some caller) : event.caller? = some caller := by
  cases event with
  | receive other => exact ends
  | expire other milliseconds => exact ends
  | leave other => exact ends
  | _ => cases ends

/-! ## Telling and leaving -/

omit [DecidableEq κ] in
theorem ticket?_leave (traffic : Traffic κ α ε) (caller other : Nat) :
    (traffic.leave caller).ticket? other
      = if other = caller then none else traffic.ticket? other := by
  unfold leave ticket?
  dsimp only
  rw [List.find?_filter]
  by_cases h : other = caller
  · subst h
    simp
  · rw [if_neg h]
    congr 1
    funext ticket
    by_cases ho : ticket.caller = other <;> simp [ho, h]

omit [DecidableEq κ] in
theorem ticket?_tell (traffic : Traffic κ α ε) (caller other : Nat) (answer : Answer α ε) :
    (traffic.tell caller answer).ticket? other
      = if other = caller then none else traffic.ticket? other :=
  ticket?_leave traffic caller other

omit [DecidableEq κ] in
theorem answer?_tell (traffic : Traffic κ α ε) (caller other : Nat) (answer : Answer α ε) :
    (traffic.tell caller answer).answer? other
      = if other = caller then some answer else traffic.answer? other :=
  Assoc.find?_set caller other answer traffic.answered

/-! ## Receiving -/

theorem receive_of_gone {traffic : Traffic κ α ε} {caller : Nat}
    (gone : traffic.ticket? caller = none) : traffic.receive caller = traffic := by
  simp [receive, gone]

theorem receive_of_unknown {traffic : Traffic κ α ε} {caller : Nat} {ticket : Ticket κ}
    (waits : traffic.ticket? caller = some ticket)
    (unknown : traffic.ending? ticket.flight = none) :
    traffic.receive caller = traffic := by
  simp [receive, waits, unknown]

theorem receive_of_known {traffic : Traffic κ α ε} {caller : Nat} {ticket : Ticket κ}
    {ending : Ending α ε} (waits : traffic.ticket? caller = some ticket)
    (known : traffic.ending? ticket.flight = some ending) :
    traffic.receive caller
      = { traffic with cache := collect traffic.cache ticket ending }.tell caller
          (.ending ending) := by
  simp [receive, waits, known]

theorem ticket?_receive_of_known {traffic : Traffic κ α ε} {caller : Nat} {ticket : Ticket κ}
    {ending : Ending α ε} (waits : traffic.ticket? caller = some ticket)
    (known : traffic.ending? ticket.flight = some ending) :
    (traffic.receive caller).ticket? caller = none := by
  rw [receive_of_known waits known, ticket?_tell, if_pos rfl]

theorem expire_of_gone {traffic : Traffic κ α ε} {caller : Nat}
    (gone : traffic.ticket? caller = none) (milliseconds : Nat) :
    traffic.expire caller milliseconds = traffic := by
  simp [expire, receive_of_gone gone, gone]

theorem expire_of_unknown {traffic : Traffic κ α ε} {caller : Nat} {ticket : Ticket κ}
    (waits : traffic.ticket? caller = some ticket) (unknown : traffic.ending? ticket.flight = none)
    (milliseconds : Nat) :
    traffic.expire caller milliseconds = traffic.tell caller (.timedOut milliseconds) := by
  simp [expire, receive_of_unknown waits unknown, waits]

theorem expire_of_known {traffic : Traffic κ α ε} {caller : Nat} {ticket : Ticket κ}
    {ending : Ending α ε} (waits : traffic.ticket? caller = some ticket)
    (known : traffic.ending? ticket.flight = some ending) (milliseconds : Nat) :
    traffic.expire caller milliseconds = traffic.receive caller := by
  simp [expire, ticket?_receive_of_known waits known]

/-- An event in which a caller receives its outcome, when it is known, is a receipt. -/
theorem step_of_known {traffic : Traffic κ α ε} {event : Event κ α ε} {caller : Nat}
    {ticket : Ticket κ} {ending : Ending α ε} (is : event.receiver? = some caller)
    (waits : traffic.ticket? caller = some ticket)
    (known : traffic.ending? ticket.flight = some ending) :
    traffic.step event = traffic.receive caller := by
  cases event with
  | receive other => cases is; rfl
  | expire other milliseconds =>
      cases is
      exact expire_of_known waits known milliseconds
  | _ => cases is

/-- A caller whose time is up does not wait. -/
theorem ticket?_expire (traffic : Traffic κ α ε) (caller milliseconds : Nat) :
    (traffic.expire caller milliseconds).ticket? caller = none := by
  unfold expire
  dsimp only
  split
  · rw [ticket?_tell, if_pos rfl]
  · next hfree => simpa using hfree

/-- Where the wait of a caller may end, it waits on or not at all. -/
theorem ticket?_step_of_waiter (traffic : Traffic κ α ε) {event : Event κ α ε} {caller : Nat}
    (ends : event.waiter? = some caller) :
    (traffic.step event).ticket? caller = traffic.ticket? caller
      ∨ (traffic.step event).ticket? caller = none := by
  cases event with
  | receive other =>
      cases ends
      cases hticket : traffic.ticket? caller with
      | none => exact .inl (by rw [step, receive_of_gone hticket, hticket])
      | some ticket =>
          cases hknown : traffic.ending? ticket.flight with
          | none => exact .inl (by rw [step, receive_of_unknown hticket hknown, hticket])
          | some ending => exact .inr (ticket?_receive_of_known hticket hknown)
  | expire other milliseconds =>
      cases ends
      exact .inr (ticket?_expire traffic caller milliseconds)
  | leave other =>
      cases ends
      exact .inr ((ticket?_leave traffic caller caller).trans (if_pos rfl))
  | _ => cases ends

theorem answer?_receive_of_known {traffic : Traffic κ α ε} {caller : Nat} {ticket : Ticket κ}
    {ending : Ending α ε} (waits : traffic.ticket? caller = some ticket)
    (known : traffic.ending? ticket.flight = some ending) :
    (traffic.receive caller).answer? caller = some (.ending ending) := by
  rw [receive_of_known waits known, answer?_tell, if_pos rfl]

/-! ## What others do -/

theorem ticket?_receive_of_ne (traffic : Traffic κ α ε) {caller other : Nat}
    (hne : other ≠ caller) : (traffic.receive caller).ticket? other = traffic.ticket? other := by
  unfold receive
  split
  · rfl
  · split
    · rfl
    · rw [ticket?_tell, if_neg hne]
      rfl

theorem answer?_receive_of_ne (traffic : Traffic κ α ε) {caller other : Nat}
    (hne : other ≠ caller) : (traffic.receive caller).answer? other = traffic.answer? other := by
  unfold receive
  split
  · rfl
  · split
    · rfl
    · rw [answer?_tell, if_neg hne]
      rfl

theorem waiter_call_of_ne (traffic : Traffic κ α ε) {caller other : Nat} (key : κ)
    (hne : other ≠ caller) :
    (traffic.call caller key).1.ticket? other = traffic.ticket? other
      ∧ (traffic.call caller key).1.answer? other = traffic.answer? other := by
  have hself : ∀ flight, List.find? (fun ticket : Ticket κ => decide (ticket.caller = other))
      [⟨caller, key, flight⟩] = none := by
    intro flight
    simp [Ne.symm hne]
  unfold call
  split
  · exact ⟨by rw [ticket?_tell, if_neg hne]; rfl, by rw [answer?_tell, if_neg hne]; rfl⟩
  · exact ⟨by simp [ticket?, hself], rfl⟩
  · exact ⟨by simp [ticket?, hself], rfl⟩

/-- An event that is not about a caller leaves it waiting and tells it nothing. -/
theorem waiter_step_of_ne (traffic : Traffic κ α ε) {event : Event κ α ε} {caller : Nat}
    (hne : event.caller? ≠ some caller) :
    (traffic.step event).ticket? caller = traffic.ticket? caller
      ∧ (traffic.step event).answer? caller = traffic.answer? caller := by
  cases event with
  | call other key =>
      have hne : caller ≠ other := fun h => hne (by rw [h]; rfl)
      unfold step
      dsimp only
      split
      · exact ⟨rfl, rfl⟩
      · exact waiter_call_of_ne traffic key hne
  | finish flight ending =>
      unfold step finish
      dsimp only
      split <;> exact ⟨rfl, rfl⟩
  | report flight =>
      unfold step report
      dsimp only
      split <;> exact ⟨rfl, rfl⟩
  | receive other =>
      have hne : caller ≠ other := fun h => hne (by rw [h]; rfl)
      exact ⟨ticket?_receive_of_ne traffic hne, answer?_receive_of_ne traffic hne⟩
  | expire other milliseconds =>
      have hne : caller ≠ other := fun h => hne (by rw [h]; rfl)
      unfold step expire
      dsimp only
      split
      · rw [ticket?_tell, answer?_tell, if_neg hne, if_neg hne]
        exact ⟨ticket?_receive_of_ne traffic hne, answer?_receive_of_ne traffic hne⟩
      · exact ⟨ticket?_receive_of_ne traffic hne, answer?_receive_of_ne traffic hne⟩
  | leave other =>
      have hne : caller ≠ other := fun h => hne (by rw [h]; rfl)
      exact ⟨(ticket?_leave traffic other caller).trans (if_neg hne), rfl⟩
  | invalidate key => exact ⟨rfl, rfl⟩
  | invalidateIf key test => exact ⟨rfl, rfl⟩
  | sweep part => exact ⟨rfl, rfl⟩

/-! ## From the call on -/

/-- How a caller fares that was made to wait for a run and neither called again nor left in the
course of some events: it waits, or was told how its run ended, or that its time was up. -/
inductive Fares (traffic : Traffic κ α ε) (events : List (Event κ α ε)) (caller : Nat) (key : κ)
    (flight : Nat) : Prop
  | waits (ticket : traffic.ticket? caller = some ⟨caller, key, flight⟩)
  | told (ending : Ending α ε) (gone : traffic.ticket? caller = none)
      (known : traffic.ending? flight = some ending)
      (answer : traffic.answer? caller = some (.ending ending))
  | timedOut (milliseconds : Nat) (gone : traffic.ticket? caller = none)
      (expired : .expire caller milliseconds ∈ events)
      (answer : traffic.answer? caller = some (.timedOut milliseconds))

theorem Attaches.ticket? {traffic : Traffic κ α ε} {caller : Nat} {key : κ} {flight : Nat}
    (attaches : traffic.Attaches caller key flight) :
    (traffic.step (.call caller key)).ticket? caller = some ⟨caller, key, flight⟩ := by
  obtain ⟨free, hlook⟩ := attaches
  have hfind : traffic.waiting.find? (fun ticket => ticket.caller = caller) = none := free
  simp only [step, free, Option.isSome_none, Bool.false_eq_true, if_false]
  unfold call
  split
  · next heq => simp [heq] at hlook
  · next heq =>
      simp only [heq, Lookup.join.injEq, reduceCtorEq, or_false] at hlook
      simp [Traffic.ticket?, hfind, hlook]
  · next heq =>
      simp only [heq, Lookup.launch.injEq, reduceCtorEq, false_or] at hlook
      simp [Traffic.ticket?, hfind, hlook]

/-- A caller that finds a value does not wait. -/
theorem ticket?_of_hit {traffic : Traffic κ α ε} {caller : Nat} {key : κ} {value : α}
    (free : traffic.ticket? caller = none) (hit : (traffic.cache.lookup key).2 = .hit value) :
    (traffic.step (.call caller key)).ticket? caller = none := by
  simp only [step, free, Option.isSome_none, Bool.false_eq_true, if_false]
  unfold call
  split
  · rw [ticket?_tell, if_pos rfl]
  · next heq => simp [heq] at hit
  · next heq => simp [heq] at hit

theorem Fares.step {keys : List κ} {traffic : Traffic κ α ε} (ledger : Ledger keys traffic)
    {events : List (Event κ α ε)} {caller : Nat} {key : κ} {flight : Nat}
    (fares : Fares traffic events caller key flight) {event : Event κ α ε}
    (stays : event ≠ .leave caller) (quiet : ∀ other, event ≠ .call caller other) :
    Fares (traffic.step event) (events ++ [event]) caller key flight := by
  by_cases habout : event.caller? = some caller
  · -- the event is a receipt, perhaps because the caller's time is up
    have hreceives : event.receiver? = some caller := by
      cases event with
      | call other called => cases habout; exact absurd rfl (quiet called)
      | leave other => cases habout; exact absurd rfl stays
      | receive other => exact habout
      | expire other milliseconds => exact habout
      | _ => cases habout
    have hgone : traffic.ticket? caller = none → traffic.step event = traffic := by
      intro gone
      cases event with
      | receive other => cases habout; exact receive_of_gone gone
      | expire other milliseconds => cases habout; exact expire_of_gone gone milliseconds
      | _ => cases hreceives
    cases fares with
    | told ending gone known answer =>
        rw [hgone gone]
        exact .told ending gone known answer
    | timedOut milliseconds gone expired answer =>
        rw [hgone gone]
        exact .timedOut milliseconds gone (List.mem_append_left _ expired) answer
    | waits ticket =>
        cases hknown : traffic.ending? flight with
        | some ending =>
            have hnext := ledger.ending?_mono hknown event
            rw [step_of_known hreceives ticket hknown] at hnext ⊢
            exact .told ending (ticket?_receive_of_known ticket hknown) hnext
              (answer?_receive_of_known ticket hknown)
        | none =>
            cases event with
            | receive other =>
                cases habout
                rw [Traffic.step, receive_of_unknown ticket hknown]
                exact .waits ticket
            | expire other milliseconds =>
                cases habout
                rw [Traffic.step, expire_of_unknown ticket hknown]
                refine .timedOut milliseconds ?_ (by simp) ?_
                · rw [ticket?_tell, if_pos rfl]
                · rw [answer?_tell, if_pos rfl]
            | _ => cases hreceives
  · obtain ⟨hticket, hanswer⟩ := waiter_step_of_ne traffic habout
    cases fares with
    | waits ticket => exact .waits (hticket.trans ticket)
    | told ending gone known answer =>
        exact .told ending (hticket.trans gone) (ledger.ending?_mono known event)
          (hanswer.trans answer)
    | timedOut milliseconds gone expired answer =>
        exact .timedOut milliseconds (hticket.trans gone) (List.mem_append_left _ expired)
          (hanswer.trans answer)

/-- A caller that was made to wait for a run, and neither called again nor left since, waits for it
still, or was told how it ended, or that its time was up. -/
theorem fares_after (earlier later : List (Event κ α ε)) {caller : Nat} {key : κ} {flight : Nat}
    (attaches : (after earlier).Attaches caller key flight)
    (stays : ∀ event ∈ later, event ≠ .leave caller ∧ ∀ other, event ≠ .call caller other) :
    Fares (after (earlier ++ [.call caller key] ++ later)) later caller key flight := by
  induction later using List.reverseRecOn with
  | nil =>
      rw [List.append_nil, after_append_singleton]
      exact .waits attaches.ticket?
  | append_singleton later event ih =>
      obtain ⟨hstays, hquiet⟩ := stays event (by simp)
      rw [← List.append_assoc, after_append_singleton]
      exact (ih fun other hmem => stays other (List.mem_append_left _ hmem)).step
        (ledger_after _) hstays hquiet

end Traffic

end LiveTemplates
