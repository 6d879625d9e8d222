import LiveTemplates.Proofs.Cache.Outcome
import LiveTemplates.Proofs.Cache.Replies

set_option autoImplicit false

/-! # Waits that end early

A run goes on whether anyone waits for it or not. Take a history, and let some of the callers end
their waits otherwise than they did: sooner or later, by receiving the outcome, by giving up or by
going away. As long as no run breaks down, nobody else can tell: the cache goes through the same
states, the same runs are launched, and all other callers are told the same
(`haste_leaves_no_trace`).

The two histories are followed in parallel. Where a hasty caller ends its wait in one of them, only
what is known of that caller changes there, and the other history stands still. -/

namespace LiveTemplates

namespace Traffic

open History

variable {κ α ε : Type} [DecidableEq κ]

/-! ## Two histories -/

/-- The same happens in two histories, but for when and how the hasty callers end their waits. -/
inductive DifferInWaits (hasty : Nat → Bool) : List (Event κ α ε) → List (Event κ α ε) → Prop
  | start : DifferInWaits hasty [] []
  | both {first second : List (Event κ α ε)} (before : DifferInWaits hasty first second)
      (event : Event κ α ε) : DifferInWaits hasty (first ++ [event]) (second ++ [event])
  | first {first second : List (Event κ α ε)} (before : DifferInWaits hasty first second)
      (event : Event κ α ε) {caller : Nat} (ends : event.waiter? = some caller)
      (inHaste : hasty caller = true) : DifferInWaits hasty (first ++ [event]) second
  | second {first second : List (Event κ α ε)} (before : DifferInWaits hasty first second)
      (event : Event κ α ε) {caller : Nat} (ends : event.waiter? = some caller)
      (inHaste : hasty caller = true) : DifferInWaits hasty first (second ++ [event])

/-- The hasty caller that makes a call in an event although it waits. -/
def interrupts? (hasty : Nat → Bool) (traffic : Traffic κ α ε) : Event κ α ε → Option Nat
  | .call caller _ => if hasty caller && (traffic.ticket? caller).isSome then some caller else none
  | _ => none

/-- No hasty caller makes a call while it waits. -/
def Orderly (hasty : Nat → Bool) (events : List (Event κ α ε)) : Prop :=
  record (fun earlier event => (after earlier).interrupts? hasty event) events = []

/-- No run breaks down. -/
def Whole (events : List (Event κ α ε)) : Prop :=
  ∀ flight explanation, Event.finish flight (.broken explanation) ∉ events

theorem Orderly.of_prefix {hasty : Nat → Bool} {earlier events : List (Event κ α ε)}
    (orderly : Orderly hasty events) (h : earlier <+: events) : Orderly hasty earlier :=
  List.prefix_nil.1 (orderly ▸ record_mono _ h)

/-- A hasty caller that makes a call does not wait. -/
theorem Orderly.ticket? {hasty : Nat → Bool} {events : List (Event κ α ε)} {caller : Nat} {key : κ}
    (orderly : Orderly hasty (events ++ [.call caller key])) (inHaste : hasty caller = true) :
    (after events).ticket? caller = none := by
  unfold Orderly at orderly
  rw [record_append_singleton, List.append_eq_nil_iff] at orderly
  simpa [interrupts?, inHaste] using orderly.2

omit [DecidableEq κ] in
theorem Whole.of_prefix {earlier events : List (Event κ α ε)} (whole : Whole events)
    (h : earlier <+: events) : Whole earlier :=
  fun flight explanation hmem => whole flight explanation (h.subset hmem)

omit [DecidableEq κ] in
/-- Runs break down in neither history or in both. -/
theorem DifferInWaits.whole {hasty : Nat → Bool} {first second : List (Event κ α ε)}
    (differ : DifferInWaits hasty first second) (whole : Whole first) : Whole second := by
  induction differ with
  | start => exact whole
  | @both first second _ event ih =>
      intro flight explanation hmem
      rcases List.mem_append.1 hmem with hmem | hmem
      · exact ih (whole.of_prefix (List.prefix_append _ _)) flight explanation hmem
      · exact whole flight explanation (List.mem_append_right _ hmem)
  | first _ _ _ _ ih => exact ih (whole.of_prefix (List.prefix_append _ _))
  | second _ _ ends _ ih =>
      intro flight explanation hmem
      rcases List.mem_append.1 hmem with hmem | hmem
      · exact ih whole flight explanation hmem
      · rw [List.mem_singleton] at hmem
        subst hmem
        cases ends

/-! ## Ends of waits -/

/-- A run that is known to have ended has not broken down. -/
theorem Whole.ending {events : List (Event κ α ε)} (whole : Whole events) {flight : Nat}
    {ending : Ending α ε} (known : (after events).ending? flight = some ending)
    (explanation : Option String) : ending ≠ .broken explanation := by
  rintro rfl
  obtain ⟨before, rest, _, rfl, _⟩ := outcome?_since events ((ledger_after events).known known)
  exact whole flight explanation (by simp)

theorem Whole.cache_receive {events : List (Event κ α ε)} (whole : Whole events) (caller : Nat) :
    ((after events).receive caller).cache = (after events).cache := by
  cases hticket : (after events).ticket? caller with
  | none => rw [receive_of_gone hticket]
  | some ticket =>
      cases hknown : (after events).ending? ticket.flight with
      | none => rw [receive_of_unknown hticket hknown]
      | some ending =>
          have hintact := whole.ending hknown
          rw [receive_of_known hticket hknown, cache_tell]
          cases ending with
          | value value => rfl
          | error e => rfl
          | broken explanation => exact absurd rfl (hintact explanation)

/-- The end of a wait changes neither the cache nor the runs. -/
theorem Whole.wait_ends {events : List (Event κ α ε)} (whole : Whole events) {event : Event κ α ε}
    {caller : Nat} (ends : event.waiter? = some caller) :
    ((after events).step event).cache = (after events).cache
      ∧ ((after events).step event).running = (after events).running
      ∧ ((after events).step event).closing = (after events).closing
      ∧ ((after events).step event).ended = (after events).ended := by
  cases event with
  | receive other => exact ⟨whole.cache_receive other, runs_receive _ other⟩
  | expire other milliseconds =>
      exact ⟨(cache_expire _ other milliseconds).trans (whole.cache_receive other),
        runs_expire _ other milliseconds⟩
  | leave other => exact ⟨rfl, rfl, rfl, rfl⟩
  | _ => cases ends

/-! ## In parallel -/

/-- Two histories have come to the same, but for what is known of the hasty callers. -/
structure Accords (hasty : Nat → Bool) (first second : Traffic κ α ε) : Prop where
  cache : first.cache = second.cache
  running : first.running = second.running
  closing : first.closing = second.closing
  ended : first.ended = second.ended
  ticket? {caller : Nat} (patient : hasty caller = false) :
    first.ticket? caller = second.ticket? caller
  answer? {caller : Nat} (patient : hasty caller = false) :
    first.answer? caller = second.answer? caller

namespace Accords

variable {hasty : Nat → Bool} {first second : Traffic κ α ε}

omit [DecidableEq κ] in
theorem symm (accords : Accords hasty first second) : Accords hasty second first where
  cache := accords.cache.symm
  running := accords.running.symm
  closing := accords.closing.symm
  ended := accords.ended.symm
  ticket? patient := (accords.ticket? patient).symm
  answer? patient := (accords.answer? patient).symm

omit [DecidableEq κ] in
theorem ending? (accords : Accords hasty first second) (flight : Nat) :
    first.ending? flight = second.ending? flight := by
  rw [Traffic.ending?, Traffic.ending?, accords.ended]

theorem found? (accords : Accords hasty first second) {event : Event κ α ε}
    (same : ∀ caller, event.caller? = some caller → first.ticket? caller = second.ticket? caller) :
    first.found? event = second.found? event := by
  cases event with
  | call caller key => simp only [Traffic.found?, same caller rfl, accords.cache]
  | _ => rfl

omit [DecidableEq κ] in
theorem endingOf? (accords : Accords hasty first second) (event : Event κ α ε) :
    first.endingOf? event = second.endingOf? event := by
  cases event with
  | finish flight ending => simp only [Traffic.endingOf?, accords.running]
  | _ => rfl

theorem launchOf? (accords : Accords hasty first second) {event : Event κ α ε}
    (same : ∀ caller, event.caller? = some caller → first.ticket? caller = second.ticket? caller) :
    first.launchOf? event = second.launchOf? event := by
  cases event with
  | call caller key => simp only [Traffic.launchOf?, same caller rfl, accords.cache]
  | _ => rfl

theorem reply? (accords : Accords hasty first second) {event : Event κ α ε}
    (same : ∀ caller, event.caller? = some caller → first.ticket? caller = second.ticket? caller) :
    first.reply? event = second.reply? event := by
  cases event with
  | call caller key => simp only [Traffic.reply?, accords.found? same]
  | receive caller => simp only [Traffic.reply?, same caller rfl, accords.ending?]
  | expire caller milliseconds => simp only [Traffic.reply?, same caller rfl, accords.ending?]
  | invalidate key => simp only [Traffic.reply?, Traffic.invalidate, accords.cache]
  | invalidateIf key test => simp only [Traffic.reply?, Traffic.invalidateIf, accords.cache]
  | _ => rfl

theorem cache_receive (accords : Accords hasty first second) {caller : Nat}
    (same : first.ticket? caller = second.ticket? caller) :
    (first.receive caller).cache = (second.receive caller).cache := by
  simp only [receive, same, accords.ending?]
  split
  · exact accords.cache
  · split
    · exact accords.cache
    · simp only [cache_tell, accords.cache]

theorem step_cache (accords : Accords hasty first second) {event : Event κ α ε}
    (same : ∀ caller, event.caller? = some caller → first.ticket? caller = second.ticket? caller) :
    (first.step event).cache = (second.step event).cache := by
  cases event with
  | call caller key =>
      simp only [step, same caller rfl]
      split
      · exact accords.cache
      · rw [call_cache, call_cache, accords.cache]
  | finish flight ending =>
      simp only [step, finish, accords.running]
      split <;> simp only [accords.cache]
  | report flight =>
      simp only [step, report, accords.closing]
      split <;> exact accords.cache
  | receive caller => exact accords.cache_receive (same caller rfl)
  | expire caller milliseconds =>
      simp only [step, cache_expire]
      exact accords.cache_receive (same caller rfl)
  | leave caller => exact accords.cache
  | invalidate key => simp only [step, Traffic.invalidate, accords.cache]
  | invalidateIf key test => simp only [step, Traffic.invalidateIf, accords.cache]
  | sweep part => simp only [step, Traffic.sweep, accords.cache]

theorem step_runs (accords : Accords hasty first second) {event : Event κ α ε}
    (same : ∀ caller, event.caller? = some caller → first.ticket? caller = second.ticket? caller) :
    (first.step event).running = (second.step event).running
      ∧ (first.step event).closing = (second.step event).closing
      ∧ (first.step event).ended = (second.step event).ended := by
  obtain ⟨hcache, hrunning, hclosing, hended, -, -⟩ := accords
  cases event with
  | call caller key =>
      simp only [step, same caller rfl]
      split
      · exact ⟨hrunning, hclosing, hended⟩
      · simp only [running_call, closing_call, ended_call, hcache, hrunning, hclosing, hended,
          and_self]
  | finish flight ending =>
      simp only [step, finish, hrunning, hclosing]
      split
      · exact ⟨hrunning, hclosing, hended⟩
      · simp only [hended, and_self]
  | report flight =>
      simp only [step, report, hclosing, hended]
      split
      · exact ⟨hrunning, hclosing, hended⟩
      · simp only [hrunning, and_self]
  | receive caller => simp only [step, runs_receive, hrunning, hclosing, hended, and_self]
  | expire caller milliseconds =>
      simp only [step, runs_expire, hrunning, hclosing, hended, and_self]
  | _ => exact ⟨hrunning, hclosing, hended⟩

/-- A caller that an event is about comes off alike. -/
theorem step_ticket? (accords : Accords hasty first second) {event : Event κ α ε} {caller : Nat}
    (about : event.caller? = some caller) (same : first.ticket? caller = second.ticket? caller) :
    (first.step event).ticket? caller = (second.step event).ticket? caller := by
  cases event with
  | call _ key =>
      cases about
      cases hticket : second.ticket? caller with
      | some ticket => simp [step, same, hticket]
      | none =>
          have hfirst := same.trans hticket
          have hfound := accords.cache
          cases hlook : (second.cache.lookup key).2 with
          | hit value =>
              rw [ticket?_of_hit hfirst (by rw [hfound, hlook]), ticket?_of_hit hticket hlook]
          | join flight =>
              rw [Attaches.ticket? ⟨hfirst, .inl (by rw [hfound, hlook])⟩,
                Attaches.ticket? ⟨hticket, .inl hlook⟩]
          | launch flight =>
              rw [Attaches.ticket? ⟨hfirst, .inr (by rw [hfound, hlook])⟩,
                Attaches.ticket? ⟨hticket, .inr hlook⟩]
  | receive _ =>
      cases about
      simp only [step, receive, same, accords.ending?]
      split
      · exact same
      · split
        · exact same
        · rw [ticket?_tell, ticket?_tell, if_pos rfl, if_pos rfl]
  | expire _ milliseconds =>
      cases about
      simp only [step, ticket?_expire]
  | leave _ =>
      cases about
      simp only [step, ticket?_leave, if_true]
  | _ => cases about

/-- One event in both histories. -/
protected theorem step (accords : Accords hasty first second) {event : Event κ α ε}
    (same : ∀ caller, event.caller? = some caller → first.ticket? caller = second.ticket? caller) :
    Accords hasty (first.step event) (second.step event) where
  cache := accords.step_cache same
  running := (accords.step_runs same).1
  closing := (accords.step_runs same).2.1
  ended := (accords.step_runs same).2.2
  ticket? {caller} patient := by
    by_cases habout : event.caller? = some caller
    · exact accords.step_ticket? habout (accords.ticket? patient)
    · rw [(waiter_step_of_ne first habout).1, (waiter_step_of_ne second habout).1,
        accords.ticket? patient]
  answer? {caller} patient := by
    rw [answer?_step, answer?_step, accords.reply? same, accords.answer? patient]

/-- A hasty caller ends its wait in the first history alone. -/
theorem wait_ends {events : List (Event κ α ε)} (accords : Accords hasty (after events) second)
    (whole : Whole events) {event : Event κ α ε} {caller : Nat} (ends : event.waiter? = some caller)
    (inHaste : hasty caller = true) : Accords hasty ((after events).step event) second := by
  obtain ⟨hcache, hrunning, hclosing, hended⟩ := whole.wait_ends ends
  have hother : ∀ other, hasty other = false → event.caller? ≠ some other := by
    intro other hpatient habout
    rw [event.caller?_of_waiter? ends] at habout
    cases habout
    rw [inHaste] at hpatient
    cases hpatient
  exact {
    cache := hcache.trans accords.cache
    running := hrunning.trans accords.running
    closing := hclosing.trans accords.closing
    ended := hended.trans accords.ended
    ticket? := fun patient => (waiter_step_of_ne _ (hother _ patient)).1.trans
      (accords.ticket? patient)
    answer? := fun patient => (waiter_step_of_ne _ (hother _ patient)).2.trans
      (accords.answer? patient) }

end Accords

/-! ## What the histories show -/

/-- The cache after an event that has changed it. -/
def change? [DecidableEq α] (traffic : Traffic κ α ε) (event : Event κ α ε) :
    Option (SingleFlight κ α) :=
  if (traffic.step event).cache = traffic.cache then none else some (traffic.step event).cache

/-- The states that the cache goes through, with its entries and its counters. -/
def changes [DecidableEq α] (events : List (Event κ α ε)) : List (SingleFlight κ α) :=
  record (fun earlier event => (after earlier).change? event) events

theorem changes_append_singleton [DecidableEq α] (events : List (Event κ α ε))
    (event : Event κ α ε) :
    changes (events ++ [event]) = changes events ++ ((after events).change? event).toList :=
  record_append_singleton _ events event

/-- Whether a reply is for anyone but the hasty callers. -/
def Reply.isForOthers (hasty : Nat → Bool) : Reply α ε → Bool
  | .told caller _ => !hasty caller
  | .removed _ => true

/-- Nobody but the hasty callers can tell two histories apart. -/
structure Alike [DecidableEq α] (hasty : Nat → Bool) (first second : List (Event κ α ε)) :
    Prop where
  changes : changes first = changes second
  launches : launches {} first = launches {} second
  endings : endings first = endings second
  lookups : lookups first = lookups second
  replies : (replies first).filter (Reply.isForOthers hasty)
    = (replies second).filter (Reply.isForOthers hasty)
  accords : Accords hasty (after first) (after second)

namespace Alike

variable [DecidableEq α] {hasty : Nat → Bool} {first second : List (Event κ α ε)}

theorem symm (alike : Alike hasty first second) : Alike hasty second first where
  changes := alike.changes.symm
  launches := alike.launches.symm
  endings := alike.endings.symm
  lookups := alike.lookups.symm
  replies := alike.replies.symm
  accords := alike.accords.symm

/-- A hasty caller ends its wait in the first history alone. -/
theorem wait_ends (alike : Alike hasty first second) (whole : Whole first) {event : Event κ α ε}
    {caller : Nat} (ends : event.waiter? = some caller) (inHaste : hasty caller = true) :
    Alike hasty (first ++ [event]) second := by
  have habout := event.caller?_of_waiter? ends
  have hquiet : (after first).found? event = none ∧ (after first).launchOf? event = none
      ∧ (after first).endingOf? event = none := by
    cases event with
    | receive _ => exact ⟨rfl, rfl, rfl⟩
    | expire _ _ => exact ⟨rfl, rfl, rfl⟩
    | leave _ => exact ⟨rfl, rfl, rfl⟩
    | _ => cases ends
  have hhidden : ((after first).reply? event).toList.filter (Reply.isForOthers hasty) = [] := by
    cases hreply : (after first).reply? event with
    | none => rfl
    | some reply =>
        obtain ⟨answer, rfl⟩ := told_of_caller habout hreply
        simp [Reply.isForOthers, inHaste]
  have hchange : (after first).change? event = none := if_pos (whole.wait_ends ends).1
  exact {
    changes := by rw [changes_append_singleton, hchange]; simpa using alike.changes
    launches := by rw [launches_append_singleton, hquiet.2.1]; simpa using alike.launches
    endings := by rw [endings_append_singleton, hquiet.2.2]; simpa using alike.endings
    lookups := by rw [lookups_append_singleton, hquiet.1]; simpa using alike.lookups
    replies := by
      rw [replies_append_singleton, List.filter_append, hhidden, List.append_nil, alike.replies]
    accords := by
      rw [after_append_singleton]
      exact alike.accords.wait_ends whole ends inHaste }

/-- The same event happens in both histories. -/
theorem both (alike : Alike hasty first second) {event : Event κ α ε}
    (same : ∀ caller, event.caller? = some caller →
      (after first).ticket? caller = (after second).ticket? caller) :
    Alike hasty (first ++ [event]) (second ++ [event]) where
  changes := by
    rw [changes_append_singleton, changes_append_singleton, alike.changes, change?, change?,
      alike.accords.step_cache same, alike.accords.cache]
  launches := by
    rw [launches_append_singleton, launches_append_singleton, alike.launches,
      alike.accords.launchOf? same]
  endings := by
    rw [endings_append_singleton, endings_append_singleton, alike.endings,
      alike.accords.endingOf?]
  lookups := by
    rw [lookups_append_singleton, lookups_append_singleton, alike.lookups,
      alike.accords.found? same]
  replies := by
    rw [replies_append_singleton, replies_append_singleton, List.filter_append, List.filter_append,
      alike.replies, alike.accords.reply? same]
  accords := by
    rw [after_append_singleton, after_append_singleton]
    exact alike.accords.step same

end Alike

/-- Histories that differ only in how the hasty callers end their waits are alike to all others. -/
theorem DifferInWaits.alike [DecidableEq α] {hasty : Nat → Bool} {first second : List (Event κ α ε)}
    (differ : DifferInWaits hasty first second) (whole : Whole first)
    (orderly : Orderly hasty first) (orderly' : Orderly hasty second) :
    Alike hasty first second := by
  have whole' := differ.whole whole
  induction differ with
  | start => exact ⟨rfl, rfl, rfl, rfl, rfl, ⟨rfl, rfl, rfl, rfl, fun _ => rfl, fun _ => rfl⟩⟩
  | first before event ends inHaste ih =>
      have hwhole := whole.of_prefix (List.prefix_append _ _)
      exact (ih hwhole (orderly.of_prefix (List.prefix_append _ _)) orderly' whole').wait_ends
        hwhole ends inHaste
  | second before event ends inHaste ih =>
      have hwhole := whole'.of_prefix (List.prefix_append _ _)
      exact ((ih whole orderly (orderly'.of_prefix (List.prefix_append _ _)) hwhole).symm.wait_ends
        hwhole ends inHaste).symm
  | @both first second before event ih =>
      have hfirst := whole.of_prefix (List.prefix_append _ _)
      have hsecond := whole'.of_prefix (List.prefix_append _ _)
      have halike := ih hfirst (orderly.of_prefix (List.prefix_append _ _))
        (orderly'.of_prefix (List.prefix_append _ _)) hsecond
      by_cases hhasty : ∃ caller, event.waiter? = some caller ∧ hasty caller = true
      · obtain ⟨caller, ends, inHaste⟩ := hhasty
        exact ((halike.wait_ends hfirst ends inHaste).symm.wait_ends hsecond ends inHaste).symm
      · refine halike.both fun caller about => ?_
        cases hpatient : hasty caller with
        | false => exact halike.accords.ticket? hpatient
        | true =>
            cases event with
            | call _ key =>
                cases about
                rw [orderly.ticket? hpatient, orderly'.ticket? hpatient]
            | receive _ => exact absurd ⟨caller, about, hpatient⟩ hhasty
            | expire _ _ => exact absurd ⟨caller, about, hpatient⟩ hhasty
            | leave _ => exact absurd ⟨caller, about, hpatient⟩ hhasty
            | _ => cases about

/-! ## What the hasty callers are told -/

/-- What is known of the end of a run stays known. -/
theorem ending?_of_earlier {earlier events : List (Event κ α ε)} (h : earlier <+: events)
    {flight : Nat} {ending : Ending α ε} (known : (after earlier).ending? flight = some ending) :
    (after events).ending? flight = some ending := by
  obtain ⟨later, rfl⟩ := h
  induction later using List.reverseRecOn with
  | nil => rwa [List.append_nil]
  | append_singleton later event ih =>
      rw [← List.append_assoc, after_append_singleton]
      exact (ledger_after _).ending?_mono ih event

/-- All that a caller can be told in a history: a value that was there, how a run ended, or that its
time was up. -/
inductive Hears (events : List (Event κ α ε)) (caller : Nat) : Answer α ε → Prop
  | value {value : α} (hit : .hit value ∈ lookups events) :
      Hears events caller (.ending (.value value))
  | ending {flight : Nat} {ending : Ending α ε}
      (known : (after events).ending? flight = some ending) :
      Hears events caller (.ending ending)
  | timedOut {milliseconds : Nat} (expired : .expire caller milliseconds ∈ events) :
      Hears events caller (.timedOut milliseconds)

theorem hears_of_told {events : List (Event κ α ε)} {caller : Nat} {answer : Answer α ε}
    (told : .told caller answer ∈ replies events) : Hears events caller answer := by
  obtain ⟨seen, rest, hreplies⟩ := List.append_of_mem told
  obtain ⟨earlier, event, hpart, -, hreply⟩ := of_prefix_record
    (⟨rest, by rw [List.append_assoc, List.singleton_append, ← hreplies]; rfl⟩ :
      seen ++ [_] <+: record (fun earlier event => (after earlier).reply? event) events)
  have hbefore := (List.prefix_append earlier [event]).trans hpart
  cases event with
  | call other key =>
      simp only [reply?] at hreply
      split at hreply
      · next value hfound =>
          cases hreply
          refine .value ((record_mono _ hpart).subset ?_)
          rw [record_append_singleton, hfound]
          exact List.mem_append_right _ (List.mem_singleton_self _)
      · cases hreply
  | receive other =>
      obtain ⟨ticket, -, hending⟩ := Option.bind_eq_some_iff.1 hreply
      obtain ⟨ending, hknown, htold⟩ := Option.map_eq_some_iff.1 hending
      cases htold
      exact .ending (ending?_of_earlier hbefore hknown)
  | expire other milliseconds =>
      obtain ⟨ticket, -, htold⟩ := Option.map_eq_some_iff.1 hreply
      cases hknown : (after earlier).ending? ticket.flight with
      | some ending =>
          simp only [hknown] at htold
          cases htold
          exact .ending (ending?_of_earlier hbefore hknown)
      | none =>
          simp only [hknown] at htold
          cases htold
          exact .timedOut (hpart.subset (by simp))
  | invalidate key => cases hreply
  | invalidateIf key test => cases hreply
  | _ => cases hreply

/-! ## No trace -/

/-- In a history in which no run breaks down, let some callers end their waits otherwise: sooner or
later, by receiving the outcome, by giving up, or by going away. The cache goes through the same
states, with the same entries and counters; the same runs are launched, end alike and are under way;
the lookups come to the same; and everyone but those callers comes off the same and is told the same
in the same order. Whatever anyone is told is told in the other history too, or comes from a wait
whose time was up: it is a value that is there in both, or how a run ends in both. -/
theorem haste_leaves_no_trace [DecidableEq α] {hasty : Nat → Bool}
    {patiently hastily : List (Event κ α ε)} (differ : DifferInWaits hasty patiently hastily)
    (whole : Whole patiently) (orderly : Orderly hasty patiently)
    (orderly' : Orderly hasty hastily) :
    Alike hasty patiently hastily
      ∧ ∀ caller answer, .told caller answer ∈ replies hastily →
          Hears patiently caller answer
            ∨ ∃ milliseconds, .expire caller milliseconds ∈ hastily
              ∧ answer = .timedOut milliseconds := by
  have alike := differ.alike whole orderly orderly'
  refine ⟨alike, fun caller answer told => ?_⟩
  cases hears_of_told told with
  | value hit => exact .inl (.value (alike.lookups ▸ hit))
  | ending known => exact .inl (.ending ((alike.accords.ending? _).trans known))
  | timedOut expired => exact .inr ⟨_, expired, rfl⟩

/-- Three callers wait for a run and receive its value; a fourth finds it. -/
def patientCallers : List (Event Nat Nat Nat) :=
  [.call 0 7, .call 1 7, .call 2 7, .finish 0 (.value 10), .report 0, .receive 0, .receive 1,
    .receive 2, .call 3 7]

/-- The one that launched the run goes away at once, and another gives up before the run ends. -/
def hastyCallers : List (Event Nat Nat Nat) :=
  [.call 0 7, .leave 0, .call 1 7, .call 2 7, .expire 1 50, .finish 0 (.value 10), .report 0,
    .receive 2, .call 3 7]

theorem alike_of_hastyCallers :
    Alike (· < 2) patientCallers hastyCallers
      ∧ (after patientCallers).answer? 2 = some (.ending (.value 10))
      ∧ (after hastyCallers).answer? 2 = some (.ending (.value 10))
      ∧ (after hastyCallers).answer? 1 = some (.timedOut 50)
      ∧ (after hastyCallers).answer? 0 = none := by
  have differ : DifferInWaits (· < 2) patientCallers hastyCallers :=
    ((((((((((DifferInWaits.start.both (.call 0 7)).second (.leave 0) rfl rfl).both
      (.call 1 7)).both (.call 2 7)).second (.expire 1 50) rfl rfl).both
      (.finish 0 (.value 10))).both (.report 0)).first (.receive 0) rfl rfl).first
      (.receive 1) rfl rfl).both (.receive 2)).both (.call 3 7)
  have whole : Whole patientCallers := by simp [Whole, patientCallers]
  exact ⟨(haste_leaves_no_trace differ whole rfl rfl).1, rfl, rfl, rfl, rfl⟩

end Traffic

end LiveTemplates
