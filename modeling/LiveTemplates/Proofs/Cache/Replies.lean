import LiveTemplates.Proofs.Cache.Callers

set_option autoImplicit false

/-! # What events come to

A history is read from its beginning, each event in the light of those before it. What is seen of
the events in this way is a `record` of the history: what its lookups come to, what its callers are
told, how its runs end. The record of a history that goes on only grows. -/

namespace LiveTemplates

namespace History

variable {E β : Type}

/-- What is seen of events, when others have gone before. -/
def recordFrom (sees : List E → E → Option β) (earlier : List E) : List E → List β
  | [] => []
  | event :: rest => (sees earlier event).toList ++ recordFrom sees (earlier ++ [event]) rest

/-- What is seen of the events of a history. -/
def record (sees : List E → E → Option β) (events : List E) : List β :=
  recordFrom sees [] events

@[simp] theorem record_nil (sees : List E → E → Option β) : record sees [] = [] := rfl

theorem recordFrom_append (sees : List E → E → Option β) (earlier first second : List E) :
    recordFrom sees earlier (first ++ second)
      = recordFrom sees earlier first ++ recordFrom sees (earlier ++ first) second := by
  induction first generalizing earlier with
  | nil => simp [recordFrom]
  | cons event rest ih => simp [recordFrom, ih]

theorem record_append_singleton (sees : List E → E → Option β) (events : List E) (event : E) :
    record sees (events ++ [event]) = record sees events ++ (sees events event).toList := by
  simp [record, recordFrom_append, recordFrom]

/-- A record only grows. -/
theorem record_mono (sees : List E → E → Option β) {earlier events : List E}
    (h : earlier <+: events) : record sees earlier <+: record sees events := by
  obtain ⟨later, rfl⟩ := h
  exact ⟨_, (recordFrom_append sees [] earlier later).symm⟩

/-- Whatever is on a record was seen of one of the events. -/
theorem of_prefix_record {sees : List E → E → Option β} {events : List E} {seen : List β} {x : β}
    (h : seen ++ [x] <+: record sees events) :
    ∃ earlier event, earlier ++ [event] <+: events ∧ record sees earlier = seen
      ∧ sees earlier event = some x := by
  induction events using List.reverseRecOn with
  | nil => simp at h
  | append_singleton events event ih =>
      rw [record_append_singleton] at h
      have hbefore : seen ++ [x] <+: record sees events →
          ∃ earlier other, earlier ++ [other] <+: events ++ [event] ∧ record sees earlier = seen
            ∧ sees earlier other = some x := fun h => by
        obtain ⟨earlier, other, hpart, hseen⟩ := ih h
        exact ⟨earlier, other, hpart.trans (List.prefix_append _ _), hseen⟩
      cases hsees : sees events event with
      | none =>
          rw [hsees, Option.toList_none, List.append_nil] at h
          exact hbefore h
      | some last =>
          rw [hsees, Option.toList_some] at h
          rcases List.prefix_concat_iff.1 h with h | h
          · obtain ⟨hrecord, hlast⟩ := List.append_inj' h rfl
            cases hlast
            exact ⟨events, event, List.prefix_refl _, hrecord.symm, hsees⟩
          · exact hbefore h

end History

namespace Traffic

open History

variable {κ α ε : Type} [DecidableEq κ]

/-! ## Lookups -/

/-- What the lookup in an event comes to, if a caller makes one. -/
def found? (traffic : Traffic κ α ε) : Event κ α ε → Option (Lookup α)
  | .call caller key =>
    if (traffic.ticket? caller).isSome then none else some (traffic.cache.lookup key).2
  | _ => none

/-! ## Replies -/

/-- What comes back to whoever is behind an event: a caller is told something, or it is said whether
an entry was taken out. -/
inductive Reply (α ε : Type) where
  | told (caller : Nat) (answer : Answer α ε)
  | removed (there : Bool)
  deriving DecidableEq

/-- What an event comes back with. -/
def reply? (traffic : Traffic κ α ε) : Event κ α ε → Option (Reply α ε)
  | .call caller key =>
    match traffic.found? (.call caller key) with
    | some (.hit value) => some (.told caller (.ending (.value value)))
    | _ => none
  | .receive caller =>
    (traffic.ticket? caller).bind fun ticket =>
      (traffic.ending? ticket.flight).map fun ending => .told caller (.ending ending)
  | .expire caller milliseconds =>
    (traffic.ticket? caller).map fun ticket =>
      .told caller
        (match traffic.ending? ticket.flight with
        | some ending => .ending ending
        | none => .timedOut milliseconds)
  | .invalidate key => some (.removed (traffic.invalidate key).2)
  | .invalidateIf key test => some (.removed (traffic.invalidateIf key test).2)
  | _ => none

/-- What comes back from an event about a caller is told to it. -/
theorem told_of_caller {traffic : Traffic κ α ε} {event : Event κ α ε} {caller : Nat}
    (about : event.caller? = some caller) {reply : Reply α ε}
    (h : traffic.reply? event = some reply) : ∃ answer, reply = .told caller answer := by
  cases event with
  | call other key =>
      cases about
      simp only [reply?] at h
      split at h
      · exact ⟨_, (Option.some.inj h).symm⟩
      · cases h
  | receive other =>
      cases about
      obtain ⟨ticket, -, hending⟩ := Option.bind_eq_some_iff.1 h
      obtain ⟨ending, -, rfl⟩ := Option.map_eq_some_iff.1 hending
      exact ⟨_, rfl⟩
  | expire other milliseconds =>
      cases about
      obtain ⟨ticket, -, rfl⟩ := Option.map_eq_some_iff.1 h
      exact ⟨_, rfl⟩
  | leave other => cases h
  | _ => cases about

/-- The replies are what the callers are told, and nothing else is. -/
theorem answer?_step (traffic : Traffic κ α ε) (event : Event κ α ε) (caller : Nat) :
    (traffic.step event).answer? caller
      = match traffic.reply? event with
        | some (.told other answer) =>
            if caller = other then some answer else traffic.answer? caller
        | _ => traffic.answer? caller := by
  cases event with
  | call other key =>
      simp only [step, reply?, found?]
      split
      · rfl
      · unfold call
        rcases traffic.cache.lookup key with ⟨cache, value | flight | flight⟩
        · exact answer?_tell ..
        · rfl
        · rfl
  | finish flight ending =>
      simp only [step, reply?, finish]
      split <;> rfl
  | report flight =>
      simp only [step, reply?, report]
      split <;> rfl
  | receive other =>
      simp only [step, reply?]
      cases hticket : traffic.ticket? other with
      | none => simp [receive_of_gone hticket]
      | some ticket =>
          cases hending : traffic.ending? ticket.flight with
          | none => simp [receive_of_unknown hticket hending, hending]
          | some ending =>
              rw [receive_of_known hticket hending, answer?_tell]
              simp [hending, answer?]
  | expire other milliseconds =>
      simp only [step, reply?]
      cases hticket : traffic.ticket? other with
      | none => simp [expire_of_gone hticket]
      | some ticket =>
          cases hending : traffic.ending? ticket.flight with
          | none =>
              rw [expire_of_unknown hticket hending, answer?_tell]
              simp [hending]
          | some ending =>
              rw [expire_of_known hticket hending, receive_of_known hticket hending, answer?_tell]
              simp [hending, answer?]
  | leave other => rfl
  | invalidate key => rfl
  | invalidateIf key test => rfl
  | sweep part => rfl

/-! ## Ends of runs -/

/-- How a run under way ends in an event, if one does. -/
def endingOf? (traffic : Traffic κ α ε) : Event κ α ε → Option (Ending α ε)
  | .finish flight ending => (Assoc.find? flight traffic.running).map fun _ => ending
  | _ => none

/-! ## Histories -/

/-- What the lookups of a history come to. -/
def lookups (events : List (Event κ α ε)) : List (Lookup α) :=
  record (fun earlier event => (after earlier).found? event) events

/-- What the events of a history come back with. -/
def replies (events : List (Event κ α ε)) : List (Reply α ε) :=
  record (fun earlier event => (after earlier).reply? event) events

/-- How the runs of a history end, in the order in which they do. -/
def endings (events : List (Event κ α ε)) : List (Ending α ε) :=
  record (fun earlier event => (after earlier).endingOf? event) events

theorem lookups_append_singleton (events : List (Event κ α ε)) (event : Event κ α ε) :
    lookups (events ++ [event]) = lookups events ++ ((after events).found? event).toList :=
  record_append_singleton _ events event

theorem replies_append_singleton (events : List (Event κ α ε)) (event : Event κ α ε) :
    replies (events ++ [event]) = replies events ++ ((after events).reply? event).toList :=
  record_append_singleton _ events event

theorem endings_append_singleton (events : List (Event κ α ε)) (event : Event κ α ε) :
    endings (events ++ [event]) = endings events ++ ((after events).endingOf? event).toList :=
  record_append_singleton _ events event

end Traffic

end LiveTemplates
