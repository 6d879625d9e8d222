import LiveTemplates.Proofs.Cache.Outcome

set_option autoImplicit false

/-! # Breakdowns that nobody hears of

An entry waits for its value while its run is under way. A run that gives a value or an error changes
the entry when it ends, but one that breaks down leaves it to the callers to take the entry out when
they are told. If all of them have given up or gone away by then, nobody does: the entry goes on
waiting for a run that has ended, and the next caller is told of the old breakdown.

That is the only way (`waiting_for_ended_iff_unheard`): an entry waits for a run that is not under way
exactly if the run broke down and nothing has happened since that takes the entry out. -/

namespace LiveTemplates

namespace Traffic

variable {κ α ε : Type} [DecidableEq κ]

/-- A run has broken down while an entry waited for it, and nothing has happened since that takes the
entry out: no caller was told, and nobody invalidated the key. -/
def Unheard (events : List (Event κ α ε)) (key : κ) (flight : Nat) : Prop :=
  ∃ before explanation rest,
    events = before ++ [.finish flight (.broken explanation)] ++ rest
      ∧ (after before).cache.slot? key = some (.pending flight)
      ∧ Assoc.find? flight (after before).running = some key
      ∧ ∀ earlier event later, rest = earlier ++ [event] ++ later →
          ¬ Removes (after (before ++ [.finish flight (.broken explanation)] ++ earlier)) event key
            (.pending flight)

/-- A new call of a key is told a value, waits for a run that is under way, or launches one. -/
def StartsFresh (traffic : Traffic κ α ε) (key : κ) : Prop :=
  (∃ value, (traffic.cache.lookup key).2 = .hit value)
    ∨ (∃ flight, (traffic.cache.lookup key).2 = .join flight
        ∧ Assoc.find? flight traffic.running = some key)
    ∨ (traffic.cache.lookup key).2 = .launch traffic.cache.nextFlight

/-! ## Reasons to take an entry out suffice -/

/-- Whatever is a reason to take out the entry of a key does take it out. -/
theorem Removes.slot?_step {traffic : Traffic κ α ε} {event : Event κ α ε} {key : κ}
    {slot : Slot α} (why : Removes traffic event key slot)
    (h : traffic.cache.slot? key = some slot) : (traffic.step event).cache.slot? key = none := by
  cases why with
  | invalidated is =>
      subst is
      exact (SingleFlight.slot?_invalidate ..).trans (if_pos rfl)
  | refused test flight value is ready passes =>
      subst is ready
      have hpeek : traffic.cache.peek key = some value :=
        (SingleFlight.peek_eq_some_iff _ _ _).2 ⟨flight, h⟩
      exact (SingleFlight.slot?_invalidateIf ..).trans (if_pos ⟨rfl, by simpa [hpeek] using passes⟩)
  | swept part is within =>
      subst is
      exact (SingleFlight.slot?_sweep ..).trans (if_pos within)
  | failed e is runs =>
      subst is
      exact slot?_finish h runs (.error e)
  | broke caller explanation is waits known =>
      have hbelongs : traffic.cache.belongs key slot.flight = true :=
        (SingleFlight.belongs_iff _ _ _).2 ⟨slot, h, rfl⟩
      rw [step_of_known is waits known, receive_of_known waits known, cache_tell]
      exact (SingleFlight.slot?_dropFlight ..).trans (if_pos ⟨rfl, hbelongs⟩)

/-- An entry that waits for a run goes on waiting for it, as long as the run does not end and nothing
takes the entry out. -/
theorem slot?_step_of_waiting {traffic : Traffic κ α ε} {event : Event κ α ε} {key : κ}
    {flight : Nat} (h : traffic.cache.slot? key = some (.pending flight))
    (ended : Assoc.find? flight traffic.running ≠ some key)
    (stays : ¬ Removes traffic event key (.pending flight)) :
    (traffic.step event).cache.slot? key = some (.pending flight) := by
  have hchanges := step_changes traffic event key
  rw [h] at hchanges
  generalize (traffic.step event).cache.slot? key = now at hchanges ⊢
  cases hchanges with
  | kept => rfl
  | landed _ value is runs => exact absurd runs ended
  | removed _ why => exact absurd why stays

/-! ## From the breakdown on -/

/-- A run that has ended is not under way. -/
theorem not_running_of_outcome? (events : List (Event κ α ε)) {flight : Nat}
    {ending : Ending α ε} (ended : (after events).outcome? flight = some ending) :
    Assoc.find? flight (after events).running = none := by
  cases hrun : Assoc.find? flight (after events).running with
  | none => rfl
  | some key =>
      rw [((ledger_after events).running hrun).2] at ended
      cases ended

/-- As long as nobody hears of a breakdown, the entry waits for the run that has broken down. -/
theorem waiting_of_unheard {events : List (Event κ α ε)} {key : κ} {flight : Nat}
    (unheard : Unheard events key flight) :
    (after events).cache.slot? key = some (.pending flight)
      ∧ ∃ explanation, (after events).outcome? flight = some (.broken explanation) := by
  obtain ⟨before, explanation, rest, rfl, hwaits, hruns, hstays⟩ := unheard
  refine (fun h => ⟨h.1, explanation, h.2⟩ : _ ∧ _ → _) ?_
  induction rest using List.reverseRecOn with
  | nil =>
      rw [List.append_nil, after_append_singleton]
      exact ⟨slot?_finish hwaits hruns (.broken explanation), by simp [step, outcome?_finish hruns]⟩
  | append_singleton rest event ih =>
      have hbefore := ih fun earlier other later hrest =>
        hstays earlier other (later ++ [event]) (by simp [hrest])
      obtain ⟨hslot, hend⟩ := hbefore
      rw [← List.append_assoc, after_append_singleton]
      have hstay := hstays rest event [] (by simp)
      refine ⟨slot?_step_of_waiting hslot ?_ hstay, (ledger_after _).outcome?_mono hend event⟩
      rw [not_running_of_outcome? _ hend]
      exact (Option.some_ne_none key).symm

/-- An entry that waits for a run has one under way, or nobody has heard that it broke down. -/
theorem running_or_unheard (events : List (Event κ α ε)) {key : κ} {flight : Nat}
    (h : (after events).cache.slot? key = some (.pending flight)) :
    Assoc.find? flight (after events).running = some key ∨ Unheard events key flight := by
  induction events using List.reverseRecOn with
  | nil => cases h
  | append_singleton events event ih =>
      have hnow := h
      rw [after_append_singleton] at h
      rcases slot?_of_step h with hold | ⟨caller, rfl, free, hnone, hslot⟩ | ⟨_, _, _, _, _, hslot⟩
      · rcases ih hold with hruns | ⟨before, explanation, rest, rfl, hwaits, hruns, hstays⟩
        · rcases run_step hruns event with hruns | ⟨ending, rfl, -⟩
          · left
            rw [after_append_singleton]
            exact hruns
          · -- the run has just ended, and its entry still waits, so it broke down
            have hslot := slot?_finish hold hruns ending
            simp only [step, Slot.flight] at h hslot
            rw [h] at hslot
            cases ending with
            | value value => cases hslot
            | error e => cases hslot
            | broken explanation =>
                refine .inr ⟨events, explanation, [], by simp, hold, hruns, ?_⟩
                intro earlier event later hrest
                simp at hrest
        · -- an event that takes the entry out would not have left it waiting
          refine .inr ⟨before, explanation, rest ++ [event], by simp, hwaits, hruns, ?_⟩
          intro earlier other later hrest why
          rcases List.eq_nil_or_concat later with rfl | ⟨later, last, rfl⟩
          · rw [List.append_nil] at hrest
            obtain ⟨rfl, hlast⟩ := List.append_inj' hrest rfl
            cases hlast
            rw [why.slot?_step hold] at h
            cases h
          · rw [List.concat_eq_append, ← List.append_assoc] at hrest
            obtain ⟨hrest, -⟩ := List.append_inj' hrest rfl
            exact hstays earlier other later hrest why
      · left
        have hruns := (ledger_after (events ++ [.call caller key])).pending hnow
        cases hslot
        rcases hruns with hruns | ⟨explanation, hend⟩
        · exact hruns
        · -- the run has only just been launched, so it cannot have ended
          rw [after_append_singleton] at hend
          rcases outcome?_step (after events) (.call caller key) (after events).cache.nextFlight with
            hsame | ⟨_, _, is, _, _⟩
          · rw [hsame] at hend
            have hlt := (ledger_after events).ended hend
            rw [(ledger_after events).next] at hlt
            exact absurd hlt (Nat.lt_irrefl _)
          · cases is
      · cases hslot

theorem waiting_for_ended_iff_unheard (events : List (Event κ α ε)) (key : κ) (flight : Nat) :
    (after events).cache.slot? key = some (.pending flight)
        ∧ Assoc.find? flight (after events).running = none
      ↔ Unheard events key flight := by
  constructor
  · rintro ⟨hwaits, hended⟩
    rcases running_or_unheard events hwaits with hruns | unheard
    · rw [hended] at hruns
      cases hruns
    · exact unheard
  · intro unheard
    obtain ⟨hwaits, explanation, hend⟩ := waiting_of_unheard unheard
    exact ⟨hwaits, not_running_of_outcome? events hend⟩

/-- Once a caller has been told of a breakdown, it is not unheard of any more. -/
theorem not_unheard_of_told {events : List (Event κ α ε)} {event : Event κ α ε} {caller : Nat}
    {key : κ} {flight : Nat} {explanation : Option String} (is : event.receiver? = some caller)
    (waits : (after events).ticket? caller = some ⟨caller, key, flight⟩)
    (known : (after events).ending? flight = some (.broken explanation))
    (later : List (Event κ α ε)) (other : κ) :
    ¬ Unheard (events ++ [event] ++ later) other flight := by
  intro unheard
  have hgone := not_belongs_of_told is waits known (by simp) other
  have hhome : (launches {} events)[flight]? = some key :=
    (ledger_after events).waiting (List.mem_of_find?_eq_some waits)
  have hlaunched : flight < (after (events ++ [event])).cache.nextFlight :=
    (ledger_after _).launch_new (home_append hhome)
  have hback : ((after (events ++ [event])).run later).cache.belongs other flight = true := by
    rw [← after_append, SingleFlight.belongs_iff]
    exact ⟨_, (waiting_of_unheard unheard).1, rfl⟩
  rw [belongs_of_run hlaunched later hback] at hgone
  cases hgone

/-! ## The next call -/

theorem startsFresh_of_heard {events : List (Event κ α ε)} {key : κ}
    (heard : ∀ flight, ¬ Unheard events key flight) : StartsFresh (after events) key := by
  unfold StartsFresh
  rw [SingleFlight.lookup_snd]
  cases hslot : (after events).cache.slot? key with
  | none => exact .inr (.inr rfl)
  | some slot =>
      cases slot with
      | ready flight value => exact .inl ⟨value, rfl⟩
      | pending flight =>
          rcases running_or_unheard events hslot with hruns | unheard
          · exact .inr (.inl ⟨flight, rfl, hruns⟩)
          · exact absurd unheard (heard flight)

/-- After a breakdown that was heard of, a lookup finds a later run. -/
theorem findsLater_of_heard {events : List (Event κ α ε)} {key : κ} {flight : Nat}
    {explanation : Option String} (home : (launches {} events)[flight]? = some key)
    (ended : (after events).outcome? flight = some (.broken explanation))
    (heard : ¬ Unheard events key flight) : FindsLater (after events).cache key flight := by
  have ledger := ledger_after events
  refine ledger.findsLater home ?_
  by_contra hbelongs
  rw [Bool.not_eq_false] at hbelongs
  obtain ⟨slot, hslot, rfl⟩ := (SingleFlight.belongs_iff _ _ _).1 hbelongs
  cases slot with
  | ready flight value =>
      have hvalue := ledger.ready hslot
      rw [Slot.flight] at ended
      rw [ended] at hvalue
      cases hvalue
  | pending flight =>
      rcases running_or_unheard events hslot with hruns | unheard
      · rw [Slot.flight, (ledger.running hruns).2] at ended
        cases ended
      · exact heard unheard

omit [DecidableEq κ] in
/-- How a run has ended is known once it has been reported. -/
theorem ending?_report {traffic : Traffic κ α ε} {flight : Nat} {ending : Ending α ε}
    (h : traffic.outcome? flight = some ending) :
    (traffic.report flight).ending? flight = some ending := by
  unfold report
  cases hclosing : Assoc.find? flight traffic.closing with
  | none => simpa [outcome?, hclosing] using h
  | some other =>
      have hsame : other = ending := by simpa [outcome?, hclosing] using h
      simp [ending?, Assoc.find?_set, hsame]

/-- Whoever calls after a breakdown that nobody has heard of is told of it. -/
theorem told_of_unheard {events : List (Event κ α ε)} {key : κ} {flight : Nat}
    (unheard : Unheard events key flight) {caller : Nat}
    (free : (after events).ticket? caller = none) :
    ∃ explanation,
      (after (events ++ [.call caller key, .report flight, .receive caller])).answer? caller
        = some (.ending (.broken explanation)) := by
  obtain ⟨hwaits, explanation, hend⟩ := waiting_of_unheard unheard
  have attaches : (after events).Attaches caller key flight :=
    ⟨free, .inl (by rw [SingleFlight.lookup_snd, hwaits])⟩
  have hcalled := (ledger_after events).outcome?_mono hend (.call caller key)
  have hknown := ending?_report hcalled
  have hquiet : (Event.report flight : Event κ α ε).caller? ≠ some caller := nofun
  have hticket := (((after events).step (.call caller key)).waiter_step_of_ne hquiet).1
  refine ⟨explanation, ?_⟩
  rw [after_append]
  exact answer?_receive_of_known (hticket.trans attaches.ticket?) hknown

/-! ## Entries and breakdowns -/

/-- An entry waits for a run that is under way, and for one that has ended exactly if it broke down
and nobody has heard of it. It never waits for a run that gave a value or an error. As soon as one
caller is told of a breakdown it is heard of for good, and a lookup finds a later run; if there is no
breakdown that nobody has heard of, a call is never told of an old one, and else it is. -/
theorem waits_while_running_or_unheard (events : List (Event κ α ε)) (key : κ) :
    (∀ flight, (after events).cache.slot? key = some (.pending flight)
          ∧ Assoc.find? flight (after events).running = none ↔ Unheard events key flight)
      ∧ (∀ flight ending, (after events).outcome? flight = some ending →
          (∀ explanation, ending ≠ .broken explanation) →
            (after events).cache.slot? key ≠ some (.pending flight))
      ∧ (∀ event caller flight explanation later, event.receiver? = some caller →
          (after events).ticket? caller = some ⟨caller, key, flight⟩ →
          (after events).ending? flight = some (.broken explanation) →
            ¬ Unheard (events ++ [event] ++ later) key flight)
      ∧ (∀ flight explanation, (launches {} events)[flight]? = some key →
          (after events).outcome? flight = some (.broken explanation) →
          ¬ Unheard events key flight → FindsLater (after events).cache key flight)
      ∧ ((∀ flight, ¬ Unheard events key flight) → StartsFresh (after events) key)
      ∧ ∀ flight caller, Unheard events key flight → (after events).ticket? caller = none →
          ∃ explanation,
            (after (events ++ [.call caller key, .report flight, .receive caller])).answer? caller
              = some (.ending (.broken explanation)) := by
  refine ⟨?_, ?_, ?_, ?_, startsFresh_of_heard, ?_⟩
  · intro flight
    exact waiting_for_ended_iff_unheard events key flight
  · intro flight ending ended whole hwaits
    obtain ⟨_, _, hready⟩ := (ledger_after events).slot?_of_outcome hwaits ended whole
    cases hready
  · intro event caller flight explanation later is waits known
    exact not_unheard_of_told is waits known later key
  · intro flight explanation home ended heard
    exact findsLater_of_heard home ended heard
  · intro flight caller unheard free
    exact told_of_unheard unheard free

/-- Two callers wait for a run that breaks down, and one of them is told. -/
def heardBreakdown : List (Event Nat Nat Nat) :=
  [.call 0 7, .call 1 7, .finish 0 (.broken none), .report 0]

theorem findsLater_of_heardBreakdown :
    ¬ Unheard (heardBreakdown ++ [.receive 1] ++ [.leave 0]) 7 0
      ∧ FindsLater (after (heardBreakdown ++ [.receive 1] ++ [.leave 0])).cache 7 0 := by
  have heard : ¬ Unheard (heardBreakdown ++ [.receive 1] ++ [.leave 0]) 7 0 :=
    (waits_while_running_or_unheard heardBreakdown 7).2.2.1 (.receive 1) 1 0 none [.leave 0] rfl
      (by decide) (by decide)
  exact ⟨heard, (waits_while_running_or_unheard (heardBreakdown ++ [.receive 1] ++ [.leave 0])
    7).2.2.2.1 0 none (by decide) (by decide) heard⟩

/-- The only caller of a run gives up, and the run breaks down afterwards. -/
def lonelyBreakdown : List (Event Nat Nat Nat) :=
  [.call 0 7, .expire 0 5, .finish 0 (.broken none), .report 0]

/-- An entry does not only wait while its run is under way, and a call after the run has ended does
not always start afresh: it may be told of the old breakdown. -/
theorem waiting_after_lonelyBreakdown :
    ¬ (∀ (events : List (Event Nat Nat Nat)) (key : Nat), (after events).cache.isPending key = true →
        ∃ flight, Assoc.find? flight (after events).running = some key)
      ∧ (after lonelyBreakdown).cache.isPending 7 = true
      ∧ (after lonelyBreakdown).running = []
      ∧ (after (lonelyBreakdown ++ [.call 1 7, .receive 1])).answer? 1
          = some (.ending (.broken none))
      ∧ launches {} (lonelyBreakdown ++ [.call 1 7, .receive 1]) = [7] := by
  have hpending : (after lonelyBreakdown).cache.isPending 7 = true := by decide
  have hidle : (after lonelyBreakdown).running = [] := by decide
  refine ⟨fun claim => ?_, hpending, hidle, by decide, by decide⟩
  obtain ⟨flight, hruns⟩ := claim lonelyBreakdown 7 hpending
  rw [hidle] at hruns
  cases hruns

end Traffic

end LiveTemplates
