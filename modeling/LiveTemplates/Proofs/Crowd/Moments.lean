import LiveTemplates.Proofs.Crowd.Steps

set_option autoImplicit false

/-! # Moments of a course

A moment of a course is a part of its events, from the first on. Of two moments of one course one is
the earlier, and which it is can be told by anything that only grows: a moment at which a run had not
been launched is earlier than one at which it had. -/

namespace LiveTemplates

namespace Crowd

variable {start : Crowd} {part earlier later events : List Event} {holds : Crowd → Prop}

/-- Nothing has been asked of a crowd, and it is in the first generation. -/
structure Idle (crowd : Crowd) : Prop where
  resources : crowd.resources = {}
  templates : crowd.templates = {}
  loadings : crowd.loadings = []
  makings : crowd.makings = []
  lookups : crowd.lookups = []
  generation : crowd.units.generation.value = 1

theorem Idle.sound {crowd : Crowd} (idle : crowd.Idle) : crowd.Sound where
  resources := by
    rw [resourceSide, idle.resources, idle.loadings]
    exact ⟨rfl, .empty⟩
  templates := by
    rw [templateSide, idle.templates, idle.makings]
    exact ⟨rfl, .empty⟩
  free _ := by
    rw [idle.resources, idle.templates]
    exact ⟨⟨rfl, rfl⟩, ⟨rfl, rfl⟩⟩

/-- An engine as it was built is idle. -/
theorem idle_ofCaches (workshop : Workshop) (world : World) (reloadable : Bool)
    (directory : Option String) :
    (ofCaches workshop world { units := { reloadable, directory } }).Idle :=
  ⟨rfl, rfl, rfl, rfl, rfl, rfl⟩

theorem idle_of_build {blueprint : Blueprint} {providers : List Provider} {number : Nat}
    {world : World} {engine : Engine}
    (built : blueprint.build providers number world = .ok engine) (now : World) :
    (ofCaches engine.workshop now engine.caches).Idle := by
  obtain ⟨symbols, loader, -, hcaches⟩ := Blueprint.engine_of_build built
  rw [hcaches]
  exact idle_ofCaches ..

theorem Sound.workshop_run {crowd : Crowd} (sound : crowd.Sound) (events : List Event) :
    (crowd.run events).workshop = crowd.workshop :=
  (sound.leads_run events).workshop_eq

/-- An earlier moment leads to a later one. -/
theorem Sound.leads_of_prefix (sound : start.Sound) (h : earlier <+: later) :
    Leads (start.run earlier) (start.run later) := by
  obtain ⟨rest, rfl⟩ := h
  rw [run_append]
  exact (sound.run earlier).leads_run rest

/-! ## Which moment is the earlier -/

/-- A moment that was followed by an event is earlier than any that comes after that event. -/
theorem prefix_of_followed {event : Event} (h : earlier ++ [event] <+: later) : earlier <+: later :=
  (List.prefix_append _ _).trans h

/-- Of two moments, the one at which something that only grows was less is the earlier. -/
theorem prefix_of_lt (measure : Crowd → Nat)
    (grows : ∀ {earlier later}, earlier <+: later →
      measure (start.run earlier) ≤ measure (start.run later))
    (hearlier : earlier <+: events) (hlater : later <+: events)
    (hlt : measure (start.run earlier) < measure (start.run later)) : earlier <+: later := by
  rcases List.prefix_or_prefix_of_prefix hearlier hlater with h | h
  · exact h
  · exact absurd hlt (Nat.not_lt.2 (grows h))

/-- A moment at which a run for a resource had not been launched is earlier than one at which it
had. -/
theorem Sound.prefix_of_loading (sound : start.Sound) {flight : Nat} (hearlier : earlier <+: events)
    (hlater : later <+: events)
    (before : (start.run earlier).resources.cache.nextFlight ≤ flight)
    (after : flight < (start.run later).resources.cache.nextFlight) : earlier <+: later :=
  prefix_of_lt (fun crowd => crowd.resources.cache.nextFlight)
    (fun h => (sound.leads_of_prefix h).resources.nextFlight_le) hearlier hlater
    (Nat.lt_of_le_of_lt before after)

/-- A moment at which a run for a template had not been launched is earlier than one at which it
had. -/
theorem Sound.prefix_of_making (sound : start.Sound) {flight : Nat} (hearlier : earlier <+: events)
    (hlater : later <+: events)
    (before : (start.run earlier).templates.cache.nextFlight ≤ flight)
    (after : flight < (start.run later).templates.cache.nextFlight) : earlier <+: later :=
  prefix_of_lt (fun crowd => crowd.templates.cache.nextFlight)
    (fun h => (sound.leads_of_prefix h).templates.nextFlight_le) hearlier hlater
    (Nat.lt_of_le_of_lt before after)

/-- Two moments that were followed by different events are not the same, so one of these events came
before the other moment. -/
theorem prefix_or_prefix_of_ne {first second : Event} (hfirst : earlier ++ [first] <+: events)
    (hsecond : later ++ [second] <+: events) (hne : first ≠ second) :
    earlier ++ [first] <+: later ∨ later ++ [second] <+: earlier := by
  rcases List.prefix_or_prefix_of_prefix hfirst hsecond with h | h
  · rcases List.prefix_concat_iff.1 h with heq | h
    · exact absurd (List.append_inj' heq rfl).2 (by simpa using hne)
    · exact .inl h
  · rcases List.prefix_concat_iff.1 h with heq | h
    · exact absurd (List.append_inj' heq rfl).2 (by simpa using hne.symm)
    · exact .inr h

/-! ## How a stage was reached -/

/-- Of the activities of one kind, each is after any event at the stage where it was, or has just
begun, or has taken its own step. -/
def Staged {σ : Type} (listed : Crowd → List (Nat × String × σ)) (begin : σ)
    (activity : Nat → Activity) (next : Crowd → Nat → String → σ → σ) : Prop :=
  ∀ {crowd : Crowd} {event : Event} {key : Nat} {name : String} {stage : σ},
    Assoc.find? key (listed (crowd.happen event)) = some (name, stage) →
      Assoc.find? key (listed crowd) = some (name, stage) ∨ stage = begin
        ∨ ∃ earlier, event = .step (activity key)
            ∧ Assoc.find? key (listed crowd) = some (name, earlier)
            ∧ stage = next crowd key name earlier

theorem staged_loadings : Staged loadings .start .loading
    fun crowd flight name stage => (crowd.stepLoading flight name stage).2 :=
  loading_of_happen

theorem staged_makings : Staged makings .start .making
    fun crowd flight name stage => (crowd.stepMaking flight name stage).2 :=
  making_of_happen

theorem staged_lookups : Staged lookups .start .lookup
    fun crowd _ name stage => (crowd.stepLookup name stage).2 :=
  lookup_of_happen

theorem staged_fetches : Staged fetches .start .fetch
    fun crowd _ name stage => (crowd.stepFetch name stage).2 :=
  fetch_of_happen

section Staged

variable {σ : Type} {listed : Crowd → List (Nat × String × σ)} {begin stage : σ}
  {activity : Nat → Activity} {next : Crowd → Nat → String → σ → σ} {key : Nat} {name : String}

/-- A stage other than the first was reached in a step, from another stage. -/
theorem Staged.reached (staged : Staged listed begin activity next) (empty : listed start = [])
    (h : Assoc.find? key (listed (start.run events)) = some (name, stage)) (hne : stage ≠ begin) :
    ∃ part before, part ++ [.step (activity key)] <+: events
      ∧ Assoc.find? key (listed (start.run part)) = some (name, before)
      ∧ before ≠ stage ∧ next (start.run part) key name before = stage := by
  induction events using List.reverseRecOn with
  | nil =>
      rw [run, List.foldl_nil, empty] at h
      cases h
  | append_singleton events event ih =>
      have hpart := List.prefix_append events [event]
      have hearlier : Assoc.find? key (listed (start.run events)) = some (name, stage) →
          ∃ part before, part ++ [.step (activity key)] <+: events ++ [event]
            ∧ Assoc.find? key (listed (start.run part)) = some (name, before)
            ∧ before ≠ stage ∧ next (start.run part) key name before = stage := by
        intro hstage
        obtain ⟨part, before, hstep, hbefore, hother, hnext⟩ := ih hstage
        exact ⟨part, before, hstep.trans hpart, hbefore, hother, hnext⟩
      rw [run_append_singleton] at h
      rcases staged h with h | h | ⟨before, rfl, hbefore, hnext⟩
      · exact hearlier h
      · exact absurd h hne
      · by_cases hsame : before = stage
        · subst hsame
          exact hearlier hbefore
        · exact ⟨events, before, List.prefix_rfl, hbefore, hsame, hnext.symm⟩

/-- An activity that is past its first stage has taken its first step. -/
theorem Staged.began (staged : Staged listed begin activity next) (empty : listed start = [])
    (h : Assoc.find? key (listed (start.run events)) = some (name, stage)) (hne : stage ≠ begin) :
    ∃ before, before ++ [.step (activity key)] <+: events
      ∧ Assoc.find? key (listed (start.run before)) = some (name, begin) := by
  induction events using List.reverseRecOn generalizing stage with
  | nil =>
      rw [run, List.foldl_nil, empty] at h
      cases h
  | append_singleton events event ih =>
      have hearlier : ∀ {stage}, stage ≠ begin →
          Assoc.find? key (listed (start.run events)) = some (name, stage) →
            ∃ before, before ++ [.step (activity key)] <+: events ++ [event]
              ∧ Assoc.find? key (listed (start.run before)) = some (name, begin) := by
        intro stage hne hstage
        obtain ⟨before, hstep, hbegin⟩ := ih hstage hne
        exact ⟨before, hstep.trans (List.prefix_append _ _), hbegin⟩
      rw [run_append_singleton] at h
      rcases staged h with h | h | ⟨earlier, rfl, hstage, -⟩
      · exact hearlier hne h
      · exact absurd h hne
      · by_cases hfirst : earlier = begin
        · subst hfirst
          exact ⟨events, List.prefix_rfl, hstage⟩
        · exact hearlier hfirst hstage

end Staged

/-! ## Where a stage leads -/

/-- Of the activities of one kind, each stays at any event where it is, or takes its own step. -/
def Onward {σ : Type} (listed : Crowd → List (Nat × String × σ)) (activity : Nat → Activity)
    (next : Crowd → Nat → String → σ → σ) : Prop :=
  ∀ {crowd : Crowd} {key : Nat} {name : String} {stage : σ},
    Assoc.find? key (listed crowd) = some (name, stage) → ∀ event : Event,
      Assoc.find? key (listed (crowd.happen event)) = some (name, stage)
        ∨ event = .step (activity key)
          ∧ Assoc.find? key (listed (crowd.happen event)) = some (name, next crowd key name stage)

theorem onward_lookups : Onward lookups .lookup
    fun crowd _ name stage => (crowd.stepLookup name stage).2 :=
  lookup_happen

theorem onward_fetches : Onward fetches .fetch
    fun crowd _ name stage => (crowd.stepFetch name stage).2 :=
  fetch_happen

/-- What is true of a stage, and of whatever follows upon such a stage, stays true. -/
theorem Onward.run {σ : Type} {listed : Crowd → List (Nat × String × σ)}
    {activity : Nat → Activity} {next : Crowd → Nat → String → σ → σ} {key : Nat} {name : String}
    {P : σ → Prop} (onward : Onward listed activity next)
    (follows : ∀ {crowd : Crowd} {stage : σ}, P stage → P (next crowd key name stage))
    {crowd : Crowd}
    (h : ∃ stage, Assoc.find? key (listed crowd) = some (name, stage) ∧ P stage)
    (events : List Event) :
    ∃ stage, Assoc.find? key (listed (crowd.run events)) = some (name, stage) ∧ P stage := by
  induction events generalizing crowd with
  | nil => exact h
  | cons event rest ih =>
      obtain ⟨stage, hstage, hholds⟩ := h
      refine ih ?_
      rcases onward hstage event with h | ⟨-, h⟩
      · exact ⟨stage, h, hholds⟩
      · exact ⟨_, h, follows hholds⟩

/-! ## What held at some moment -/

/-- Something held at some moment of a course. -/
def Once (start : Crowd) (events : List Event) (holds : Crowd → Prop) : Prop :=
  ∃ part, part <+: events ∧ holds (start.run part)

theorem once_now (h : holds (start.run events)) : Once start events holds :=
  ⟨events, List.prefix_rfl, h⟩

theorem Once.mono (once : Once start part holds) (h : part <+: events) :
    Once start events holds := by
  obtain ⟨moment, hmoment, hholds⟩ := once
  exact ⟨moment, hmoment.trans h, hholds⟩

theorem Once.snoc (once : Once start events holds) (event : Event) :
    Once start (events ++ [event]) holds :=
  once.mono (List.prefix_append events [event])

/-- What holds after any number of the events holds at every moment. -/
theorem forall_prefix_of_take (holds : Crowd → Prop)
    (h : ∀ length ≤ events.length, holds (start.run (events.take length))) (part : List Event)
    (before : part <+: events) : holds (start.run part) := by
  rw [List.prefix_iff_eq_take.1 before]
  exact h part.length before.length_le

end Crowd

end LiveTemplates
