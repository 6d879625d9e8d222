import LiveTemplates.Proofs.Crowd.Lookups

set_option autoImplicit false

/-! # Closed entries

Units are numbered, and each number is given once, so two templates of one number are the same
template, given by the same run (`same_of_id`). A template that is in the cache leaves it in two
ways only (`Sound.peek_happen`): a lookup that is about to take the template of its name out does so,
or all entries of some names are taken out, none of which is closed.

So between the step in which a lookup begins a generation and the one in which it takes its template
out, that template stays where it is and nobody else is about to take it out (`Guarded`). -/

namespace LiveTemplates

theorem Units.generation_advance {units : Units} (reloadable : units.reloadable = true) :
    units.advance.generation.value = units.generation.value + 1 := by
  rw [advance, if_pos reloadable]

namespace Crowd

variable {crowd start : Crowd} {moment part events : List Event} {event : Event} {index flight : Nat}
  {name : String} {template : LiveTemplate}

/-! ## Numbers of units -/

/-- A run that makes a template of a unit uses a number up. -/
theorem Defines.nextId {resource : Resource} {program : Runnable}
    (defines : Defines start moment part flight name resource program template) :
    template.unit.id = (start.run part).units.nextId
      ∧ (start.run (part ++ [.step (.making flight)])).units.nextId
        = (start.run part).units.nextId + 1 := by
  refine ⟨congrArg (fun template => template.unit.id) defines.template_eq, ?_⟩
  rw [run_append_singleton, happen, step_making defines.stage]
  rfl

/-- A unit is of the generation that was current at some moment after the launch of its run. -/
theorem generation_of_gave (idle : start.Idle)
    (gave : (start.run events).templateSide.Gave name flight template) :
    ∃ moment, moment <+: events ∧ flight < (start.run moment).templates.cache.nextFlight
      ∧ (start.run moment).units.generation = template.unit.generation := by
  obtain ⟨moment, part, _, _, hpart, hdefines⟩ := defines_of_gave idle gave
  exact ⟨moment, (prefix_of_followed hdefines.earlier).trans (prefix_of_followed hpart),
    (idle.sound.run moment).templates.lt_nextFlight hdefines.compiles.stage,
    hdefines.compiles.current⟩

theorem generation_le (idle : start.Idle)
    (gave : (start.run events).templateSide.Gave name flight template) :
    template.unit.generation.value ≤ (start.run events).units.generation.value := by
  obtain ⟨moment, hmoment, -, hgeneration⟩ := generation_of_gave idle gave
  exact hgeneration ▸ (idle.sound.leads_of_prefix hmoment).units.generation_le

/-- Of two runs, one takes its number before the other takes its own. -/
theorem flight_eq_of_id (sound : start.Sound) {first second : Nat} {earlier later : List Event}
    (hfirst : earlier ++ [.step (.making first)] <+: later ++ [.step (.making second)])
    (uses : (start.run (earlier ++ [.step (.making first)])).units.nextId
      = (start.run earlier).units.nextId + 1)
    (same : (start.run earlier).units.nextId = (start.run later).units.nextId) :
    first = second := by
  rcases List.prefix_concat_iff.1 hfirst with h | h
  · obtain ⟨-, hevent⟩ := List.append_inj' h rfl
    cases hevent
    rfl
  · have hle := (sound.leads_of_prefix h).units.nextId_le
    omega

/-- Two templates of one number are the same, and were given by the same run. -/
theorem same_of_id (idle : start.Idle) {name other : String} {first second : Nat}
    {template twin : LiveTemplate} (gave : (start.run events).templateSide.Gave name first template)
    (also : (start.run events).templateSide.Gave other second twin)
    (same : template.unit.id = twin.unit.id) : first = second ∧ name = other ∧ template = twin := by
  have sound := idle.sound
  obtain ⟨_, part, _, _, hpart, hdefines⟩ := defines_of_gave idle gave
  obtain ⟨_, part', _, _, hpart', hdefines'⟩ := defines_of_gave idle also
  obtain ⟨hid, huses⟩ := hdefines.nextId
  obtain ⟨hid', huses'⟩ := hdefines'.nextId
  have hsame : (start.run part).units.nextId = (start.run part').units.nextId :=
    hid.symm.trans (same.trans hid')
  have hflight : first = second := by
    rcases List.prefix_or_prefix_of_prefix hpart hpart' with h | h
    · exact flight_eq_of_id sound h huses hsame
    · exact (flight_eq_of_id sound h huses' hsame.symm).symm
  subst hflight
  have hnamed := gave.named.symm.trans also.named
  have houtcome := gave.outcome.symm.trans also.outcome
  cases hnamed
  cases houtcome
  exact ⟨rfl, rfl, rfl⟩

/-- A template that is in the cache was given by the run that its entry belongs to. -/
theorem Sound.gave_of_peek (sound : crowd.Sound)
    (there : crowd.templates.cache.peek name = some template) :
    ∃ flight, crowd.templates.cache.slot? name = some (.ready flight template)
      ∧ crowd.templateSide.Gave name flight template := by
  obtain ⟨flight, hslot⟩ := (SingleFlight.peek_eq_some_iff _ _ _).1 there
  exact ⟨flight, hslot, (sound.templates.ledger.last hslot).1, sound.templates.ledger.ready hslot⟩

/-- What is the same as a template that a run gave, and is in the cache, is that template. -/
theorem peek_of_has (idle : start.Idle)
    (gave : (start.run events).templateSide.Gave name flight template)
    (has : (start.run events).caches.has name template = true) :
    (start.run events).templates.cache.peek name = some template := by
  obtain ⟨twin, hthere, hsame⟩ := (Option.any_eq_true _ _).1 has
  obtain ⟨_, -, hgave⟩ := (idle.sound.run events).gave_of_peek hthere
  have hid : template.unit.id = twin.unit.id := by
    simp only [LiveTemplate.isSame, Bool.and_eq_true, decide_eq_true_eq] at hsame
    exact hsame.2
  obtain ⟨-, -, rfl⟩ := same_of_id idle gave hgave hid
  exact hthere

/-! ## How a template leaves the cache -/

theorem peek_askTemplate (crowd : Crowd) (called name : String) :
    (crowd.askTemplate called).templates.cache.peek name = crowd.templates.cache.peek name := by
  have hside := congrArg (fun side => side.traffic.cache) (crowd.templateSide_askTemplate called)
  have hcache : (crowd.askTemplate called).templates.cache
      = (crowd.templates.cache.lookup called).1 :=
    hside.trans (crowd.templates.call_cache crowd.nextCaller called)
  unfold SingleFlight.peek
  rw [hcache, SingleFlight.slot?_lookup]
  by_cases h : name = called ∧ crowd.templates.cache.slot? called = none
  · obtain ⟨rfl, hnone⟩ := h
    rw [if_pos ⟨rfl, hnone⟩, hnone]
  · rw [if_neg h]

theorem peek_without (crowd : Crowd) (name other : String) :
    (crowd.without name).templates.cache.peek other
      = if other = name then none else crowd.templates.cache.peek other := by
  rw [SingleFlight.peek, slot?_without]
  by_cases h : other = name
  · rw [if_pos h, if_pos h]
  · rw [if_neg h, if_neg h, SingleFlight.peek]

/-- A lookup leaves the templates in the cache where they are, unless it is about to take one out. -/
theorem Sound.peek_stepLookup (sound : crowd.Sound)
    (there : crowd.templates.cache.peek name = some template) (looked : String)
    (stage : LookupStage) :
    (crowd.stepLookup looked stage).1.templates.cache.peek name = some template
      ∨ looked = name ∧ ∃ twin, stage = .remove twin := by
  have hlooks := crowd.looks looked stage
  generalize (crowd.stepLookup looked stage).1 = next at hlooks ⊢
  cases hlooks with
  | still => exact .inl there
  | asks => exact .inl ((crowd.peek_askTemplate looked name).trans there)
  | receives caller =>
      rcases sound.templates.ledger.peek_step there (.receive caller) with h | h | ⟨_, h⟩ | ⟨_, h, -⟩
      · exact .inl h
      all_goals cases h
  | drops found =>
      unfold withoutSource Caches.dropSource
      split <;> exact .inl there
  | advances _ _ _ => exact .inl there
  | removes twin =>
      by_cases hname : name = looked
      · exact .inr ⟨hname.symm, twin, rfl⟩
      · exact .inl ((crowd.peek_without looked name).trans ((if_neg hname).trans there))

/-- A run for a template leaves the templates in the cache where they are. -/
theorem Sound.peek_stepMaking (sound : crowd.Sound)
    (there : crowd.templates.cache.peek name = some template) (flight : Nat) (made : String)
    (stage : MakingStage) :
    (crowd.stepMaking flight made stage).1.templates.cache.peek name = some template := by
  have hmakes := crowd.makes flight made stage
  generalize (crowd.stepMaking flight made stage).1 = next at hmakes ⊢
  have hkeeps := sound.templates.ledger.peek_step there
  cases hmakes with
  | asks =>
      have hside := congrArg Side.traffic (crowd.templateSide_askResource made)
      exact (congrArg (fun traffic => traffic.cache.peek name) hside).trans there
  | ends ending =>
      rcases hkeeps (.finish flight ending) with h | h | ⟨_, h⟩ | ⟨_, h, -⟩
      · exact h
      all_goals cases h
  | reports =>
      rcases hkeeps (.report flight) with h | h | ⟨_, h⟩ | ⟨_, h, -⟩
      · exact h
      all_goals cases h
  | _ => exact there

theorem templates_stepLoading_eq (crowd : Crowd) (flight : Nat) (name : String)
    (stage : LoadingStage) : (crowd.stepLoading flight name stage).1.templates = crowd.templates := by
  cases stage with
  | start =>
      simp only [stepLoading]
      split <;> rfl
  | _ => rfl

theorem templates_stepFetch (crowd : Crowd) (name : String) (stage : FetchStage) :
    (crowd.stepFetch name stage).1.templates = crowd.templates := by
  cases stage with
  | start =>
      rw [stepFetch_start]
      exact congrArg Side.traffic (crowd.templateSide_askResource name)
  | waiting caller =>
      rw [stepFetch_waiting]
      rfl
  | done outcome => rfl

/-- A template that is in the cache stays there, unless a lookup that is about to take the template
of its name out does so, or the templates of some names are taken out. -/
theorem Sound.peek_happen (sound : crowd.Sound)
    (there : crowd.templates.cache.peek name = some template) (event : Event) :
    (crowd.happen event).templates.cache.peek name = some template
      ∨ (∃ index twin, event = .step (.lookup index)
          ∧ Assoc.find? index crowd.lookups = some (name, .remove twin))
      ∨ ∃ part, event = .sweepTemplates part ∧ part name = true ∧ crowd.isClosed part = false := by
  cases event with
  | lookup index looked =>
      rw [happen, beginLookup]
      split <;> exact .inl there
  | fetch index fetched =>
      rw [happen, beginFetch]
      split <;> exact .inl there
  | change alter => exact .inl there
  | sweepResources part => exact .inl there
  | sweepTemplates part =>
      rw [happen]
      split
      · exact .inl there
      · next hopened =>
          rcases sound.templates.ledger.peek_step there (.sweep part) with
            h | h | ⟨_, h⟩ | ⟨_, h, hpart⟩
          · exact .inl h
          · cases h
          · cases h
          · cases h
            exact .inr (.inr ⟨part, rfl, hpart, by simpa using hopened⟩)
  | step activity =>
      rw [happen]
      have hsteps := crowd.steps activity
      generalize crowd.step activity = next at hsteps ⊢
      cases hsteps with
      | absent => exact .inl there
      | @lookup index looked stage h =>
          rcases sound.peek_stepLookup there looked stage with hstays | ⟨rfl, twin, rfl⟩
          · exact .inl hstays
          · exact .inr (.inl ⟨index, twin, rfl, h⟩)
      | @fetch index fetched stage h =>
          exact .inl (by rw [crowd.templates_stepFetch fetched stage, there])
      | @making flight made stage h => exact .inl (sound.peek_stepMaking there flight made stage)
      | @loading flight loaded stage h =>
          exact .inl (by rw [crowd.templates_stepLoading_eq flight loaded stage, there])

/-! ## Lookups that are about to take a template out -/

/-- What is not closed nobody is about to take out. -/
theorem part_eq_false_of_isClosed {part : String → Bool} (opened : crowd.isClosed part = false)
    (h : Assoc.find? index crowd.lookups = some (name, .remove template)) : part name = false := by
  rw [isClosed, List.any_eq_false] at opened
  simpa [LookupStage.removes] using opened _ (Assoc.mem_of_find? h)

theorem stepLookup_closes (opened : crowd.isClosed (fun other => other = name) = false)
    (there : crowd.caches.has name template = true) :
    crowd.stepLookup name (.evict template) = (crowd.advanced, .remove template) := by
  simp only [stepLookup, opened, there]
  rfl

/-- A lookup that is about to take a template out was so before, or has just closed the entry. -/
theorem remove_of_happen
    (h : Assoc.find? index (crowd.happen event).lookups = some (name, .remove template)) :
    Assoc.find? index crowd.lookups = some (name, .remove template)
      ∨ event = .step (.lookup index)
        ∧ Assoc.find? index crowd.lookups = some (name, .evict template)
        ∧ crowd.isClosed (fun other => other = name) = false
        ∧ crowd.caches.has name template = true := by
  rcases lookup_of_happen h with h | h | ⟨earlier, hevent, hstage, hnext⟩
  · exact .inl h
  · cases h
  · have hturn := crowd.lookupTurn name earlier
    rw [← hnext] at hturn
    cases hturn with
    | finds _ hstages | asks _ _ hstages | waits hstages =>
        rcases hstages with hstages | hstages <;> cases hstages
    | closes _ hopened hthere => exact .inr ⟨hevent, hstage, hopened, hthere⟩

/-- Where a lookup is about to take a template out: the template is in the cache, no other lookup is
about to take the template of that name out, and a generation has begun since it was compiled. -/
structure Guarded (crowd : Crowd) : Prop where
  there {index : Nat} {name : String} {template : LiveTemplate}
    (h : Assoc.find? index crowd.lookups = some (name, .remove template)) :
    crowd.templates.cache.peek name = some template
  alone {index other : Nat} {name : String} {template twin : LiveTemplate}
    (h : Assoc.find? index crowd.lookups = some (name, .remove template))
    (also : Assoc.find? other crowd.lookups = some (name, .remove twin)) : index = other
  older {index : Nat} {name : String} {template : LiveTemplate}
    (h : Assoc.find? index crowd.lookups = some (name, .remove template)) :
    template.unit.generation.value < crowd.units.generation.value

/-- No event changes anything about that. -/
theorem Guarded.snoc (idle : start.Idle) (reloadable : start.workshop.reloadable = true)
    (generations : start.units.reloadable = true) (guarded : (start.run events).Guarded)
    (event : Event) : ((start.run events).happen event).Guarded where
  there {index name template} h := by
    have hsound := idle.sound.run events
    rcases remove_of_happen h with hbefore | ⟨rfl, hstage, -, hhas⟩
    · rcases hsound.peek_happen (guarded.there hbefore) event with
        hstays | ⟨other, twin, rfl, hother⟩ | ⟨part, rfl, hpart, hopened⟩
      · exact hstays
      · -- it would be the lookup itself, which is not about to take anything out any more
        obtain rfl := guarded.alone hbefore hother
        rw [happen, step_lookup hother] at h
        dsimp only at h
        rw [Assoc.find?_set, if_pos rfl] at h
        cases h
      · rw [part_eq_false_of_isClosed hopened hbefore] at hpart
        cases hpart
    · obtain ⟨flight, hgave, -, -⟩ := backed idle reloadable hstage
      rcases hsound.peek_happen (peek_of_has idle hgave hhas) (.step (.lookup index)) with
        hstays | ⟨other, twin, hevent, hother⟩ | ⟨part, hevent, -, -⟩
      · exact hstays
      · cases hevent
        rw [hstage] at hother
        cases hother
      · cases hevent
  alone {index other name template twin} h also := by
    rcases remove_of_happen h with hbefore | ⟨rfl, -, hopened, -⟩
    · rcases remove_of_happen also with halso | ⟨-, -, hopened, -⟩
      · exact guarded.alone hbefore halso
      · exact absurd rfl (of_decide_eq_false (part_eq_false_of_isClosed hopened hbefore))
    · rcases remove_of_happen also with halso | ⟨hevent, -, -, -⟩
      · exact absurd rfl (of_decide_eq_false (part_eq_false_of_isClosed hopened halso))
      · cases hevent
        rfl
  older {index name template} h := by
    have hsound := idle.sound.run events
    rcases remove_of_happen h with hbefore | ⟨rfl, hstage, hopened, hhas⟩
    · exact Nat.lt_of_lt_of_le (guarded.older hbefore)
        (hsound.leads_happen event).units.generation_le
    · obtain ⟨flight, hgave, -, -⟩ := backed idle reloadable hstage
      have hreloadable : (start.run events).units.reloadable = true :=
        (idle.sound.leads_run events).units.reloadable_eq.trans generations
      rw [happen, step_lookup hstage, stepLookup_closes hopened hhas]
      calc template.unit.generation.value
          ≤ (start.run events).units.generation.value := generation_le idle hgave
        _ < (start.run events).units.advance.generation.value := by
            rw [Units.generation_advance hreloadable]
            exact Nat.lt_succ_self _

theorem guarded (idle : start.Idle) (reloadable : start.workshop.reloadable = true)
    (generations : start.units.reloadable = true) (events : List Event) :
    (start.run events).Guarded := by
  induction events using List.reverseRecOn with
  | nil =>
      have hnone {index : Nat} {entry : String × LookupStage} :
          Assoc.find? index start.lookups ≠ some entry := by
        rw [idle.lookups]
        nofun
      exact ⟨fun h => absurd h hnone, fun h => absurd h hnone, fun h => absurd h hnone⟩
  | append_singleton events event ih =>
      rw [run_append_singleton]
      exact ih.snoc idle reloadable generations event

end Crowd

end LiveTemplates
