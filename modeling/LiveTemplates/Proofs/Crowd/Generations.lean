import LiveTemplates.Proofs.Crowd.Closing
import LiveTemplates.Proofs.Crowd.Fresh

set_option autoImplicit false

/-! # One generation for each stale template

A lookup that finds its template stale begins a new generation and takes the template out of the
cache, in two steps, and other things may happen between the two. A lookup that has taken the first
step will take the second, on the very template that it found stale; so there are as many generations
as templates have been taken out, or are just about to be (`Sound.generation_happen`). As numbers of
units are given once, nothing is taken out twice; and as a unit is of a generation that was current
after the launch of its run, what is made by a run launched after a template was taken out is of a
later generation. -/

namespace LiveTemplates

namespace Crowd

variable {crowd start : Crowd} {part events : List Event} {event : Event} {index flight : Nat}
  {name : String} {template : LiveTemplate}

/-- The template that a lookup takes out of the cache in an event, with its name: it is there before
the event, under the name that is looked up, and not after it. -/
def evicted? (crowd : Crowd) : Event → Option (String × LiveTemplate)
  | .step (.lookup index) =>
    match Assoc.find? index crowd.lookups with
    | none => none
    | some (name, _) =>
      match crowd.templates.cache.peek name,
        (crowd.step (.lookup index)).templates.cache.peek name with
      | some template, none => some (name, template)
      | _, _ => none
  | _ => none

/-- The templates that lookups take out of the cache in the course of events, in order. -/
def evictions (crowd : Crowd) : List Event → List (String × LiveTemplate)
  | [] => []
  | event :: rest => (crowd.evicted? event).toList ++ evictions (crowd.happen event) rest

theorem evictions_append (crowd : Crowd) (first second : List Event) :
    crowd.evictions (first ++ second)
      = crowd.evictions first ++ (crowd.run first).evictions second := by
  induction first generalizing crowd with
  | nil => rfl
  | cons event rest ih =>
      rw [List.cons_append, evictions, evictions, ih, List.append_assoc]
      rfl

theorem evictions_append_singleton (crowd : Crowd) (events : List Event) (event : Event) :
    crowd.evictions (events ++ [event])
      = crowd.evictions events ++ ((crowd.run events).evicted? event).toList := by
  rw [evictions_append, evictions, evictions, List.append_nil]

/-- What is taken out in the course of events is taken out in one of them. -/
theorem evicted?_of_mem {entry : String × LiveTemplate} (h : entry ∈ crowd.evictions events) :
    ∃ part event, part ++ [event] <+: events ∧ (crowd.run part).evicted? event = some entry := by
  induction events using List.reverseRecOn with
  | nil => cases h
  | append_singleton events event ih =>
      rw [evictions_append_singleton] at h
      rcases List.mem_append.1 h with h | h
      · obtain ⟨part, other, hpart, hevicted⟩ := ih h
        exact ⟨part, other, hpart.trans (List.prefix_append _ _), hevicted⟩
      · exact ⟨events, event, List.prefix_rfl, Option.mem_toList.1 h⟩

theorem evicted?_eq_some_iff (crowd : Crowd) (event : Event) (name : String)
    (template : LiveTemplate) :
    crowd.evicted? event = some (name, template)
      ↔ ∃ index stage, event = .step (.lookup index)
          ∧ Assoc.find? index crowd.lookups = some (name, stage)
          ∧ crowd.templates.cache.peek name = some template
          ∧ (crowd.happen event).templates.cache.peek name = none := by
  constructor
  · intro h
    unfold evicted? at h
    split at h
    · next index =>
        split at h
        · cases h
        · next other stage hstage =>
            split at h
            · next hbefore hafter =>
                cases h
                exact ⟨index, stage, rfl, hstage, hbefore, hafter⟩
            · cases h
    · cases h
  · rintro ⟨index, stage, rfl, hstage, hbefore, hafter⟩
    rw [happen] at hafter
    simp only [evicted?, hstage, hbefore, hafter]

/-- What a lookup takes out is what it is about to take out. -/
theorem Guarded.evicted?_iff (guarded : crowd.Guarded) (sound : crowd.Sound) :
    crowd.evicted? (.step (.lookup index)) = some (name, template)
      ↔ Assoc.find? index crowd.lookups = some (name, .remove template) := by
  rw [evicted?_eq_some_iff]
  constructor
  · rintro ⟨_, stage, hevent, hstage, hbefore, hafter⟩
    cases hevent
    rcases sound.peek_happen hbefore (.step (.lookup index)) with
      hstays | ⟨other, twin, hevent, hother⟩ | ⟨part, hevent, -, -⟩
    · rw [hafter] at hstays
      cases hstays
    · cases hevent
      obtain rfl := Option.some.inj (hbefore.symm.trans (guarded.there hother))
      exact hother
    · cases hevent
  · intro h
    refine ⟨index, _, rfl, h, guarded.there h, ?_⟩
    rw [happen, step_lookup h]
    exact (crowd.peek_without name name).trans (if_pos rfl)

/-! ## Generations -/

/-- How many lookups have begun a generation and are about to take their template out. -/
def leaving (crowd : Crowd) : Nat :=
  crowd.lookups.countP fun (_, _, stage) => stage.removes

theorem generation_stepMaking (crowd : Crowd) (flight : Nat) (name : String) (stage : MakingStage) :
    (crowd.stepMaking flight name stage).1.units.generation = crowd.units.generation := by
  have hmakes := crowd.makes flight name stage
  generalize (crowd.stepMaking flight name stage).1 = next at hmakes ⊢
  cases hmakes with
  | asks => exact congrArg Units.generation (crowd.units_askResource name)
  | _ => rfl

theorem units_stepLoading (crowd : Crowd) (flight : Nat) (name : String) (stage : LoadingStage) :
    (crowd.stepLoading flight name stage).1.units = crowd.units := by
  cases stage with
  | start =>
      simp only [stepLoading]
      split <;> rfl
  | _ => rfl

theorem units_stepFetch (crowd : Crowd) (name : String) (stage : FetchStage) :
    (crowd.stepFetch name stage).1.units = crowd.units := by
  cases stage with
  | start =>
      rw [stepFetch_start]
      exact crowd.units_askResource name
  | waiting caller =>
      rw [stepFetch_waiting]
      rfl
  | done outcome => rfl

/-- A lookup begins a generation in the step after which it is about to take its template out. -/
theorem generation_stepLookup (crowd : Crowd) (reloadable : crowd.units.reloadable = true)
    (name : String) (stage : LookupStage) :
    (crowd.stepLookup name stage).1.units.generation.value
      = crowd.units.generation.value + (crowd.stepLookup name stage).2.removes.toNat := by
  cases stage with
  | start =>
      rw [stepLookup_start, units_askTemplate]
      dsimp only
      split
      · rcases crowd.withTemplate_cases _ with h | h <;> rw [h] <;> rfl
      · rfl
  | first caller =>
      rw [stepLookup_first]
      dsimp only
      split
      · unfold toldTemplate
        split
        · rcases crowd.withTemplate_cases _ with h | h <;> rw [h] <;> rfl
        · rfl
      · rfl
  | probe template =>
      simp only [stepLookup]
      split <;> rfl
  | judge template current =>
      simp only [stepLookup]
      split
      · rfl
      · unfold Caches.dropSource
        split <;> rfl
  | evict template =>
      simp only [stepLookup]
      split
      · rfl
      · split
        · exact Units.generation_advance reloadable
        · rfl
  | remove template => rfl
  | again =>
      rw [stepLookup_again, units_askTemplate]
      dsimp only
      split <;> rfl
  | second caller =>
      rw [stepLookup_second]
      dsimp only
      split <;> rfl
  | done outcome => rfl

/-- A lookup that has begun a generation takes its template out, and no other lookup takes one. -/
theorem Guarded.length_evicted? (guarded : crowd.Guarded) (sound : crowd.Sound)
    {stage : LookupStage} (h : Assoc.find? index crowd.lookups = some (name, stage)) :
    (crowd.evicted? (.step (.lookup index))).toList.length = stage.removes.toNat := by
  cases hevicted : crowd.evicted? (.step (.lookup index)) with
  | none =>
      cases stage with
      | remove template =>
          rw [(guarded.evicted?_iff sound).2 h] at hevicted
          cases hevicted
      | _ => rfl
  | some taken =>
      have hremoves := (guarded.evicted?_iff sound).1 hevicted
      rw [h] at hremoves
      cases hremoves
      rfl

/-- An event begins a generation if a lookup comes to be about to take its template out, and it takes
a template out if such a lookup goes on. -/
theorem Guarded.generation_happen (guarded : crowd.Guarded) (sound : crowd.Sound)
    (reloadable : crowd.units.reloadable = true) (event : Event) :
    (crowd.happen event).units.generation.value + crowd.leaving
      = crowd.units.generation.value + (crowd.evicted? event).toList.length
        + (crowd.happen event).leaving := by
  cases event with
  | lookup index name =>
      rw [happen, beginLookup]
      split
      · rfl
      · simp [leaving, evicted?, LookupStage.removes]
  | fetch index name =>
      rw [happen, beginFetch]
      split <;> rfl
  | change alter => rfl
  | sweepResources part => rfl
  | sweepTemplates part =>
      rw [happen]
      split <;> rfl
  | step activity =>
      rw [happen]
      cases activity with
      | lookup index =>
          cases hstage : Assoc.find? index crowd.lookups with
          | none => simp [step, evicted?, hstage]
          | some entry =>
              obtain ⟨name, stage⟩ := entry
              have hgeneration := crowd.generation_stepLookup reloadable name stage
              have hcount := Assoc.countP_set (fun (_, _, stage) => LookupStage.removes stage)
                (name, (crowd.stepLookup name stage).2) hstage
              rw [guarded.length_evicted? sound hstage, step_lookup hstage]
              unfold leaving
              dsimp only at hcount ⊢
              omega
      | fetch index =>
          rw [step]
          split
          · rfl
          · next name stage _ =>
              have hlookups := (crowd.calm_stepFetch name stage).lookups
              simp only [leaving, hlookups, crowd.units_stepFetch name stage]
              rfl
      | making flight =>
          rw [step]
          split
          · rfl
          · next name stage _ =>
              have hlookups := crowd.lookups_stepMaking flight name stage
              simp only [leaving, hlookups, crowd.generation_stepMaking flight name stage]
              rfl
      | loading flight =>
          rw [step]
          split
          · rfl
          · next name stage _ =>
              have hlookups := crowd.lookups_stepLoading flight name stage
              simp only [leaving, hlookups, crowd.units_stepLoading flight name stage]
              rfl

/-- There are as many generations as templates were taken out or are just about to be, and the one
that there was. -/
theorem generation_run (idle : start.Idle) (reloadable : start.workshop.reloadable = true)
    (generations : start.units.reloadable = true) (events : List Event) :
    (start.run events).units.generation.value
      = 1 + (start.evictions events).length + (start.run events).leaving := by
  induction events using List.reverseRecOn with
  | nil =>
      have hnone : start.leaving = 0 := by
        rw [leaving, idle.lookups]
        rfl
      exact idle.generation.trans (congrArg (1 + 0 + ·) hnone.symm)
  | append_singleton events event ih =>
      have hreloadable : (start.run events).units.reloadable = true :=
        (idle.sound.leads_run events).units.reloadable_eq.trans generations
      have hhappens := (guarded idle reloadable generations events).generation_happen
        (idle.sound.run events) hreloadable event
      rw [evictions_append_singleton, List.length_append, run_append_singleton]
      omega

/-! ## What was taken out does not come back -/

/-- A template that a run has given, and that is not in the cache at some moment after that, is never
there again. -/
theorem Sound.not_there_again (sound : start.Sound) {moment : List Event}
    (hpart : part <+: moment) (hmoment : moment <+: events)
    (gave : (start.run part).templateSide.Gave name flight template)
    (gone : (start.run moment).templates.cache.peek name = none) :
    (start.run events).templates.cache.slot? name ≠ some (.ready flight template) := by
  intro hback
  have hsound := sound.run moment
  have hlaunched := (sound.run part).templates.ledger.launch_new gave.named
  have hlater := (sound.leads_of_prefix hpart).templates
  have hgrows := (sound.leads_of_prefix hmoment).templates
  have hbelongs := hgrows.belongs (Nat.lt_of_lt_of_le hlaunched hlater.nextFlight_le)
    ((SingleFlight.belongs_iff _ _ _).2 ⟨_, hback, rfl⟩)
  have hpeek : (start.run moment).templates.cache.peek name = some template :=
    hsound.templates.ledger.peek_of_belongs
      (hlater.gave (sound.run part).templates gave).outcome hbelongs
  rw [gone] at hpeek
  cases hpeek

/-- What an event takes out was given by the run that its entry belongs to, and is not there after
it. -/
theorem Sound.of_evicted? (sound : crowd.Sound)
    (evicted : crowd.evicted? event = some (name, template)) :
    (∃ flight, crowd.templates.cache.slot? name = some (.ready flight template)
        ∧ crowd.templateSide.Gave name flight template)
      ∧ (crowd.happen event).templates.cache.peek name = none := by
  obtain ⟨index, stage, -, -, hbefore, hafter⟩ := (evicted?_eq_some_iff _ _ _ _).1 evicted
  exact ⟨sound.gave_of_peek hbefore, hafter⟩

/-- No template is taken out twice. -/
theorem nodup_evictions (idle : start.Idle) (events : List Event) :
    ((start.evictions events).map fun taken => taken.2.unit.id).Nodup := by
  induction events using List.reverseRecOn with
  | nil => exact List.nodup_nil
  | append_singleton events event ih =>
      rw [evictions_append_singleton]
      cases hevicted : (start.run events).evicted? event with
      | none => simpa using ih
      | some taken =>
          obtain ⟨name, template⟩ := taken
          rw [Option.toList_some, List.map_append, List.map_singleton,
            (List.perm_append_singleton _ _).nodup_iff, List.nodup_cons]
          refine ⟨fun hmem => ?_, ih⟩
          obtain ⟨⟨other, twin⟩, htwin, hid⟩ := List.mem_map.1 hmem
          obtain ⟨part, first, hpart, hfirst⟩ := evicted?_of_mem htwin
          have sound := idle.sound
          have hbefore := List.prefix_append part [first]
          obtain ⟨⟨flight, hslot, hgave⟩, -⟩ := (sound.run events).of_evicted? hevicted
          obtain ⟨⟨flight', -, hgave'⟩, hgone⟩ := (sound.run part).of_evicted? hfirst
          have hlater := (sound.leads_of_prefix (hbefore.trans hpart)).templates.gave
            (sound.run part).templates hgave'
          obtain ⟨rfl, rfl, rfl⟩ := same_of_id idle hlater hgave hid
          rw [← run_append_singleton] at hgone
          exact sound.not_there_again hbefore hpart hgave' hgone hslot

/-- What is about to be taken out is what the lookup was told is stale. -/
theorem stale_of_remove (idle : start.Idle) (reloadable : start.workshop.reloadable = true)
    (h : Assoc.find? index (start.run events).lookups = some (name, .remove template)) :
    Stale start events index name template := by
  obtain ⟨_, -, -, hstale⟩ := backed idle reloadable h
  exact hstale

/-- What disappears in a step of a lookup that lookup takes out. -/
theorem Guarded.evicted?_of_gone (guarded : crowd.Guarded) (sound : crowd.Sound)
    (there : crowd.templates.cache.peek name = some template)
    (gone : (crowd.happen (.step (.lookup index))).templates.cache.peek name ≠ some template) :
    crowd.evicted? (.step (.lookup index)) = some (name, template) := by
  rcases sound.peek_happen there (.step (.lookup index)) with
    hstays | ⟨other, twin, hevent, hother⟩ | ⟨part, hevent, -, -⟩
  · exact absurd hstays gone
  · cases hevent
    obtain rfl := Option.some.inj (there.symm.trans (guarded.there hother))
    exact (guarded.evicted?_iff sound).2 hother
  · cases hevent

/-- What a run makes that is launched after a template was taken out is of a later generation. -/
theorem generation_lt (idle : start.Idle) (guarded : (start.run part).Guarded)
    (hpart : part <+: events)
    (evicted : (start.run part).evicted? (.step (.lookup index)) = some (name, template))
    (launched : (start.run part).templates.cache.nextFlight ≤ flight) {other : String}
    {later : LiveTemplate} (gave : (start.run events).templateSide.Gave other flight later) :
    template.unit.generation.value < later.unit.generation.value := by
  have sound := idle.sound
  have hremoves := (guarded.evicted?_iff (sound.run part)).1 evicted
  -- the other one was compiled by a run that was launched after that
  obtain ⟨moment, hmoment, hknown, hgeneration⟩ := generation_of_gave idle gave
  have horder := sound.prefix_of_making hpart hmoment launched hknown
  calc template.unit.generation.value
      < (start.run part).units.generation.value := guarded.older hremoves
    _ ≤ (start.run moment).units.generation.value :=
        (sound.leads_of_prefix horder).units.generation_le
    _ = later.unit.generation.value := congrArg Generation.value hgeneration

/-- In a crowd that began idle, where sources may change, whatever happened: there are as many
generations as lookups took templates out, or have begun a generation for and are about to, and the
one that there was; none is taken out twice; a lookup takes out exactly what it is about to take out,
and that is what this very lookup was told is stale; a template disappears in a step of a lookup only
if it is what the lookup takes out; and whatever is made under any name by a run that was launched
after a template was taken out is of a later generation. -/
theorem one_generation_per_eviction {start : Crowd} (idle : start.Idle)
    (reloadable : start.workshop.reloadable = true) (generations : start.units.reloadable = true)
    (events : List Event) :
    (start.run events).units.generation.value
        = 1 + (start.evictions events).length + (start.run events).leaving
      ∧ ((start.evictions events).map fun taken => taken.2.unit.id).Nodup
      ∧ (∀ {part : List Event} {index : Nat} {name : String} {template : LiveTemplate},
          part ++ [.step (.lookup index)] <+: events →
          ((start.run part).evicted? (.step (.lookup index)) = some (name, template)
              ↔ Assoc.find? index (start.run part).lookups = some (name, .remove template))
            ∧ (Assoc.find? index (start.run part).lookups = some (name, .remove template) →
              Stale start part index name template)
            ∧ ((start.run part).templates.cache.peek name = some template →
              (start.run (part ++ [.step (.lookup index)])).templates.cache.peek name
                ≠ some template →
              (start.run part).evicted? (.step (.lookup index)) = some (name, template)))
      ∧ ∀ {part : List Event} {event : Event} {name other : String} {template later : LiveTemplate}
          {flight : Nat}, part ++ [event] <+: events →
          (start.run part).evicted? event = some (name, template) →
          (start.run part).templates.cache.nextFlight ≤ flight →
          (start.run events).templateSide.Gave other flight later →
          template.unit.generation.value < later.unit.generation.value := by
  have sound := idle.sound
  have hguarded := guarded idle reloadable generations
  refine ⟨generation_run idle reloadable generations events, nodup_evictions idle events, ?_, ?_⟩
  · intro part index name template _
    rw [run_append_singleton]
    exact ⟨(hguarded part).evicted?_iff (sound.run part), stale_of_remove idle reloadable,
      (hguarded part).evicted?_of_gone (sound.run part)⟩
  · intro part event name other template later flight hpart evicted launched gave
    obtain ⟨index, _, rfl, -⟩ := (evicted?_eq_some_iff _ _ _ _).1 evicted
    exact generation_lt idle (hguarded part) (prefix_of_followed hpart) evicted launched gave

theorem generation_of_lostRace :
    (overStore.run lostRace).units.generation.value = 2
      ∧ (∃ old new, overStore.evictions lostRace = [("/a", old)]
          ∧ (overStore.run lostRace).templateSide.Gave "/a" 1 new
          ∧ old.unit.generation.value < new.unit.generation.value)
      -- the first lookup has begun a generation, but the old template is still there
      ∧ (overStore.run (lostRace.take 27)).units.generation.value = 2
      ∧ overStore.evictions (lostRace.take 27) = []
      ∧ (overStore.run (lostRace.take 27)).leaving = 1 := by
  have idle : overStore.Idle := idle_ofCaches _ _ _ _
  obtain ⟨hcount, -, -, hlater⟩ := one_generation_per_eviction idle rfl rfl lostRace
  obtain ⟨hhalf, -, -, -⟩ := one_generation_per_eviction idle rfl rfl (lostRace.take 27)
  have once : overStore.evictions lostRace
      = [("/a",
          { name := some "/a"
            unit := ⟨1, "/a", ⟨1⟩, fun _ => .ok "old"⟩
            fingerprint := some ⟨1⟩, source := "old", engine := 0 })] := by rfl
  have gave : (overStore.run lostRace).templateSide.Gave "/a" 1
      { name := some "/a"
        unit := ⟨2, "/a", ⟨2⟩, fun _ => .ok "new"⟩
        fingerprint := some ⟨2⟩, source := "new", engine := 0 } := ⟨rfl, rfl⟩
  have none : overStore.evictions (lostRace.take 27) = [] := by rfl
  have leaves : (overStore.run (lostRace.take 27)).leaving = 1 := by rfl
  have hpart : lostRace.take 27 ++ [.step (.lookup 0)] <+: lostRace := ⟨lostRace.drop 28, rfl⟩
  have launched : (overStore.run (lostRace.take 27)).templates.cache.nextFlight ≤ 1 :=
    Nat.le_of_eq rfl
  refine ⟨?_, ⟨_, _, once, gave, hlater hpart rfl launched gave⟩, ?_, none, leaves⟩
  · rw [hcount, once]
    rfl
  · rw [hhalf, none, leaves]
    rfl

end Crowd

end LiveTemplates
