import LiveTemplates.Proofs.Crowd.Lookups
import LiveTemplates.Proofs.Crowd.Trust

set_option autoImplicit false

/-! # What is returned was current during the call

Whatever order a crowd takes its steps in, the template that a lookup returns bears the mark that its
source had at some moment while the lookup was under way, and was compiled from the text that the
source had at that moment (`fresh_within_call`). A lookup that is told the mark of its template saw
that moment itself. One that returns a template without asking again has it from a run that was
launched after the lookup began, and that run compiled what it was told the mark of, or what was
loaded by a run launched later still. -/

namespace LiveTemplates

namespace Crowd

variable {start : Crowd} {part events : List Event} {index flight : Nat} {name : String}
  {content : World → String → Option String}

/-- A source has the mark and the text of a resource. -/
def Shows (source : Source) (content : World → String → Option String) (world : World)
    (name : String) (resource : Resource) : Prop :=
  source.fingerprint world name = .ok (some resource.fingerprint)
    ∧ content world name = some resource.content

/-! ## What is compiled -/

/-- A resource that a run has given was there after the launch of that run. -/
theorem shown_of_gave (idle : start.Idle) (trusts : Trusts start events content)
    {resource : Resource} (gave : (start.run events).resourceSide.Gave name flight resource) :
    ∃ part, part <+: events ∧ flight < (start.run part).resources.cache.nextFlight
      ∧ Shows start.workshop.source content (start.run part).world name resource := by
  obtain ⟨part, hpart, hlaunched, hload⟩ := loadedBy_of_gave idle gave
  rw [idle.sound.workshop_run] at hload
  exact ⟨part, hpart, hlaunched, trusts.atomic hpart hload⟩

/-- What a run compiles was there at some moment after the launch of that run. -/
theorem shown_of_compiles (idle : start.Idle) (reloadable : start.workshop.reloadable = true)
    (trusts : Trusts start events content) {resource : Resource} {program : Runnable}
    {generation : Generation}
    (compiles : Compiles start events flight name resource program generation) :
    ∃ part, part <+: events ∧ flight < (start.run part).templates.cache.nextFlight
      ∧ Shows start.workshop.source content (start.run part).world name resource := by
  have sound := idle.sound
  obtain ⟨loading, hgave, hknown⟩ := sourced idle reloadable compiles.stage
  rcases hknown with ⟨part, hpart, hstage, hmark⟩ | ⟨part, hpart, hpast, hlater⟩
  · -- the mark was told, so the text was the one that was loaded before
    refine ⟨part, hpart, (sound.run part).templates.lt_nextFlight hstage, ?_⟩
    rw [sound.workshop_run] at hmark
    obtain ⟨_, hgave, -⟩ := sourced idle reloadable hstage
    obtain ⟨loaded, hloaded, -, hwas, hcontent⟩ :=
      shown_of_gave idle (trusts.initial hpart) hgave
    exact ⟨hmark, (trusts.lasting hloaded hpart hwas hmark).trans hcontent⟩
  · -- the run that loaded it was launched when this one was under way
    obtain ⟨loaded, hloaded, hlaunched, hshows⟩ := shown_of_gave idle trusts hgave
    have horder := sound.prefix_of_loading hpart hloaded hlater hlaunched
    exact ⟨loaded, hloaded, Nat.lt_of_lt_of_le hpast
      (sound.leads_of_prefix horder).templates.nextFlight_le, hshows⟩

/-- What a template was made from was there at some moment after the launch of the run that gave
it. -/
theorem shown_of_made (idle : start.Idle) (reloadable : start.workshop.reloadable = true)
    (trusts : Trusts start events content) {template : LiveTemplate}
    (gave : (start.run events).templateSide.Gave name flight template) :
    ∃ part resource, part <+: events ∧ flight < (start.run part).templates.cache.nextFlight
      ∧ template.MadeFrom start.workshop name resource
      ∧ Shows start.workshop.source content (start.run part).world name resource := by
  obtain ⟨moment, defining, resource, _, hdefining, hdefines⟩ := defines_of_gave idle gave
  have hmoment := (prefix_of_followed hdefines.earlier).trans (prefix_of_followed hdefining)
  obtain ⟨part, hpart, hlaunched, hshows⟩ :=
    shown_of_compiles idle reloadable (trusts.initial hmoment) hdefines.compiles
  exact ⟨part, resource, hpart.trans hmoment, hlaunched, hdefines.madeFrom, hshows⟩

/-! ## What is returned -/

/-- What a lookup is about to return is current at some moment while it is under way. -/
theorem current_of_returns (idle : start.Idle) (reloadable : start.workshop.reloadable = true)
    (trusts : Trusts start events content) {template : LiveTemplate}
    (returns : Returns start events index name template) :
    ∃ part resource, part <+: events ∧ UnderWay index name (start.run part)
      ∧ template.MadeFrom start.workshop name resource
      ∧ Shows start.workshop.source content (start.run part).world name resource := by
  have sound := idle.sound
  obtain ⟨hunder, flight, hgave, hknown⟩ := returns
  rcases hknown with ⟨part, hpart, hstage, hmark⟩ | ⟨part, hpart, hbegun, hlater⟩
  · -- the mark was told, so the text was the one that had been compiled
    rw [sound.workshop_run] at hmark
    obtain ⟨_, hgave, -⟩ := backed idle reloadable hstage
    obtain ⟨made, resource, hmade, -, hfrom, hwas, hcontent⟩ :=
      shown_of_made idle reloadable (trusts.initial hpart) hgave
    rw [hfrom.fingerprint_eq] at hmark
    exact ⟨part, resource, hpart, ⟨_, hstage, by simp, by simp⟩, hfrom, hmark,
      (trusts.lasting hmade hpart hwas hmark).trans hcontent⟩
  · -- the run that made it was launched when the lookup was under way
    obtain ⟨made, resource, hmade, hlaunched, hfrom, hshows⟩ :=
      shown_of_made idle reloadable trusts hgave
    obtain ⟨during, rfl⟩ := sound.prefix_of_making hpart hmade hlater hlaunched
    obtain ⟨rest, rfl⟩ := hmade
    rw [List.append_assoc, run_append] at hunder
    have hnow := underWay_between hbegun hunder (List.prefix_append during rest)
    rw [← run_append] at hnow
    exact ⟨part ++ during, resource, List.prefix_append _ _, hnow, hfrom, hshows⟩

/-- In a crowd that began idle, where sources may change, and that relies on its source rightly:
whatever happened, the template that a lookup has returned bears the mark that its source had at some
moment when the lookup had taken its first step and had not returned, and was compiled from the text
that the source had at that moment. -/
theorem fresh_within_call {start : Crowd} (idle : start.Idle)
    (reloadable : start.workshop.reloadable = true) (events : List Event)
    {content : World → String → Option String} (trusts : Trusts start events content)
    {index : Nat} {name : String} {template : LiveTemplate}
    (returned : Assoc.find? index (start.run events).lookups
      = some (name, .done (.ok template))) :
    ∃ part, part <+: events ∧ UnderWay index name (start.run part)
      ∧ start.workshop.source.fingerprint (start.run part).world name = .ok template.fingerprint
      ∧ ∃ resource, template.MadeFrom start.workshop name resource
          ∧ content (start.run part).world name = some resource.content := by
  obtain ⟨before, hbefore, hreturns⟩ := backed idle reloadable returned
  obtain ⟨part, resource, hpart, hunder, hfrom, hmark, hcontent⟩ :=
    current_of_returns idle reloadable (trusts.initial hbefore) hreturns
  refine ⟨part, hpart.trans hbefore, hunder, ?_, resource, hfrom, hcontent⟩
  rw [hmark, hfrom.fingerprint_eq]

/-- A crowd over one store, with a compiler whose templates print their source. -/
def overStore : Crowd :=
  ofCaches
    { source := (Loader.memory 0).source
      compiler := fun _ text => .program fun _ => .ok text
      reloadable := true, engine := 0 }
    { stores := [{}] } { units := { reloadable := true, directory := none } }

/-- A source is put into the store. -/
def put (spelling text : String) : Event :=
  .change fun world => world.setStore 0 ((world.store 0).insert spelling text).1

theorem put_revises (spelling text : String) : (put spelling text).Revises 0 := by
  intro world
  obtain hsame | ⟨-, hput⟩ :=
    world.store_setStore_cases 0 0 ((world.store 0).insert spelling text).1
  · exact .inl hsame
  · exact .inr (.inl ⟨spelling, text, hput⟩)

/-- Two lookups find the same old template. The first is about to take it out; until it has done so,
the second waits, and all entries cannot be taken out. Then the second finds that another template is
already being made, waits for it and returns it. -/
def lostRace : List Event :=
  [put "a" "old", .lookup 0 "/a", .lookup 1 "/a"]
    ++ [.lookup 0, .lookup 1, .making 0, .loading 0, .loading 0, .loading 0, .making 0, .making 0,
        .making 0, .making 0, .making 0, .making 0, .making 0, .making 0].map .step
    ++ [put "a" "new"]
    ++ [.lookup 0, .lookup 0, .lookup 1, .lookup 1, .lookup 0, .lookup 1, .lookup 0, .lookup 1].map
        .step
    ++ [.sweepTemplates fun _ => true]
    ++ [.lookup 0, .lookup 0, .lookup 1, .lookup 1, .making 1, .loading 1, .loading 1, .loading 1,
        .making 1, .making 1, .making 1, .making 1, .making 1, .making 1, .making 1, .making 1,
        .lookup 1].map .step

theorem inMemory_lostRace : overStore.InMemory lostRace 0 where
  source_eq := rfl
  bounded := MemoryStore.bounded_empty
  revises := by
    have hsteps (activities : List Activity) :
        ∀ event ∈ activities.map Event.step, event.Revises 0 :=
      List.forall_mem_map.2 fun _ _ => trivial
    simp only [lostRace, List.forall_mem_append]
    refine ⟨⟨⟨⟨⟨?_, hsteps _⟩, List.forall_mem_singleton.2 (put_revises _ _)⟩, hsteps _⟩,
      List.forall_mem_singleton.2 trivial⟩, hsteps _⟩
    simp only [List.forall_mem_cons]
    exact ⟨put_revises _ _, trivial, trivial, nofun⟩
  room := by decide

theorem current_of_lostRace :
    ∃ template, Assoc.find? 1 (overStore.run lostRace).lookups = some ("/a", .done (.ok template))
      ∧ template.source = "new"
      ∧ ∃ part, part <+: lostRace ∧ UnderWay 1 "/a" (overStore.run part)
        ∧ (Loader.memory 0).source.fingerprint (overStore.run part).world "/a"
          = .ok template.fingerprint := by
  have returned : Assoc.find? 1 (overStore.run lostRace).lookups
      = some ("/a", .done (.ok
          { name := some "/a"
            unit := ⟨2, "/a", ⟨2⟩, fun _ => .ok "new"⟩
            fingerprint := some ⟨2⟩, source := "new", engine := 0 })) := by rfl
  obtain ⟨part, hpart, hunder, hmark, -⟩ :=
    fresh_within_call (idle_ofCaches _ _ _ _) rfl lostRace inMemory_lostRace.trusts returned
  exact ⟨_, returned, rfl, part, hpart, hunder, hmark⟩

end Crowd

end LiveTemplates
