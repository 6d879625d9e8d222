import LiveTemplates.Proofs.Crowd.Moments

set_option autoImplicit false

/-! # What a crowd relies on

Where sources may change, a crowd goes by marks, and nothing forces a source to keep to what `Trusts`
says. A store in memory does: no activity writes to it, so if whoever owns it only inserts and
removes, and there are marks enough, a crowd relies on it rightly (`InMemory.trusts`). -/

namespace LiveTemplates

namespace Crowd

variable {crowd start : Crowd} {part events : List Event} {index : Nat}
  {content : World → String → Option String}

/-- What an engine relies on in the course of events, where a source has some text under each name at
each moment: what is loaded bears the mark and the text of one moment, and a mark that was told when
there was one text is never told when there is another. -/
structure Trusts (start : Crowd) (events : List Event)
    (content : World → String → Option String) : Prop where
  atomic {part : List Event} (h : part <+: events) {name : String} {resource : Resource}
    (loads : start.workshop.source.load (start.run part).world name = .ok (some resource)) :
    start.workshop.source.fingerprint (start.run part).world name
        = .ok (some resource.fingerprint)
      ∧ content (start.run part).world name = some resource.content
  lasting {earlier later : List Event} (first : earlier <+: later) (second : later <+: events)
    {name : String} {mark : Fingerprint}
    (was : start.workshop.source.fingerprint (start.run earlier).world name = .ok (some mark))
    (is : start.workshop.source.fingerprint (start.run later).world name = .ok (some mark)) :
    content (start.run later).world name = content (start.run earlier).world name

theorem Trusts.initial (trusts : Trusts start events content) (h : part <+: events) :
    Trusts start part content where
  atomic hpart := trusts.atomic (hpart.trans h)
  lasting first second := trusts.lasting first (second.trans h)

/-! ## Stores in memory -/

/-- Only a change of the world changes what is in the stores. -/
theorem stores_happen (crowd : Crowd) {event : Event} (quiet : ∀ alter, event ≠ .change alter) :
    (crowd.happen event).world.stores = crowd.world.stores := by
  cases event with
  | lookup index name =>
      rw [happen, beginLookup]
      split <;> rfl
  | fetch index name =>
      rw [happen, beginFetch]
      split <;> rfl
  | change alter => exact absurd rfl (quiet alter)
  | sweepResources part => rfl
  | sweepTemplates part =>
      rw [happen]
      split <;> rfl
  | step activity =>
      rw [happen]
      have hsteps := crowd.steps activity
      generalize crowd.step activity = next at hsteps ⊢
      cases hsteps with
      | absent => rfl
      | @lookup index name stage h => exact (crowd.calm_stepLookup name stage).stores
      | @fetch index name stage h => exact (crowd.calm_stepFetch name stage).stores
      | @making flight name stage h =>
          rcases crowd.calm_stepMaking flight name stage with hcalm | ⟨ending, -, heq⟩
          · exact hcalm.stores
          · dsimp only
            rw [heq]
      | @loading flight name stage h =>
          rcases crowd.calm_stepLoading flight name stage with hcalm | ⟨ending, -, heq⟩
          · exact hcalm.stores
          · dsimp only
            rw [heq]

/-- An event changes a store in no other way than by inserting or removing a source. -/
def Event.Revises (index : Nat) : Event → Prop
  | .change alter => ∀ world, (alter world).store index = world.store index
      ∨ (∃ spelling content,
          (alter world).store index = ((world.store index).insert spelling content).1)
      ∨ ∃ spelling, (alter world).store index = ((world.store index).remove spelling).1
  | _ => True

/-- In one event a store moves on by one mark at most. -/
theorem store_happen {event : Event} (revises : event.Revises index)
    (bounded : (crowd.world.store index).Bounded)
    (room : (crowd.world.store index).revision.toNat + 1 < 2 ^ 64) :
    ((crowd.happen event).world.store index).Bounded
      ∧ ((crowd.happen event).world.store index).Follows (crowd.world.store index)
      ∧ ((crowd.happen event).world.store index).revision.toNat
          ≤ (crowd.world.store index).revision.toNat + 1 := by
  have hkept : (crowd.happen event).world.store index = crowd.world.store index →
      ((crowd.happen event).world.store index).Bounded
        ∧ ((crowd.happen event).world.store index).Follows (crowd.world.store index)
        ∧ ((crowd.happen event).world.store index).revision.toNat
            ≤ (crowd.world.store index).revision.toNat + 1 := by
    intro hsame
    rw [hsame]
    exact ⟨bounded, .refl _, Nat.le_succ _⟩
  by_cases hchange : ∃ alter, event = .change alter
  · obtain ⟨alter, rfl⟩ := hchange
    obtain hsame | ⟨spelling, content, hinsert⟩ | ⟨spelling, hremove⟩ := revises crowd.world
    · exact hkept hsame
    · rw [happen]
      dsimp only
      rw [hinsert]
      exact ⟨bounded.insert room spelling content, MemoryStore.follows_insert room spelling content,
        Nat.le_of_eq (MemoryStore.toNat_revision_insert room spelling content)⟩
    · rw [happen]
      dsimp only
      rw [hremove, MemoryStore.revision_remove]
      exact ⟨bounded.remove spelling, MemoryStore.follows_remove _ spelling, Nat.le_succ _⟩
  · exact hkept (World.store_congr (crowd.stores_happen fun alter h => hchange ⟨alter, h⟩) index)

/-- In the course of events the states of a store follow each other. -/
theorem store_run (revises : ∀ event ∈ events, event.Revises index)
    (bounded : (crowd.world.store index).Bounded)
    (room : (crowd.world.store index).revision.toNat + events.length < 2 ^ 64) :
    ((crowd.run events).world.store index).Bounded
      ∧ ((crowd.run events).world.store index).Follows (crowd.world.store index)
      ∧ ((crowd.run events).world.store index).revision.toNat
          ≤ (crowd.world.store index).revision.toNat + events.length := by
  induction events generalizing crowd with
  | nil => exact ⟨bounded, .refl _, Nat.le_refl _⟩
  | cons event rest ih =>
      rw [List.length_cons] at room ⊢
      obtain ⟨hbounded, hfollows, hrevision⟩ :=
        store_happen (revises event List.mem_cons_self) bounded (by omega)
      obtain ⟨hlast, hlater, hrest⟩ :=
        ih (fun other hmem => revises other (List.mem_cons_of_mem _ hmem)) hbounded (by omega)
      exact ⟨hlast, hlater.trans hfollows, by rw [run, List.foldl_cons]; rw [run] at hrest; omega⟩

/-- A crowd is over a store that is only inserted into and removed from, and its numbers do not run
out. -/
structure InMemory (start : Crowd) (events : List Event) (index : Nat) : Prop where
  source_eq : start.workshop.source = (Loader.memory index).source
  bounded : (start.world.store index).Bounded
  revises : ∀ event ∈ events, event.Revises index
  room : (start.world.store index).revision.toNat + events.length < 2 ^ 64

/-- The text under a name in a store. -/
def storedText (index : Nat) (world : World) (name : String) : Option String :=
  ((world.store index).load name).map Resource.content

/-- A crowd may rely on a store that is only inserted into and removed from. -/
theorem InMemory.trusts (inMemory : start.InMemory events index) :
    Trusts start events (storedText index) := by
  obtain ⟨hsource, hbounded, hrevises, hroom⟩ := inMemory
  refine ⟨?_, ?_⟩
  · intro part hpart name resource hload
    rw [hsource] at hload ⊢
    have hfound := Except.ok.inj hload
    refine ⟨congrArg Except.ok ?_, ?_⟩
    · rw [MemoryStore.fingerprint_eq_map_load, hfound]
      rfl
    · rw [storedText, hfound]
      rfl
  · intro earlier later hfirst hsecond name mark hwas his
    rw [hsource] at hwas his
    have hwas := Except.ok.inj hwas
    have his := Except.ok.inj his
    obtain ⟨during, rfl⟩ := hfirst
    obtain ⟨rest, rfl⟩ := hsecond
    rw [List.length_append, List.length_append] at hroom
    obtain ⟨hearlier, -, hrevision⟩ := store_run
      (fun event (hmem : event ∈ earlier) =>
        hrevises event (List.mem_append_left _ (List.mem_append_left _ hmem))) hbounded (by omega)
    obtain ⟨-, hfollows, -⟩ := store_run
      (fun event (hmem : event ∈ during) =>
        hrevises event (List.mem_append_left _ (List.mem_append_right _ hmem))) hearlier (by omega)
    -- what bears the mark later is what bore it before
    rw [MemoryStore.fingerprint_eq_map_load] at hwas
    obtain ⟨resource, hload, rfl⟩ := Option.map_eq_some_iff.1 hwas
    rw [run_append] at his ⊢
    rw [storedText, storedText, hload, hfollows.load hearlier hload his]

end Crowd

end LiveTemplates
