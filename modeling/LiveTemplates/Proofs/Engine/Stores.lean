import LiveTemplates.Engine.Operation
import LiveTemplates.Proofs.Loader.Faithful
import LiveTemplates.Proofs.Loader.Marks
import LiveTemplates.Proofs.Loader.Probe
import Mathlib.Data.List.Induction

set_option autoImplicit false

/-! # Engines over a store in memory

An engine never writes to a store. So if whoever owns a store only inserts and removes, and inserts
less often than there are marks, an engine over it may go by fingerprints. -/

namespace LiveTemplates

/-! ## Engines leave stores as they are -/

namespace Caches

variable (caches : Caches) (workshop : Workshop) (world : World) (name : String)

theorem stores_compile (resource : Resource) :
    (caches.compile workshop world name resource).2.1.stores = world.stores := by
  unfold compile
  dsimp only
  split
  · exact Units.stores_persist ..
  · rfl
  · rfl

theorem stores_compileLoose (source : String) :
    (caches.compileLoose workshop world name source).2.1.stores = world.stores := by
  unfold compileLoose
  dsimp only
  split
  · exact Units.stores_persist ..
  · rfl
  · rfl

theorem stores_produceTemplate :
    (caches.produceTemplate workshop world name).2.1.stores = world.stores := by
  unfold produceTemplate
  split
  · rfl
  · exact stores_compile ..

theorem stores_cachedTemplate :
    (caches.cachedTemplate workshop world name).2.1.stores = world.stores := by
  unfold cachedTemplate
  dsimp only
  split
  · rfl
  · exact stores_produceTemplate ..
  · exact stores_produceTemplate ..

theorem stores_template : (caches.template workshop world name).2.1.stores = world.stores := by
  have hfirst := caches.stores_cachedTemplate workshop world name
  unfold template
  generalize caches.cachedTemplate workshop world name = result at hfirst
  obtain ⟨caches', world', outcome⟩ := result
  cases outcome with
  | error e => exact hfirst
  | ok template =>
      dsimp only at hfirst ⊢
      split
      · split
        · exact hfirst
        · split
          · exact hfirst
          · exact (stores_cachedTemplate ..).trans hfirst
      · exact hfirst

end Caches

theorem World.store_congr {first second : World} (h : first.stores = second.stores) (index : Nat) :
    first.store index = second.store index := by
  unfold World.store
  rw [h]

theorem World.store_setStore_cases (world : World) (index other : Nat) (store : MemoryStore) :
    (world.setStore index store).store other = world.store other
      ∨ other = index ∧ (world.setStore index store).store other = store := by
  rw [World.store_setStore]
  split
  · next hin => exact .inr ⟨hin.1, rfl⟩
  · exact .inl rfl

namespace Operation

/-- Whether an operation puts a source into a store. -/
def isInsert (index : Nat) : Operation → Bool
  | .insert store _ _ => store = index
  | _ => false

/-- An operation changes a store in no other way than by inserting and removing. -/
def InsertsAndRemoves (index : Nat) : Operation → Prop
  | .insertMarked store _ _ _ => store ≠ index
  | .change alter => ∀ world, (alter world).store index = world.store index
  | _ => True

end Operation

namespace Session

theorem stores_template (session : Session) (spelling : String) :
    (session.template spelling).1.world.stores = session.world.stores := by
  unfold template Engine.template
  cases Name.canonicalOrError spelling with
  | error e => rfl
  | ok name => exact Caches.stores_template ..

/-- What becomes of a store in one operation. -/
theorem store_perform (session : Session) {operation : Operation} {index : Nat}
    (ordinary : operation.InsertsAndRemoves index) :
    (session.perform operation).world.store index = session.world.store index
      ∨ operation.isInsert index = true ∧ (∃ spelling content,
          (session.perform operation).world.store index
            = ((session.world.store index).insert spelling content).1)
      ∨ ∃ spelling, (session.perform operation).world.store index
          = ((session.world.store index).remove spelling).1 := by
  cases operation with
  | template spelling => exact .inl (World.store_congr (session.stores_template spelling) index)
  | resource spelling => exact .inl rfl
  | hasResource spelling => exact .inl rfl
  | refresh template =>
      left
      unfold perform
      dsimp only
      split
      · rfl
      · next name _ =>
          split
          · exact World.store_congr (session.stores_template name) index
          · rfl
  | compileLoose source => exact .inl (World.store_congr (Caches.stores_compileLoose ..) index)
  | clear => exact .inl rfl
  | insert store spelling content =>
      obtain hsame | ⟨rfl, hstore⟩ := session.world.store_setStore_cases store index
        ((session.world.store store).insert spelling content).1
      · exact .inl hsame
      · exact .inr (.inl ⟨decide_eq_true rfl, spelling, content, hstore⟩)
  | insertMarked store spelling content fingerprint =>
      obtain hsame | ⟨hindex, -⟩ := session.world.store_setStore_cases store index
        ((session.world.store store).insertMarked spelling content fingerprint).1
      · exact .inl hsame
      · exact absurd hindex.symm ordinary
  | remove store spelling =>
      obtain hsame | ⟨rfl, hstore⟩ := session.world.store_setStore_cases store index
        ((session.world.store store).remove spelling).1
      · exact .inl hsame
      · exact .inr (.inr ⟨spelling, hstore⟩)
  | change alter => exact .inl (ordinary _)

/-- An engine is over a store that is only inserted into and removed from, and its numbers do not
run out. -/
structure InMemory (session : Session) (operations : List Operation) (index : Nat) : Prop where
  source_eq : session.engine.workshop.source = (Loader.memory index).source
  bounded : (session.world.store index).Bounded
  ordinary : ∀ operation ∈ operations, operation.InsertsAndRemoves index
  room : (session.world.store index).revision.toNat + operations.countP (Operation.isInsert index)
    < 2 ^ 64

/-- In one operation a store moves on by one mark at most. -/
theorem store_follows (session : Session) {operation : Operation} {index : Nat}
    (ordinary : operation.InsertsAndRemoves index)
    (bounded : (session.world.store index).Bounded)
    (room : (session.world.store index).revision.toNat
      + [operation].countP (Operation.isInsert index) < 2 ^ 64) :
    ((session.perform operation).world.store index).Bounded
      ∧ ((session.perform operation).world.store index).Follows (session.world.store index)
      ∧ ((session.perform operation).world.store index).revision.toNat
          ≤ (session.world.store index).revision.toNat
            + [operation].countP (Operation.isInsert index) := by
  rw [List.countP_singleton] at room ⊢
  obtain hsame | ⟨hinsert, spelling, content, hstore⟩ | ⟨spelling, hstore⟩ :=
    session.store_perform ordinary
  · rw [hsame]
    exact ⟨bounded, .refl _, Nat.le_add_right _ _⟩
  · rw [if_pos hinsert] at room ⊢
    rw [hstore]
    exact ⟨bounded.insert room spelling content, MemoryStore.follows_insert room spelling content,
      Nat.le_of_eq (MemoryStore.toNat_revision_insert room spelling content)⟩
  · rw [hstore, MemoryStore.revision_remove]
    exact ⟨bounded.remove spelling, MemoryStore.follows_remove _ spelling, Nat.le_add_right _ _⟩

/-- A store is only inserted into and removed from, and its numbers do not run out. -/
structure Tended (session : Session) (operations : List Operation) (index : Nat) : Prop where
  bounded : (session.world.store index).Bounded
  ordinary : ∀ operation ∈ operations, operation.InsertsAndRemoves index
  room : (session.world.store index).revision.toNat + operations.countP (Operation.isInsert index)
    < 2 ^ 64

theorem InMemory.tended {session : Session} {operations : List Operation} {index : Nat}
    (inMemory : session.InMemory operations index) : session.Tended operations index where
  bounded := inMemory.bounded
  ordinary := inMemory.ordinary
  room := inMemory.room

/-- In the course of operations the states of a store follow each other. -/
theorem Tended.history {session : Session} {operations : List Operation} {index : Nat}
    (tended : session.Tended operations index) :
    (∀ world ∈ session.worlds operations, (world.store index).Bounded)
      ∧ (session.worlds operations).Pairwise (fun earlier later =>
          (later.store index).Follows (earlier.store index))
      ∧ ((session.run operations).world.store index).revision.toNat
          ≤ (session.world.store index).revision.toNat
            + operations.countP (Operation.isInsert index) := by
  obtain ⟨hbounded, hordinary, hroom⟩ := tended
  induction operations using List.reverseRecOn with
  | nil =>
      refine ⟨fun world hmem => ?_, List.pairwise_singleton _ _, Nat.le_add_right _ _⟩
      cases List.mem_singleton.1 hmem
      exact hbounded
  | append_singleton operations operation ih =>
      rw [List.countP_append] at hroom ⊢
      obtain ⟨hall, hpairs, hrevision⟩ :=
        ih (fun operation hmem => hordinary operation (List.mem_append_left _ hmem)) (by omega)
      obtain ⟨past, hpast⟩ := session.exists_worlds_eq operations
      have hlast := session.world_mem_worlds operations
      obtain ⟨hnew, hfollows, hstep⟩ := (session.run operations).store_follows
        (hordinary operation (List.mem_append_right _ (List.mem_singleton_self _)))
        (hall _ hlast) (by omega)
      rw [worlds_append_singleton, run_append_singleton]
      refine ⟨fun world hmem => ?_, ?_, by omega⟩
      · rcases List.mem_append.1 hmem with hbefore | hafter
        · exact hall world hbefore
        · cases List.mem_singleton.1 hafter
          exact hnew
      · refine List.pairwise_append.2 ⟨hpairs, List.pairwise_singleton _ _, ?_⟩
        intro earlier hearlier later hlater
        cases List.mem_singleton.1 hlater
        -- whatever came before the last state is followed by it, and so by the new one
        refine hfollows.trans ?_
        rw [hpast] at hearlier hpairs
        rcases List.mem_append.1 hearlier with hbefore | hafter
        · exact (List.pairwise_append.1 hpairs).2.2 earlier hbefore _ (List.mem_singleton_self _)
        · cases List.mem_singleton.1 hafter
          exact .refl _

/-- An engine may rely on a store that is only inserted into and removed from. -/
theorem InMemory.faithful {session : Session} {operations : List Operation} {index : Nat}
    (inMemory : session.InMemory operations index) (folder : Option String) :
    session.engine.workshop.source.Faithful folder (session.worlds operations) := by
  obtain ⟨hbounded, hpairs, -⟩ := inMemory.tended.history
  rw [inMemory.source_eq]
  refine ⟨fun world _ => (Loader.memory index).agrees world, ?_, ?_⟩
  · intro world _ units unit resource _ _
    exact congrArg (fun store => Except.ok (store.fingerprint unit.name))
      (World.store_congr (Units.stores_persist ..) index)
  · refine hpairs.imp_of_mem fun {earlier later} hearlier _ hfollows => ?_
    intro name resource hload hmark
    have hkept := hfollows.load (hbounded earlier hearlier) (Except.ok.inj hload)
      (Except.ok.inj hmark)
    exact ⟨resource, congrArg Except.ok hkept, rfl⟩

end Session

end LiveTemplates
