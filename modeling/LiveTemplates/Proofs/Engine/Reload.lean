import LiveTemplates.Proofs.Engine.Afresh
import LiveTemplates.Proofs.Engine.Session
import LiveTemplates.Proofs.Engine.Stores

set_option autoImplicit false

/-! # Caches that nobody sees

Where sources may change, a lookup gives what it would give without caches, whatever the engine was
asked before and however the sources have changed in the meantime. What each operation keeps is that
both caches are settled and hold only what was served in one of the worlds so far. -/

namespace LiveTemplates

namespace Session

/-- The caches are settled, and hold what was served in one of these worlds. -/
structure Sound (session : Session) (workshop : Workshop) (folder : Option String)
    (past : List World) : Prop where
  workshop_eq : session.engine.workshop = workshop
  caches : ∃ resources templates, session.engine.caches.Shows folder resources templates
    ∧ Caches.Sound workshop past resources templates

theorem sound_of_isNew {session : Session} (new : session.engine.IsNew) :
    session.Sound session.engine.workshop session.engine.caches.units.directory
      [session.world] where
  workshop_eq := rfl
  caches := by
    refine ⟨fun _ => none, fun _ => none, ⟨⟨rfl, ?_, rfl⟩, ?_⟩, Caches.sound_empty _ _⟩
    · rw [new.resources]
      exact SingleFlight.shows_empty
    · rw [new.templates]
      exact SingleFlight.shows_empty

variable {session : Session} {workshop : Workshop} {folder : Option String} {past : List World}

/-- Every operation keeps the caches sound. -/
theorem Sound.perform_of_candid (sound : session.Sound workshop folder past)
    (candid : workshop.source.Candid folder past session.world)
    (reloadable : workshop.reloadable = true) (operation : Operation) :
    (session.perform operation).Sound workshop folder past := by
  obtain ⟨rfl, resources, templates, hshows, hsound⟩ := sound
  refine ⟨session.workshop_perform operation, ?_⟩
  have hdoes := session.does_perform operation
  generalize session.perform operation = after at hdoes
  cases hdoes with
  | change => exact ⟨_, _, hshows, hsound⟩
  | @template spelling name canonical =>
      exact (hshows.template_goesByMark hsound candid reloadable name).2
  | @resource spelling name canonical =>
      refine ⟨_, _, hshows.resource _ session.world name, hsound.updateResource ?_⟩
      intro resource hkept
      obtain hcached | hload := Workshop.cases_of_atHand hkept
      · exact hsound.resource hcached
      · exact ⟨session.world, candid.seen, hload⟩
  | loose source => exact ⟨_, _, hshows.compileLoose _ _ _ source, hsound⟩
  | clear => exact ⟨_, _, hshows.clear, Caches.sound_empty _ _⟩

theorem Sound.perform (sound : session.Sound workshop folder past)
    (reliable : workshop.source.Reliable folder past session.world)
    (reloadable : workshop.reloadable = true) (operation : Operation) :
    (session.perform operation).Sound workshop folder past :=
  sound.perform_of_candid reliable.candid reloadable operation

/-- The caches stay sound in the course of operations. -/
theorem sound_run_of_candid {session : Session} (new : session.engine.IsNew)
    (reloadable : session.engine.workshop.reloadable = true) (operations : List Operation)
    (candid : ∀ past world, past ++ [world] <+: session.worlds operations →
      session.engine.workshop.source.Candid session.engine.caches.units.directory
        (past ++ [world]) world) :
    (session.run operations).Sound session.engine.workshop session.engine.caches.units.directory
      (session.worlds operations) := by
  induction operations using List.reverseRecOn with
  | nil => exact sound_of_isNew new
  | append_singleton operations operation ih =>
      -- the operation is carried out in the last world before it, so nothing is asked of the next
      rw [worlds_append_singleton] at candid ⊢
      have hsound := ih fun past world earlier =>
        candid past world (earlier.trans (List.prefix_append _ _))
      obtain ⟨past, hpast⟩ := session.exists_worlds_eq operations
      rw [hpast] at candid hsound ⊢
      have hbefore := candid past _ (List.prefix_append _ _)
      have hafter := hsound.perform_of_candid hbefore reloadable operation
      rw [← run_append_singleton] at hafter
      obtain ⟨hworkshop, resources, templates, hshows, hkept⟩ := hafter
      exact ⟨hworkshop, resources, templates, hshows, hkept.mono _⟩

theorem sound_run {session : Session} (new : session.engine.IsNew)
    (reloadable : session.engine.workshop.reloadable = true) (operations : List Operation)
    (faithful : session.engine.workshop.source.Faithful session.engine.caches.units.directory
      (session.worlds operations)) :
    (session.run operations).Sound session.engine.workshop session.engine.caches.units.directory
      (session.worlds operations) :=
  sound_run_of_candid new reloadable operations fun _ _ earlier =>
    (faithful.of_prefix earlier).reliable.candid

/-- What a lookup gives goes by the mark of the source. -/
theorem Sound.template_goesByMark (sound : session.Sound workshop folder past)
    (candid : workshop.source.Candid folder past session.world)
    (reloadable : workshop.reloadable = true) {spelling name : String}
    (canonical : Name.canonicalOrError spelling = .ok name) :
    workshop.GoesByMark past session.world name
      ((session.template spelling).2.map LiveTemplate.sight) := by
  obtain ⟨rfl, resources, templates, hshows, hsound⟩ := sound
  simp only [Session.template, Engine.template, canonical]
  exact (hshows.template_goesByMark hsound candid reloadable name).1

/-- What a lookup gives is seen as it would be without caches. -/
theorem Sound.template_afresh (sound : session.Sound workshop folder past)
    (reliable : workshop.source.Reliable folder past session.world)
    (reloadable : workshop.reloadable = true) (spelling : String) :
    (session.template spelling).2.map LiveTemplate.sight
      = (Name.canonicalOrError spelling).bind (workshop.afresh session.world) := by
  cases hname : Name.canonicalOrError spelling with
  | error e =>
      rw [session.template_of_invalid hname]
      rfl
  | ok name =>
      exact (sound.template_goesByMark reliable.candid reloadable hname).afresh reliable.agrees
        reliable.vouches

/-- Where sources may change and the loader tells when they do, the caches are not to be seen. After
any operations a lookup gives what loading and compiling the source gives at that moment, and what
it would give if the caches were cleared first. The mark of a template is the one the source has
then, and a name is reported missing exactly if the loader has none. The loader may be any that can
be relied on, such as a store in memory that is inserted into less often than there are marks. -/
theorem template_eq_afresh (session : Session) (operations : List Operation) (spelling : String)
    (new : session.engine.IsNew) (reloadable : session.engine.workshop.reloadable = true)
    (relied : session.engine.workshop.source.Faithful session.engine.caches.units.directory
        (session.worlds operations) ∨ ∃ index, session.InMemory operations index) :
    let now := session.run operations
    let workshop := session.engine.workshop
    let outcome := (now.template spelling).2
    outcome.map LiveTemplate.sight
        = (Name.canonicalOrError spelling).bind (workshop.afresh now.world)
      ∧ outcome.map LiveTemplate.sight
        = ((now.perform .clear).template spelling).2.map LiveTemplate.sight
      ∧ ∀ name, Name.canonicalOrError spelling = .ok name →
          (∀ template, outcome = .ok template →
            workshop.source.fingerprint now.world name = .ok template.fingerprint)
          ∧ (workshop.LeavesMissing now.world name →
              (outcome = .error (.resourceNotFound name)
                ↔ workshop.source.load now.world name = .ok none)) := by
  have faithful : session.engine.workshop.source.Faithful session.engine.caches.units.directory
      (session.worlds operations) := by
    obtain faithful | ⟨index, inMemory⟩ := relied
    · exact faithful
    · exact inMemory.faithful _
  have sound := sound_run new reloadable operations faithful
  obtain ⟨past, hpast⟩ := session.exists_worlds_eq operations
  rw [hpast] at faithful sound
  have reliable := faithful.reliable
  have cleared := sound.perform reliable reloadable .clear
  have hafresh := sound.template_afresh reliable reloadable spelling
  refine ⟨hafresh, hafresh.trans (cleared.template_afresh reliable reloadable spelling).symm, ?_⟩
  intro name hname
  rw [hname] at hafresh
  refine ⟨fun template hok => ?_, fun leaves => ?_⟩
  · rw [hok] at hafresh
    obtain ⟨mark, hbears, hnow⟩ := Workshop.fingerprint_of_afresh reliable.agrees hafresh.symm
    rw [hnow, ← hbears]
    rfl
  · rw [← Workshop.afresh_eq_resourceNotFound_iff leaves]
    change _ = session.engine.workshop.afresh _ name at hafresh
    rw [← hafresh]
    cases ((session.run operations).template spelling).2 <;> simp [Except.map]

/-- A session over one store, with a compiler whose templates print their source. -/
def overStore : Session where
  engine :=
    { config := {}, symbols := {}, kind := "memory"
      workshop :=
        { source := (Loader.memory 0).source
          compiler := fun _ text => .program fun _ => .ok text
          reloadable := true, engine := 0 }
      caches := { units := { reloadable := true, directory := none } } }
  world := { stores := [{}] }

/-- A source is looked up and then put in again. -/
def replacement : List Operation :=
  [.insert 0 "a" "old", .template "a", .insert 0 "a" "new", .remove 0 "b"]

theorem template_of_replacement :
    overStore.engine.IsNew ∧ overStore.engine.workshop.reloadable = true
      ∧ overStore.InMemory replacement 0
      ∧ ((overStore.run replacement).template "a").2.map LiveTemplate.sight
        = .ok { fingerprint := some ⟨2⟩, render := fun _ => .ok "new" } := by
  have new : overStore.engine.IsNew := ⟨rfl, rfl⟩
  have inMemory : overStore.InMemory replacement 0 :=
    { source_eq := rfl
      bounded := MemoryStore.bounded_empty
      ordinary := by simp [replacement, Operation.InsertsAndRemoves]
      room := by decide }
  have hseen := (template_eq_afresh overStore replacement "a" new rfl (.inr ⟨0, inMemory⟩)).1
  refine ⟨new, rfl, inMemory, hseen.trans ?_⟩
  rfl

end Session

end LiveTemplates
