import LiveTemplates.Proofs.Engine.Reload
import LiveTemplates.Proofs.Loader.Probe
import Mathlib.Data.List.Pairwise

set_option autoImplicit false

/-! # Stores behind each other

A name is served by the first of several stores that has it. Each store numbers its own revisions, so
a mark says what the text is only together with the store that serves it: as long as the same store
serves a name, the mark changes with the text (`Session.Tended.alike`). Where another store comes to
serve the name, the new text may bear the mark of the old one, and an engine that goes by marks does
not see the difference. This is the only way in which it can miss a change. -/

namespace LiveTemplates

/-- Several stores as one loader. -/
def Loader.layers (stores : List Nat) : Loader :=
  .composite (stores.map .memory)

/-- The text that is served under a name, if there is any. -/
def Loader.content? (loader : Loader) (world : World) (name : String) :
    Except TemplateError (Option String) :=
  (loader.load world name).map fun found => found.map Resource.content

namespace World

/-- The store that serves a name: the first that has it. -/
def server? (world : World) (stores : List Nat) (name : String) : Option Nat :=
  stores.find? fun index => ((world.store index).find? name).isSome

/-- What is served under a name. -/
def served? (world : World) (stores : List Nat) (name : String) : Option Resource :=
  (world.server? stores name).bind fun index => (world.store index).load name

variable {world : World} {stores : List Nat} {name : String}

theorem served?_eq_some_iff {resource : Resource} :
    world.served? stores name = some resource
      ↔ ∃ index, world.server? stores name = some index
        ∧ (world.store index).load name = some resource :=
  Option.bind_eq_some_iff

theorem served?_cons (world : World) (index : Nat) (rest : List Nat) (name : String) :
    world.served? (index :: rest) name
      = ((world.store index).load name).or (world.served? rest name) := by
  unfold served? server?
  rw [List.find?_cons]
  cases hfind : (world.store index).find? name with
  | none => simp [MemoryStore.load, hfind]
  | some stored => simp [MemoryStore.load, hfind]

theorem served?_congr {first second : World} (h : first.stores = second.stores)
    (stores : List Nat) (name : String) :
    first.served? stores name = second.served? stores name := by
  unfold served? server?
  simp only [store_congr h]

end World

/-! ## What layers tell -/

namespace Loader

variable (world : World) (name : String) (stores : List Nat)

theorem load_layers : (layers stores).load world name = .ok (world.served? stores name) := by
  unfold layers load
  induction stores with
  | nil => rfl
  | cons index rest ih =>
      rw [List.map_cons, loadFirst, load, World.served?_cons]
      cases (world.store index).load name with
      | none => exact ih
      | some resource => rfl

theorem fingerprint_layers :
    (layers stores).fingerprint world name
      = .ok ((world.served? stores name).map Resource.fingerprint) := by
  unfold layers fingerprint
  induction stores with
  | nil => rfl
  | cons index rest ih =>
      rw [List.map_cons, fingerprintFirst, fingerprint, World.served?_cons,
        MemoryStore.fingerprint_eq_map_load]
      cases (world.store index).load name with
      | none => exact ih
      | some resource => rfl

theorem content?_layers :
    (layers stores).content? world name
      = .ok ((world.served? stores name).map Resource.content) := by
  rw [content?, load_layers]
  rfl

/-- Layers tell the marks of what they load, and do not read the copies that an engine writes. -/
theorem candid_layers (folder : Option String) {past : List World} {world : World}
    (seen : world ∈ past) : (layers stores).source.Candid folder past world where
  seen := seen
  agrees := (layers stores).agrees world
  undisturbed units unit resource _ _ _ := by
    show (layers stores).fingerprint _ unit.name = (layers stores).fingerprint world unit.name
    rw [fingerprint_layers, fingerprint_layers,
      World.served?_congr (units.stores_persist unit resource.content world)]

end Loader

/-! ## Engines over layers -/

namespace Session

/-- An engine is over several stores, each of which is only inserted into and removed from. -/
structure Layered (session : Session) (operations : List Operation) (stores : List Nat) : Prop where
  source_eq : session.engine.workshop.source = (Loader.layers stores).source
  tended : ∀ index ∈ stores, session.Tended operations index

variable {session : Session} {operations : List Operation} {stores : List Nat}
  {first second : World} {name : String}

/-- At any two moments, what a store serves under one mark is the same text. -/
theorem Tended.alike {index : Nat} (tended : session.Tended operations index)
    (hfirst : first ∈ session.worlds operations) (hsecond : second ∈ session.worlds operations) :
    (first.store index).Alike (second.store index) := by
  obtain ⟨hbounded, hpairs, -⟩ := tended.history
  have hsymm : Std.Symm fun first second : World =>
      (first.store index).Alike (second.store index) := ⟨fun _ _ alike => alike.symm⟩
  have hself : ∀ world ∈ session.worlds operations,
      (world.store index).Alike (world.store index) := fun _ _ => .refl _
  have halike : (session.worlds operations).Pairwise fun first second =>
      (first.store index).Alike (second.store index) :=
    hpairs.imp_of_mem fun hearlier _ hfollows => hfollows.alike (hbounded _ hearlier)
  exact halike.forall_of_forall hself hfirst hsecond

/-- What is served under the same mark is the same text, unless two stores have served it. -/
theorem Layered.content_of_mark (layered : session.Layered operations stores)
    (hfirst : first ∈ session.worlds operations) (hsecond : second ∈ session.worlds operations)
    {resource other : Resource} (hserved : first.served? stores name = some resource)
    (hother : second.served? stores name = some other)
    (unmoved : ∀ i j, first.server? stores name = some i → second.server? stores name = some j →
      i = j)
    (hmark : resource.fingerprint = other.fingerprint) : resource.content = other.content := by
  obtain ⟨index, hserver, hload⟩ := World.served?_eq_some_iff.1 hserved
  obtain ⟨index', hserver', hload'⟩ := World.served?_eq_some_iff.1 hother
  obtain rfl := unmoved index index' hserver hserver'
  have hmem : index ∈ stores := List.mem_of_find?_eq_some hserver
  exact (layered.tended index hmem).alike hfirst hsecond name resource other hload hload' hmark

/-- As long as a name is served by one store, its text does not change without its mark. -/
theorem Layered.content?_of_fingerprint (layered : session.Layered operations stores)
    (hfirst : first ∈ session.worlds operations) (hsecond : second ∈ session.worlds operations)
    (unmoved : ∀ i j, first.server? stores name = some i → second.server? stores name = some j →
      i = j)
    (hsame : (Loader.layers stores).fingerprint first name
      = (Loader.layers stores).fingerprint second name) :
    (Loader.layers stores).content? first name = (Loader.layers stores).content? second name := by
  rw [Loader.fingerprint_layers, Loader.fingerprint_layers, Except.ok.injEq] at hsame
  rw [Loader.content?_layers, Loader.content?_layers, Except.ok.injEq]
  cases hserved : first.served? stores name with
  | none =>
      rw [hserved, Option.map_none, eq_comm, Option.map_eq_none_iff] at hsame
      rw [hsame]
  | some resource =>
      rw [hserved, Option.map_some, eq_comm, Option.map_eq_some_iff] at hsame
      obtain ⟨other, hother, hmark⟩ := hsame
      have htext := layered.content_of_mark hfirst hsecond hserved hother unmoved hmark.symm
      rw [hother, Option.map_some, Option.map_some, htext]

/-- An engine over layers goes by marks. -/
theorem Layered.template_goesByMark (layered : session.Layered operations stores)
    (new : session.engine.IsNew) (reloadable : session.engine.workshop.reloadable = true)
    {spelling : String} (canonical : Name.canonicalOrError spelling = .ok name) :
    session.engine.workshop.GoesByMark (session.worlds operations) (session.run operations).world
      name (((session.run operations).template spelling).2.map LiveTemplate.sight) := by
  have candid : ∀ past world, world ∈ past → session.engine.workshop.source.Candid
      session.engine.caches.units.directory past world := by
    intro past world seen
    rw [layered.source_eq]
    exact Loader.candid_layers stores _ seen
  have sound := sound_run_of_candid new reloadable operations fun past world _ =>
    candid (past ++ [world]) world (List.mem_append_right _ (List.mem_singleton_self _))
  exact sound.template_goesByMark (candid _ _ (session.world_mem_worlds operations)) reloadable
    canonical

/-- Layers hide a change only where another store comes to serve the name. As long as it is served by
one store, texts that differ bear different marks. And what an engine that reloads gives for a name
after any operations is what loading and compiling the source gives at that moment, or else it comes
of a source that another store served before under the very mark that is told now. -/
theorem hidden_only_between_stores (session : Session) (operations : List Operation)
    (stores : List Nat) (layered : session.Layered operations stores)
    (new : session.engine.IsNew) (reloadable : session.engine.workshop.reloadable = true) :
    let loader := Loader.layers stores
    let worlds := session.worlds operations
    let now := session.run operations
    (∀ first ∈ worlds, ∀ second ∈ worlds, ∀ name,
        (∀ i j, first.server? stores name = some i → second.server? stores name = some j → i = j) →
        loader.content? first name ≠ loader.content? second name →
          loader.fingerprint first name ≠ loader.fingerprint second name)
      ∧ ∀ spelling name, Name.canonicalOrError spelling = .ok name →
          let outcome := (now.template spelling).2.map LiveTemplate.sight
          outcome = session.engine.workshop.afresh now.world name
            ∨ ∃ earlier ∈ worlds, ∃ resource i j,
                loader.load earlier name = .ok (some resource)
                  ∧ loader.fingerprint now.world name = .ok (some resource.fingerprint)
                  ∧ earlier.server? stores name = some i
                  ∧ now.world.server? stores name = some j ∧ i ≠ j
                  ∧ outcome = session.engine.workshop.compiled name resource := by
  intro loader worlds now
  refine ⟨?_, ?_⟩
  · intro first hfirst second hsecond name unmoved hdiffer hsame
    exact hdiffer (layered.content?_of_fingerprint hfirst hsecond unmoved hsame)
  intro spelling name hname outcome
  have hnow : now.world ∈ worlds := session.world_mem_worlds operations
  obtain hafresh | ⟨resource, ⟨earlier, hearlier, hload⟩, hmark, hcompiled⟩ :=
    layered.template_goesByMark new reloadable hname
  · exact .inl hafresh
  rw [layered.source_eq] at hload hmark
  have hserved : earlier.served? stores name = some resource :=
    Except.ok.inj ((Loader.load_layers earlier name stores).symm.trans hload)
  -- the mark that is told now is on what is served now
  obtain ⟨current, hcurrent, hbears⟩ := Option.map_eq_some_iff.1
    (Except.ok.inj ((Loader.fingerprint_layers now.world name stores).symm.trans hmark))
  obtain ⟨i, hserver, -⟩ := World.served?_eq_some_iff.1 hserved
  obtain ⟨j, hserving, -⟩ := World.served?_eq_some_iff.1 hcurrent
  by_cases hmoved : i = j
  · -- one store has served both, so they are the same text
    left
    have unmoved : ∀ i j, earlier.server? stores name = some i →
        now.world.server? stores name = some j → i = j := by
      intro i' j' hi hj
      rw [hserver] at hi
      rw [hserving] at hj
      cases hi
      cases hj
      exact hmoved
    have htext := layered.content_of_mark hearlier hnow hserved hcurrent unmoved hbears.symm
    have hloaded : session.engine.workshop.source.load now.world name = .ok (some current) := by
      rw [layered.source_eq, ← hcurrent]
      exact Loader.load_layers now.world name stores
    rw [Workshop.afresh_of_load hloaded, Workshop.compiled_congr hbears htext.symm]
    exact hcompiled
  · exact .inr ⟨earlier, hearlier, resource, i, j, hload, hmark, hserver, hserving, hmoved, hcompiled⟩

/-- A session over two stores, the first of which goes before the second. -/
def twoLayers : Session where
  engine :=
    { config := { reloadable := true }, symbols := {}, kind := "composite"
      workshop :=
        { source := (Loader.layers [0, 1]).source, compiler := Compiler.ofSymbols {}
          reloadable := true, engine := 0 }
      caches := { units := { reloadable := true, directory := none } } }
  world := { stores := [{}, {}] }

/-- A default is looked up, and then something is put before it. Both are the first source of their
store. -/
def override : List Operation :=
  [.insert 1 "page.hbs" "default", .template "page.hbs", .insert 0 "page.hbs" "custom"]

theorem layered_override : twoLayers.Layered override [0, 1] where
  source_eq := rfl
  tended := by
    intro index hmem
    simp only [List.mem_cons, List.not_mem_nil, or_false] at hmem
    rcases hmem with rfl | rfl
    · exact ⟨MemoryStore.bounded_empty, by simp [override, Operation.InsertsAndRemoves], by decide⟩
    · exact ⟨MemoryStore.bounded_empty, by simp [override, Operation.InsertsAndRemoves], by decide⟩

theorem default_of_override :
    (((twoLayers.run override).template "page.hbs").2.map LiveTemplate.sight).bind
      (fun sight => sight.render .null) = .ok "default" := by
  decide +kernel

theorem load_override :
    twoLayers.engine.workshop.source.load (twoLayers.run override).world "/page.hbs"
      = .ok (some
          { name := "/page.hbs", content := "custom", fingerprint := ⟨1⟩, origin := .memory }) := by
  decide +kernel

theorem moved_of_override :
    ∃ earlier ∈ twoLayers.worlds override, ∃ resource i j,
      (Loader.layers [0, 1]).load earlier "/page.hbs" = .ok (some resource)
        ∧ earlier.server? [0, 1] "/page.hbs" = some i
        ∧ (twoLayers.run override).world.server? [0, 1] "/page.hbs" = some j ∧ i ≠ j
        ∧ ((twoLayers.run override).template "page.hbs").2.map LiveTemplate.sight
          = twoLayers.engine.workshop.compiled "/page.hbs" resource := by
  have hname : Name.canonicalOrError "page.hbs" = .ok "/page.hbs" := by decide +kernel
  have hlookup := (hidden_only_between_stores twoLayers override [0, 1] layered_override ⟨rfl, rfl⟩
    rfl).2 "page.hbs" "/page.hbs" hname
  obtain hafresh | ⟨earlier, hearlier, resource, i, j, hload, -, hserver, hserving, hmoved, hgiven⟩ :=
    hlookup
  · -- without caches it would be the custom source
    have hcustom : (twoLayers.engine.workshop.afresh (twoLayers.run override).world
        "/page.hbs").bind (fun sight => sight.render .null) = .ok "custom" := by
      rw [Workshop.afresh_of_load load_override]
      decide +kernel
    rw [← hafresh, default_of_override, Except.ok.injEq] at hcustom
    exact absurd hcustom (by decide)
  · exact ⟨earlier, hearlier, resource, i, j, hload, hserver, hserving, hmoved, hgiven⟩

/-- Two texts of one name bear the same mark, and the engine gives the old one. -/
theorem hidden_of_override :
    ∃ first ∈ twoLayers.worlds override, ∃ second ∈ twoLayers.worlds override,
      (Loader.layers [0, 1]).content? first "/page.hbs" = .ok (some "default")
        ∧ (Loader.layers [0, 1]).content? second "/page.hbs" = .ok (some "custom")
        ∧ (Loader.layers [0, 1]).fingerprint first "/page.hbs"
          = (Loader.layers [0, 1]).fingerprint second "/page.hbs"
        ∧ (Loader.layers [0, 1]).content? (twoLayers.run override).world "/page.hbs"
          = .ok (some "custom")
        ∧ ((twoLayers.run override).template "page.hbs").2.bind
            (fun template => template.render .null) = .ok "default" := by
  have hfirst : (twoLayers.run [.insert 1 "page.hbs" "default"]).world
      ∈ twoLayers.worlds override := List.mem_cons_of_mem _ List.mem_cons_self
  refine ⟨_, hfirst, _, twoLayers.world_mem_worlds override, ?_⟩
  decide +kernel

end Session

end LiveTemplates
