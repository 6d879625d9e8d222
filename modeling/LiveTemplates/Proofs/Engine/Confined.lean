import LiveTemplates.Proofs.Engine.Session
import LiveTemplates.Proofs.Loader.Rooted
import Mathlib.Data.Set.Basic

set_option autoImplicit false

/-! # Engines stay below their root

An engine asks its source for canonical names only, and in one call for one name at most
(`repliesAlike_supplied`). Over a loader with a root that name has one path, which leads on from the
root. So whatever an engine does and answers depends on what there is at that path and on nothing
else in the files, and a spelling that is no name has the engine look at none (`looks_below_root`). -/

namespace LiveTemplates

/-- A workshop that is supplied by another source. -/
def Workshop.supplied (workshop : Workshop) (source : Source) : Workshop :=
  { workshop with source }

/-! ## One name is asked for -/

namespace Caches

variable (caches : Caches) {workshop : Workshop} {source : Source} {name : String}

theorem resource_supplied (agree : source.AgreeAt workshop.source name) (world : World) :
    caches.resource (workshop.supplied source) world name = caches.resource workshop world name := by
  have hproduce : (workshop.supplied source).produceResource world name
      = workshop.produceResource world name := by
    have hload : (workshop.supplied source).source.load world name
        = workshop.source.load world name := agree.load world
    unfold Workshop.produceResource
    rw [hload]
  unfold resource
  rw [hproduce]

theorem currentResource_supplied (agree : source.AgreeAt workshop.source name) (world : World) :
    caches.currentResource (workshop.supplied source) world name
      = caches.currentResource workshop world name := by
  have hmark : (workshop.supplied source).source.fingerprint world name
      = workshop.source.fingerprint world name := agree.fingerprint world
  unfold currentResource
  simp only [resource_supplied _ agree, hmark]
  rfl

theorem produceTemplate_supplied (agree : source.AgreeAt workshop.source name) (world : World) :
    caches.produceTemplate (workshop.supplied source) world name
      = caches.produceTemplate workshop world name := by
  unfold produceTemplate
  rw [currentResource_supplied _ agree]
  rfl

theorem cachedTemplate_supplied (agree : source.AgreeAt workshop.source name) (world : World) :
    caches.cachedTemplate (workshop.supplied source) world name
      = caches.cachedTemplate workshop world name := by
  unfold cachedTemplate
  simp only [produceTemplate_supplied _ agree]

theorem template_supplied (agree : source.AgreeAt workshop.source name) (world : World) :
    caches.template (workshop.supplied source) world name
      = caches.template workshop world name := by
  have hmark : ∀ later, (workshop.supplied source).source.fingerprint later name
      = workshop.source.fingerprint later name := agree.fingerprint
  unfold template
  simp only [cachedTemplate_supplied _ agree, hmark]
  rfl

end Caches

namespace Engine

/-- An engine that is supplied by another source. -/
def supplied (engine : Engine) (source : Source) : Engine :=
  { engine with workshop := engine.workshop.supplied source }

theorem caches_supplied (engine : Engine) (source : Source) :
    (engine.supplied source).caches = engine.caches :=
  rfl

/-- Two engines that are asked for a spelling answer the same, and leave the same caches and the
same world. -/
structure RepliesAlike (engine other : Engine) (world : World) (spelling : String) : Prop where
  template : (engine.template world spelling).2 = (other.template world spelling).2
  template_caches :
    (engine.template world spelling).1.caches = (other.template world spelling).1.caches
  resource : (engine.resource world spelling).2 = (other.resource world spelling).2
  resource_caches :
    (engine.resource world spelling).1.caches = (other.resource world spelling).1.caches
  hasResource : (engine.hasResource world spelling).2 = (other.hasResource world spelling).2
  hasResource_caches :
    (engine.hasResource world spelling).1.caches = (other.hasResource world spelling).1.caches

/-- An engine refuses a spelling, and nothing changes. -/
structure Refuses (engine : Engine) (world : World) (spelling : String) (fault : Name.Fault) :
    Prop where
  template : engine.template world spelling = (engine, world, .error (.invalidName spelling fault))
  resource : engine.resource world spelling = (engine, .error (.invalidName spelling fault))
  hasResource : engine.hasResource world spelling = (engine, false)

/-- Asked for a spelling, an engine over the files below a root looks at no other paths than some:
whatever is shown at other paths, it answers and does the same. -/
def LooksOnlyAt (engine : Engine) (root : String) (world : World) (spelling : String)
    (paths : Set String) : Prop :=
  ∀ view : World → String → Except FileFault Node,
    (∀ later, ∀ path ∈ paths, view later path = later.files.look path) →
      (engine.supplied (.rootedIn root view)).RepliesAlike engine world spelling

variable {engine : Engine} {spelling : String}

theorem refuses_of_invalid {fault : Name.Fault}
    (invalid : Name.canonicalOrError spelling = .error (.invalidName spelling fault))
    (engine : Engine) (world : World) : engine.Refuses world spelling fault := by
  have hresource : engine.resource world spelling
      = (engine, .error (.invalidName spelling fault)) := by
    unfold resource
    rw [invalid]
  refine ⟨?_, hresource, ?_⟩
  · unfold template
    rw [invalid]
  · unfold hasResource
    rw [hresource]
    rfl

/-- An engine that refuses a spelling does so without its source. -/
theorem repliesAlike_of_invalid {fault : Name.Fault}
    (invalid : Name.canonicalOrError spelling = .error (.invalidName spelling fault))
    (source : Source) (world : World) :
    (engine.supplied source).RepliesAlike engine world spelling := by
  have hother := refuses_of_invalid invalid (engine.supplied source) world
  have hself := refuses_of_invalid invalid engine world
  constructor <;>
    simp only [hother.template, hself.template, hother.resource, hself.resource,
      hother.hasResource, hself.hasResource, caches_supplied]

/-- An engine asks its source for the canonical name of a spelling, and for no other name. -/
theorem repliesAlike_supplied {source : Source} {name : String}
    (canonical : Name.canonicalOrError spelling = .ok name)
    (agree : source.AgreeAt engine.workshop.source name) (world : World) :
    (engine.supplied source).RepliesAlike engine world spelling := by
  have htemplate := engine.caches.template_supplied agree world
  have hresource := engine.caches.resource_supplied agree world
  constructor <;>
    simp only [template, resource, hasResource, canonical, supplied, htemplate, hresource]

/-- To refuse a spelling an engine looks at no path. -/
theorem looksOnlyAt_of_invalid {fault : Name.Fault}
    (invalid : Name.canonicalOrError spelling = .error (.invalidName spelling fault))
    (engine : Engine) (root : String) (world : World) :
    engine.LooksOnlyAt root world spelling ∅ :=
  fun _ _ => repliesAlike_of_invalid invalid _ world

/-- An engine over the files below a root looks at the path of the name, and at no other. -/
theorem looksOnlyAt_of_canonical {root name : String}
    (source : engine.workshop.source = .rootedIn root fun world => world.files.look)
    (canonical : Name.canonicalOrError spelling = .ok name) (world : World) :
    engine.LooksOnlyAt root world spelling {Path.below root name} := by
  intro view same
  refine repliesAlike_supplied canonical ?_ world
  rw [source]
  exact Source.rootedIn_agreeAt fun later => same later _ rfl

end Engine

/-! ## The engine over a root -/

/-- A loader that was given its root has the root that it was given, which leads to a folder. -/
theorem Loader.rooted_of_prepare {world : World} {root encoding : String} {before : Option String}
    {loader : Loader} (h : (Loader.rooted before).prepare world root encoding = (loader, .ok ())) :
    loader = .rooted (some root) ∧ root ≠ "" := by
  unfold prepare at h
  split at h
  · cases h
  · cases h
  · next hroot =>
      cases h
      refine ⟨rfl, ?_⟩
      rintro rfl
      -- the empty path leads nowhere
      simp [checkRoot, Tree.look, Tree.locate, Tree.checkPath] at hroot

namespace Engine

/-- An engine over the files below a root sees of them what a look at paths tells. It either refuses
a spelling without looking at any path, or looks at one path only. This path is the root with one or
more ordinary names after it, and leads below the folder of the root, wherever that is. Spellings have
the same path exactly if they have the same canonical name. -/
theorem looks_below_root {blueprint : Blueprint} {providers : List Provider} {number : Nat}
    {start : World} {engine : Engine} {before : Option String}
    (built : blueprint.build providers number start = .ok engine)
    (rooted : blueprint.loader.getD (.ofKind blueprint.config.loader) = .rooted before)
    (world : World) (operations : List Operation) :
    let root := blueprint.config.templatePath
    let now := (Session.mk engine world).run operations
    now.engine.workshop.source = .rootedIn root (fun world => world.files.look)
      ∧ (∀ spelling,
        (∃ fault, Name.canonicalOrError spelling = .error (.invalidName spelling fault)
            ∧ now.engine.Refuses now.world spelling fault
            ∧ now.engine.LooksOnlyAt root now.world spelling ∅)
          ∨ ∃ name names, Name.canonicalOrError spelling = .ok name
            ∧ now.engine.LooksOnlyAt root now.world spelling {Path.below root name}
            ∧ Path.Continues root (Path.below root name) names
            ∧ ∀ (tree : Tree) (place : Location) (node : Node),
                tree.locate root = .ok place → tree.node? place = some .folder →
                  tree.look (Path.below root name) = .ok node →
                    tree.node? (place ++ names) = some node)
      ∧ ∀ first second name name', Name.canonicalOrError first = .ok name →
          Name.canonicalOrError second = .ok name' →
            (Path.below root name = Path.below root name' ↔ name = name') := by
  intro root now
  obtain ⟨symbols, loader, -, hprepare, rfl⟩ := Blueprint.build_eq_ok_iff.1 built
  rw [rooted] at hprepare
  obtain ⟨rfl, hroot⟩ := Loader.rooted_of_prepare hprepare
  have hsource : now.engine.workshop.source
      = .rootedIn root fun world => world.files.look := by
    rw [Session.workshop_run]
    exact Loader.source_rooted root
  refine ⟨hsource, fun spelling => ?_, ?_⟩
  · cases hname : Name.canonicalOrError spelling with
    | error e =>
        obtain ⟨fault, rfl⟩ := Name.exists_fault_of_canonicalOrError hname
        exact .inl ⟨fault, rfl, refuses_of_invalid hname _ _, looksOnlyAt_of_invalid hname _ _ _⟩
    | ok name =>
        obtain ⟨parts, occupied, plain, rfl, -⟩ :=
          Name.exists_plain_of_canonical (Name.canonicalOrError_eq_ok_iff.1 hname)
        refine .inr ⟨_, _, rfl, looksOnlyAt_of_canonical hsource hname _,
          Path.continues_below hroot occupied plain, ?_⟩
        intro tree place node located folder found
        exact tree.node?_of_look_below located folder occupied plain found
  · intro first second name name' hfirst hsecond
    refine ⟨Path.below_injective hroot ?_ ?_, congrArg (Path.below root)⟩
    · exact Name.canonical_of_canonicalOrError hfirst
    · exact Name.canonical_of_canonicalOrError hsecond

/-- An engine over the files below a folder. -/
def filing : Blueprint where
  config := { templatePath := "t" }

/-- The folder, with a file in it and another one next to it. -/
def shelf : World where
  files :=
    { nodes :=
        [(["t"], .folder), (["t", "b"], .file "in".toUTF8 ⟨1⟩), (["b"], .file "out".toUTF8 ⟨1⟩)] }

theorem build_filing :
    filing.build [] 0 shelf = .ok (filing.engine {} (.rooted (some "t")) 0) := by
  have hlocate : shelf.files.locate "t" = .ok ["t"] :=
    Tree.locate_eq_ok_iff.2 ⟨Tree.checkPath_of_short (by simp) rfl (by decide), rfl⟩
  have hfolder : Loader.checkRoot shelf "t" = .ok () := by
    unfold Loader.checkRoot Tree.look
    rw [hlocate]
    rfl
  refine Blueprint.build_eq_ok_iff.2 ⟨{}, .rooted (some "t"), rfl, ?_, rfl⟩
  show (Loader.rooted none).prepare shelf "t" "utf-8" = _
  rw [Loader.prepare, Encoding.check_utf8, hfolder]
  rfl

/-- A spelling that leads back as far as the root is looked for below it, and one that leads back
further is not looked for. -/
theorem looks_below_shelf :
    ∃ engine, filing.build [] 0 shelf = .ok engine
      ∧ engine.Refuses shelf "a/../../b" .climbs
      ∧ engine.LooksOnlyAt "t" shelf "a/../../b" ∅
      ∧ engine.LooksOnlyAt "t" shelf "a/..\\b" {"t/b"}
      ∧ Path.Continues "t" "t/b" ["b"] := by
  obtain ⟨-, hlooks, -⟩ := looks_below_root build_filing rfl shelf []
  refine ⟨_, build_filing, ?_⟩
  have hclimbs : Name.canonicalOrError "a/../../b" = .error (.invalidName "a/../../b" .climbs) := by
    rfl
  have hname : Name.canonicalOrError "a/..\\b" = .ok "/b" := by rfl
  rcases hlooks "a/../../b" with ⟨fault, hfault, hrefuses, hblind⟩ | ⟨name, names, h, -⟩
  · rw [hclimbs] at hfault
    cases hfault
    rcases hlooks "a/..\\b" with ⟨fault, h, -⟩ | ⟨name, names, h, hsees, hcontinues, -⟩
    · rw [hname] at h
      cases h
    · rw [hname] at h
      cases h
      have hnames : ["t", "b"] = ["t"] ++ names := hcontinues.components
      cases hnames
      exact ⟨hrefuses, hblind, hsees, hcontinues⟩
  · rw [hclimbs] at h
    cases h

end Engine

end LiveTemplates
