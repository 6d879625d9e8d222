import LiveTemplates.Proofs.Engine.Paired
import LiveTemplates.Proofs.Units.Copies

set_option autoImplicit false

/-! # The copy for a cached template holds its source

An engine that has a folder for copies writes one whenever it compiles a source. As long as nobody
else touches the folder, the copy for a template in the cache holds the source of that very template
(`copy_of_cached`): a copy of another name or another generation stands at another place. There are
two exceptions. A name may lie below a copy, as if that were a folder, and then one of the two
cannot be written. And the copies of sources without a name stand where those of certain names do,
and take their place (`overwritten_by_loose`). -/

namespace LiveTemplates

open LiveTemplates.Units

theorem Units.files_persist {units : Units} {directory : String}
    (folder : units.directory = some directory) (unit : ExecutableUnit) (source : String)
    (world : World) :
    (units.persist unit source world).files
      = (world.files.writeBelow (artifactPath directory unit.name unit.generation) source.toUTF8
          world.now).1 := by
  unfold persist
  rw [folder]

namespace Caches

/-- The caches are settled, and the copy for a template of a name, if one is cached, holds its
source. -/
structure Keeps (caches : Caches) (directory : String) (place : Location) (name : String)
    (world : World) (resources : String → Option Resource)
    (templates : String → Option LiveTemplate) : Prop where
  shows : caches.Shows (some directory) resources templates
  copies : Units.Keeps directory place name world.files (templates name)

namespace Keeps

variable {caches : Caches} {directory : String} {place : Location} {name other : String}
  {world : World} {resources : String → Option Resource}
  {templates : String → Option LiveTemplate} {workshop : Workshop} {front : List (List Char)}
  {last : List Char}

/-- When a template of some name is made, its copy is written. -/
theorem produced {cached kept : Option Resource} {world' : World}
    {ending : Ending LiveTemplate TemplateError}
    (copies : Units.Keeps directory place name world.files (templates name))
    (segmented : Name.Segmented name front last) (canonical : Name.canonical other = .ok other)
    (apart : name ≠ other → Apart name other) (none : templates other = none)
    (produced : Produced workshop (some directory) world other cached kept world' ending) :
    Units.Keeps directory place name world'.files
      (Function.update templates other ending.value? name) := by
  have hsame : ∀ e : Option LiveTemplate, e = Option.none →
      Function.update templates other e name = templates name := by
    rintro _ rfl
    rw [← none, Function.update_eq_self]
  cases produced with
  | unfetched => exact (hsame _ rfl).symm ▸ copies
  | rejected => exact (hsame _ rfl).symm ▸ copies
  | broken => exact (hsame _ rfl).symm ▸ copies
  | @made resource template units fetched made folder =>
      rw [files_persist folder, made.unit_name, ← made.source_eq]
      by_cases hname : name = other
      · subst hname
        rw [Function.update_self]
        exact copies.write_own segmented template world.now
      · rw [Function.update_of_ne hname]
        obtain ⟨front', last', segmented'⟩ := Name.exists_segmented canonical
        exact copies.write_other segmented segmented' hname (apart hname) _ _ _

theorem cachedTemplate (workshop : Workshop)
    (keeps : Keeps caches directory place name world resources templates)
    (segmented : Name.Segmented name front last) (canonical : Name.canonical other = .ok other)
    (apart : name ≠ other → Apart name other) :
    ∃ resources' templates', Keeps (caches.cachedTemplate workshop world other).1 directory place
      name (caches.cachedTemplate workshop world other).2.1 resources' templates' := by
  obtain ⟨template, -, hgiven, hshows⟩ | ⟨hnone, kept, ending, hproduced, -, hshows⟩ :=
    keeps.shows.cachedTemplate workshop world other
  · refine ⟨_, _, hshows, ?_⟩
    rw [hgiven]
    exact keeps.copies
  · exact ⟨_, _, hshows, produced keeps.copies segmented canonical apart hnone hproduced⟩

theorem template (keeps : Keeps caches directory place name world resources templates)
    (segmented : Name.Segmented name front last) (canonical : Name.canonical other = .ok other)
    (apart : name ≠ other → Apart name other) :
    ∃ resources' templates', Keeps (caches.template workshop world other).1 directory place name
      (caches.template workshop world other).2.1 resources' templates' := by
  obtain ⟨resources', templates', hkeeps⟩ := keeps.cachedTemplate workshop segmented canonical apart
  unfold Caches.template
  generalize caches.cachedTemplate workshop world other = result at hkeeps
  obtain ⟨after, world', outcome⟩ := result
  cases outcome with
  | error e => exact ⟨_, _, hkeeps⟩
  | ok template =>
      dsimp only at hkeeps ⊢
      split
      · split
        · exact ⟨_, _, hkeeps⟩
        · split
          · exact ⟨_, _, hkeeps⟩
          · -- what is taken out leaves its copy behind
            have hdiscarded := hkeeps.shows.discard other template
            refine Keeps.cachedTemplate workshop ⟨hdiscarded, ?_⟩ segmented canonical apart
            by_cases hname : name = other
            · subst hname
              rw [Function.update_self]
              exact hkeeps.copies.filter _
            · rw [Function.update_of_ne hname]
              exact hkeeps.copies
      · exact ⟨_, _, hkeeps⟩

theorem compileLoose (keeps : Keeps caches directory place name world resources templates)
    (segmented : Name.Segmented name front last) {index : Nat}
    (ne : name ≠ "/" ++ Engine.inlineName index)
    (apart : ¬ Below ("/" ++ Engine.inlineName index) name) (source : String) :
    Keeps (caches.compileLoose workshop world (Engine.inlineName index) source).1 directory place
      name (caches.compileLoose workshop world (Engine.inlineName index) source).2.1 resources
      templates := by
  refine ⟨keeps.shows.compileLoose workshop world _ source, ?_⟩
  unfold Caches.compileLoose
  dsimp only
  split
  · next program hcompiled =>
      have folder : (caches.units.define (Engine.inlineName index) program).1.directory
          = some directory := keeps.shows.stocks.folder_eq
      dsimp only
      rw [files_persist folder]
      show Units.Keeps _ _ _ (world.files.writeBelow
        (artifactPath directory (Engine.inlineName index) _) _ _).1 _
      rw [artifactPath_inline]
      exact keeps.copies.write_other segmented (segmented_inline index) ne
        ⟨not_below_inline segmented index, apart⟩ _ _ _
  · exact keeps.copies
  · exact keeps.copies

/-- The copy for a source without a name is written where it has to be. -/
theorem read_compileLoose {index : Nat}
    (keeps : Keeps caches directory place ("/" ++ Engine.inlineName index) world resources
      templates)
    {source : String} {program : Runnable}
    (compiled : workshop.compiler (Engine.inlineName index) source = .program program)
    (fits : Tree.Fits
      (artifactPath directory ("/" ++ Engine.inlineName index) caches.units.generation)) :
    (caches.compileLoose workshop world (Engine.inlineName index) source).2.1.files.read
        (artifactPath directory ("/" ++ Engine.inlineName index) caches.units.generation)
      = .ok source.toUTF8 := by
  have segmented := segmented_inline index
  unfold Caches.compileLoose
  dsimp only
  rw [compiled]
  dsimp only
  rw [files_persist (show (caches.units.define _ program).1.directory = some directory from
    keeps.shows.stocks.folder_eq)]
  show (world.files.writeBelow (artifactPath directory (Engine.inlineName index)
    caches.units.generation) _ _).1.read _ = _
  rw [artifactPath_inline]
  obtain ⟨names, final, -, below⟩ := leadsBelow_copy segmented keeps.copies.located
    keeps.copies.folder caches.units.generation
  have hgrows := below.grows_writeBelow source.toUTF8 world.now
  refine read_copy segmented (hgrows.locate keeps.copies.located)
    (hgrows.folders keeps.copies.folder) fits ?_
  exact keeps.copies.clear.stands_write segmented keeps.copies.located keeps.copies.folder fits _ _

end Keeps

end Caches

/-- An engine as it is built has nothing in its caches, and the folder of its configuration. -/
theorem Caches.shows_of_build {blueprint : Blueprint} {providers : List Provider} {number : Nat}
    {start : World} {engine : Engine} (built : blueprint.build providers number start = .ok engine)
    {directory : String} (copies : blueprint.config.compilePath = some directory) :
    engine.caches.Shows (some directory) (fun _ => none) fun _ => none := by
  obtain ⟨symbols, loader, -, hcaches⟩ := Blueprint.engine_of_build built
  rw [hcaches, copies]
  exact ⟨⟨rfl, SingleFlight.shows_empty, rfl⟩, SingleFlight.shows_empty⟩

/-! ## Sessions -/

/-- The name that an operation looks a template up by, as it is spelled. -/
def Operation.seeks? : Operation → Option String
  | .template spelling => some spelling
  | .refresh made => made.name
  | _ => none

/-- A change of the world leaves a folder and all it holds alone. -/
structure LeavesAlone (directory : String) (place : Location) (before after : World) : Prop where
  located (h : before.files.locate directory = .ok place) : after.files.locate directory = .ok place
  same (below : Location) : after.files.node? (place ++ below) = before.files.node? (place ++ below)

namespace Session

variable {session : Session} {directory : String} {place : Location} {name : String}
  {operations : List Operation}

/-- The folder of the copies is there, and nobody else touches it while the operations go on. -/
structure Owns (session : Session) (operations : List Operation) (directory : String)
    (place : Location) : Prop where
  located : session.world.files.locate directory = .ok place
  folder : session.world.files.node? place = some .folder
  alone {earlier : List Operation} {alter : World → World}
    (part : earlier ++ [.change alter] <+: operations) :
    LeavesAlone directory place (session.run earlier).world (alter (session.run earlier).world)

/-- No name that is asked for lies below a copy for a given one, nor the other way round, and no
source without a name gets the place of a copy for it. -/
structure Unrivalled (session : Session) (operations : List Operation) (name : String) : Prop where
  apart {operation : Operation} {spelling other : String} (mem : operation ∈ operations)
    (seeks : operation.seeks? = some spelling) (canonical : Name.canonical spelling = .ok other)
    (ne : name ≠ other) : Apart name other
  loose {index : Nat} (first : session.engine.nextInline ≤ index)
    (last : index < (session.run operations).engine.nextInline) :
    name ≠ "/" ++ Engine.inlineName index ∧ ¬ Below ("/" ++ Engine.inlineName index) name

theorem nextInline_template (session : Session) (spelling : String) :
    (session.template spelling).1.engine.nextInline = session.engine.nextInline := by
  unfold template Engine.template
  cases Name.canonicalOrError spelling with
  | error e => rfl
  | ok name => rfl

/-- Sources without a name are numbered in the order in which they are compiled. -/
theorem nextInline_perform (session : Session) (operation : Operation) :
    (session.perform operation).engine.nextInline
      = match operation with
        | .compileLoose _ => session.engine.nextInline + 1
        | _ => session.engine.nextInline := by
  cases operation with
  | template spelling => exact session.nextInline_template spelling
  | resource spelling =>
      show (session.engine.resource session.world spelling).1.nextInline = _
      unfold Engine.resource
      split <;> rfl
  | hasResource spelling =>
      show (session.engine.resource session.world spelling).1.nextInline = _
      unfold Engine.resource
      split <;> rfl
  | refresh template =>
      rw [perform]
      cases template.name with
      | none => rfl
      | some name =>
          dsimp only
          split
          · exact session.nextInline_template name
          · rfl
  | _ => rfl

theorem nextInline_le_perform (session : Session) (operation : Operation) :
    session.engine.nextInline ≤ (session.perform operation).engine.nextInline := by
  rw [nextInline_perform]
  split
  · exact Nat.le_succ _
  · exact Nat.le_refl _

/-- The copy for a template of a name, if one is cached, holds its source. -/
def Keeps (session : Session) (directory : String) (place : Location) (name : String) : Prop :=
  ∃ resources templates,
    session.engine.caches.Keeps directory place name session.world resources templates

theorem Keeps.template (keeps : session.Keeps directory place name) {front : List (List Char)}
    {last : List Char} (segmented : Name.Segmented name front last) {spelling : String}
    (apart : ∀ other, Name.canonical spelling = .ok other → name ≠ other → Apart name other) :
    (session.template spelling).1.Keeps directory place name := by
  obtain ⟨resources, templates, keeps⟩ := keeps
  unfold Session.template Engine.template
  cases hname : Name.canonicalOrError spelling with
  | error e => exact ⟨_, _, keeps⟩
  | ok other =>
      exact keeps.template segmented (Name.canonical_of_canonicalOrError hname)
        (apart other (Name.canonicalOrError_eq_ok_iff.1 hname))

theorem Keeps.resource (keeps : session.Keeps directory place name) (spelling : String) :
    Keeps { session with engine := (session.engine.resource session.world spelling).1 } directory
      place name := by
  obtain ⟨resources, templates, keeps⟩ := keeps
  unfold Engine.resource
  cases hname : Name.canonicalOrError spelling with
  | error e => exact ⟨_, _, keeps⟩
  | ok other => exact ⟨_, _, keeps.shows.resource session.engine.workshop session.world other,
      keeps.copies⟩

theorem Keeps.perform (keeps : session.Keeps directory place name) {front : List (List Char)}
    {last : List Char} (segmented : Name.Segmented name front last) {operation : Operation}
    (alone : ∀ alter, operation = .change alter →
      LeavesAlone directory place session.world (alter session.world))
    (unrivalled : session.Unrivalled [operation] name) :
    (session.perform operation).Keeps directory place name := by
  cases operation with
  | template spelling =>
      exact keeps.template segmented fun other canonical ne =>
        unrivalled.apart (List.mem_singleton_self _) rfl canonical ne
  | resource spelling => exact keeps.resource spelling
  | hasResource spelling => exact keeps.resource spelling
  | refresh template =>
      rw [Session.perform]
      cases hname : template.name with
      | none => exact keeps
      | some spelling =>
          dsimp only
          split
          · exact keeps.template segmented fun other canonical ne =>
              unrivalled.apart (List.mem_singleton_self _) hname canonical ne
          · exact keeps
  | compileLoose source =>
      obtain ⟨resources, templates, keeps⟩ := keeps
      obtain ⟨ne, apart⟩ := unrivalled.loose (Nat.le_refl _) (Nat.lt_succ_self _)
      exact ⟨_, _, keeps.compileLoose segmented ne apart source⟩
  | clear =>
      obtain ⟨resources, templates, keeps⟩ := keeps
      exact ⟨_, _, keeps.shows.clear, keeps.copies.none⟩
  | change alter =>
      obtain ⟨resources, templates, keeps⟩ := keeps
      have halone := alone alter rfl
      exact ⟨_, _, keeps.shows, keeps.copies.of_same (halone.located keeps.copies.located)
        halone.same⟩
  | _ =>
      obtain ⟨resources, templates, keeps⟩ := keeps
      exact ⟨_, _, keeps.shows, keeps.copies⟩

theorem nextInline_run_le (session : Session) (first second : List Operation) :
    (session.run first).engine.nextInline ≤ (session.run (first ++ second)).engine.nextInline := by
  induction second using List.reverseRecOn with
  | nil => simp
  | append_singleton second operation ih =>
      rw [← List.append_assoc, run_append_singleton]
      exact Nat.le_trans ih (nextInline_le_perform _ operation)

/-- The copies are kept in the course of operations. -/
theorem Keeps.run {front : List (List Char)} {last : List Char}
    (keeps : session.Keeps directory place name) (segmented : Name.Segmented name front last)
    (owns : session.Owns operations directory place)
    (unrivalled : session.Unrivalled operations name) :
    (session.run operations).Keeps directory place name := by
  induction operations using List.reverseRecOn with
  | nil => exact keeps
  | append_singleton operations operation ih =>
      have hnext := session.nextInline_run_le [] operations
      have hlast := session.nextInline_run_le operations [operation]
      have hbefore := ih
        ⟨owns.located, owns.folder, fun part => owns.alone (part.trans (List.prefix_append _ _))⟩
        ⟨fun mem => unrivalled.apart (List.mem_append_left _ mem),
          fun first last => unrivalled.loose first (Nat.lt_of_lt_of_le last hlast)⟩
      rw [run_append_singleton] at hlast ⊢
      refine hbefore.perform segmented ?_ ⟨?_, ?_⟩
      · rintro alter rfl
        exact owns.alone (List.prefix_refl _)
      · intro other spelling named mem
        exact unrivalled.apart (List.mem_append_right _ mem)
      · intro index first last
        refine unrivalled.loose (Nat.le_trans hnext first) ?_
        rw [run_append_singleton]
        exact last

/-- The copy for a source without a name stands where that for a template would, of the name that
begins with a slash. -/
theorem Keeps.read_compileLoose
    (keeps : session.Keeps directory place ("/" ++ Engine.inlineName session.engine.nextInline))
    {source : String} {program : Runnable}
    (compiled : session.engine.workshop.compiler (Engine.inlineName session.engine.nextInline)
      source = .program program)
    (fits : Tree.Fits (artifactPath directory ("/" ++ Engine.inlineName session.engine.nextInline)
      session.engine.caches.units.generation)) :
    (session.perform (.compileLoose source)).world.files.read
        (artifactPath directory ("/" ++ Engine.inlineName session.engine.nextInline)
          session.engine.caches.units.generation)
      = .ok source.toUTF8 := by
  obtain ⟨resources, templates, keeps⟩ := keeps
  exact keeps.read_compileLoose compiled fits

/-! ## The copies of an engine -/

theorem paired_run_of_build {blueprint : Blueprint} {providers : List Provider} {number : Nat}
    {start : World} {engine : Engine} (built : blueprint.build providers number start = .ok engine)
    (world : World) (operations : List Operation) :
    ((Session.mk engine world).run operations).Paired := by
  obtain ⟨symbols, loader, hworkshop, -⟩ := Blueprint.engine_of_build built
  have names : (Session.mk engine world).engine.workshop.source.Names := by
    rw [hworkshop]
    exact loader.names
  have new : (Session.mk engine world).Paired := paired_of_isNew (Engine.isNew_of_build built)
  exact new.run names operations

/-- In an engine as it was built, with a folder for copies that is there and that nobody else
touches: whatever was asked of it and whatever became of its sources, the copy for a template in the
cache, under the name and the generation of that template, holds the source that it was compiled
from. It takes a path that is not too long, nothing in the way of the copy at the beginning, and a
name that is unrivalled. -/
theorem copy_of_cached {blueprint : Blueprint} {providers : List Provider} {number : Nat}
    {start : World} {engine : Engine} (built : blueprint.build providers number start = .ok engine)
    {directory : String} (copies : blueprint.config.compilePath = some directory) {world : World}
    {place : Location} {operations : List Operation}
    (owns : (Session.mk engine world).Owns operations directory place) {name : String}
    {template : LiveTemplate}
    (cached : ((Session.mk engine world).run operations).engine.caches.templates.peek name
      = some template)
    (clear : Clear world.files place name)
    (unrivalled : (Session.mk engine world).Unrivalled operations name)
    (fits : Tree.Fits (artifactPath directory name template.unit.generation)) :
    template.name = some name
      ∧ ((Session.mk engine world).run operations).world.files.read
          (artifactPath directory name template.unit.generation) = .ok template.source.toUTF8 := by
  have paired := paired_run_of_build built world operations
  obtain ⟨_, resources, templates, shows, paired⟩ := paired
  -- what is cached has a canonical name, and so a place of its own
  have hcached : templates name = some template := by rw [← shows.templates.peek, cached]
  obtain ⟨resource, hresource, made⟩ := paired.source hcached
  obtain ⟨front, last, segmented⟩ := Name.exists_segmented (paired.canonical hresource)
  have keeps : (Session.mk engine world).Keeps directory place name :=
    ⟨_, _, Caches.shows_of_build built copies, owns.located, owns.folder, clear, nofun⟩
  obtain ⟨_, templates', shows', keeps⟩ := keeps.run segmented owns unrivalled
  have hkept : templates' name = some template := by rw [← shows'.templates.peek, cached]
  exact ⟨made.name_eq, read_copy segmented keeps.located keeps.folder fits (keeps.holds hkept fits)⟩

/-- An engine over a store in memory that writes copies to a folder. -/
def copying : Blueprint :=
  { printing with config := { reloadable := true, compilePath := some "art" } }

/-- The engine as it is built. -/
def copyingEngine : Engine :=
  { printingEngine with
    config := { reloadable := true, compilePath := some "art" }
    caches := { units := { reloadable := true, directory := some "art" } } }

theorem build_copying : copying.build [] 0 {} = .ok copyingEngine := by
  refine Blueprint.build_eq_ok_iff.2 ⟨{}, .memory 0, rfl, ?_, rfl⟩
  show (Loader.memory 0).prepare {} "." "utf-8" = _
  rw [Loader.prepare, Encoding.check_utf8]
  rfl

/-- An empty store and an empty folder. -/
def bench : World where
  files := { nodes := [(["art"], .folder)] }
  stores := [{}]

/-- The engine with an empty store and an empty folder. -/
def atBench : Session where
  engine := copyingEngine
  world := bench

theorem owns_bench {operations : List Operation}
    (quiet : ∀ alter, Operation.change alter ∉ operations) :
    atBench.Owns operations "art" ["art"] where
  located := Tree.locate_eq_ok_iff.2 ⟨Tree.checkPath_of_short (by simp) rfl (by decide), rfl⟩
  folder := rfl
  alone {_ alter} part :=
    absurd (part.subset (List.mem_append_right _ (List.mem_singleton_self _))) (quiet alter)

/-- Nothing is in the way in an empty folder. -/
theorem clear_bench {name : String} {front : List (List Char)} {last : List Char}
    (segmented : Name.Segmented name front last) : Clear bench.files ["art"] name := by
  have hnone : ∀ location : Location, location ≠ [] →
      bench.files.node? (["art"] ++ location) = none := by
    intro location hne
    simp [bench, Tree.node?, Assoc.find?, hne.symm]
  constructor
  · intro generation location part short
    cases location with
    | nil => exact .inr rfl
    | cons first rest => exact .inl (hnone _ (by simp))
  · intro generation
    rw [hnone _ ?_]
    · simp
    · intro hempty
      have hlength := length_copyPlace segmented generation
      rw [hempty] at hlength
      simp at hlength

/-- A source is replaced after its template was looked up, and one without a name is compiled. -/
def replacedCopy : List Operation :=
  [.insert 0 "a/b" "old", .template "a/b", .compileLoose "loose", .insert 0 "a/b" "new",
    .template "a/b"]

theorem unrivalled_replacedCopy : atBench.Unrivalled replacedCopy "/a/b" where
  apart {operation spelling other} mem seeks canonical ne := by
    have hseeks : ∀ operation ∈ replacedCopy, ∀ spelling, operation.seeks? = some spelling →
        "a/b" = spelling := by
      simp [replacedCopy, Operation.seeks?]
    obtain rfl := hseeks operation mem spelling seeks
    have hcanonical : Name.canonical "a/b" = .ok "/a/b" := by rfl
    exact absurd (Except.ok.inj (hcanonical.symm.trans canonical)) ne
  loose {index} first last := by
    have hfirst : atBench.engine.nextInline = 1 := by decide +kernel
    have hlast : (atBench.run replacedCopy).engine.nextInline = 2 := by decide +kernel
    obtain rfl : index = 1 := by omega
    refine ⟨by decide, ?_⟩
    rintro ⟨generation, rest, h⟩
    simpa [Engine.inlineName] using congrArg String.toList h

theorem copy_of_replacedCopy :
    ∃ template, (atBench.run replacedCopy).engine.caches.templates.peek "/a/b" = some template
      ∧ template.source = "new"
      ∧ (atBench.run replacedCopy).world.files.read "art/a/b.g2.hbs" = .ok "new".toUTF8 := by
  have hcached : ((atBench.run replacedCopy).engine.caches.templates.peek "/a/b").map
      (fun template => (template.source, template.unit.generation)) = some ("new", ⟨2⟩) := by
    decide +kernel
  obtain ⟨template, hpeek, hmade⟩ := Option.map_eq_some_iff.1 hcached
  obtain ⟨hsource, hgeneration⟩ := Prod.mk.inj hmade
  have segmented : Name.Segmented "/a/b" [['a']] ['b'] := by
    refine ⟨by decide, fun segment hmem => ?_⟩
    rcases List.mem_pair.1 hmem with rfl | rfl <;>
      constructor <;> simp [Name.isSeparator]
  have hpath : artifactPath "art" "/a/b" template.unit.generation = "art/a/b.g2.hbs" := by
    rw [hgeneration]
    rfl
  have fits : Tree.Fits (artifactPath "art" "/a/b" template.unit.generation) := by
    rw [hpath]
    exact ⟨Tree.checkPath_of_short (by simp) rfl (by decide), by decide⟩
  have hbench : atBench = Session.mk copyingEngine bench := rfl
  rw [hbench] at hpeek ⊢
  have hread := (copy_of_cached build_copying rfl (owns_bench (by simp [replacedCopy])) hpeek
    (clear_bench segmented) unrivalled_replacedCopy fits).2
  rw [hpath, hsource] at hread
  exact ⟨template, hpeek, hsource, hread⟩

/-- A template is made of the name that the first source without a name is compiled under. -/
def beforeLoose : List Operation :=
  [.insert 0 "inline-1" "named", .template "inline-1"]

theorem nextInline_beforeLoose : (atBench.run beforeLoose).engine.nextInline = 1 := by
  decide +kernel

theorem keeps_beforeLoose :
    (atBench.run beforeLoose).Keeps "art" ["art"] ("/" ++ Engine.inlineName 1) := by
  have owns : atBench.Owns beforeLoose "art" ["art"] := owns_bench (by simp [beforeLoose])
  have hstart : atBench.Keeps "art" ["art"] ("/" ++ Engine.inlineName 1) :=
    ⟨_, _, Caches.shows_of_build build_copying rfl, owns.located, owns.folder,
      clear_bench (segmented_inline 1), nofun⟩
  refine hstart.run (segmented_inline 1) owns ⟨?_, ?_⟩
  · intro operation spelling other mem seeks canonical ne
    have hspelling : "inline-1" = spelling := by
      rcases List.mem_pair.1 mem with rfl | rfl
      · cases seeks
      · exact Option.some.inj seeks
    subst hspelling
    have hcanonical : Name.canonical "inline-1" = .ok ("/" ++ Engine.inlineName 1) := by rfl
    exact absurd (Except.ok.inj (hcanonical.symm.trans canonical)) ne
  · intro index first last
    rw [nextInline_beforeLoose] at last
    exact absurd (Nat.lt_of_le_of_lt first last) (Nat.lt_irrefl 1)

/-- The copy for a source without a name takes the place of the copy for a template in the cache. -/
theorem overwritten_by_loose :
    copying.build [] 0 {} = .ok copyingEngine
      ∧ atBench.Owns (beforeLoose ++ [.compileLoose "loose"]) "art" ["art"]
      ∧ ∃ template,
          (atBench.run (beforeLoose ++ [.compileLoose "loose"])).engine.caches.templates.peek
              "/inline-1" = some template
          ∧ template.source = "named"
          ∧ (atBench.run (beforeLoose ++ [.compileLoose "loose"])).world.files.read
              (artifactPath "art" "/inline-1" template.unit.generation) = .ok "loose".toUTF8 := by
  refine ⟨build_copying, owns_bench (by simp [beforeLoose]), ?_⟩
  have hcached : ((atBench.run
      (beforeLoose ++ [.compileLoose "loose"])).engine.caches.templates.peek "/inline-1").map
        (fun template => (template.source, template.unit.generation)) = some ("named", ⟨1⟩) := by
    decide +kernel
  obtain ⟨template, hpeek, hmade⟩ := Option.map_eq_some_iff.1 hcached
  obtain ⟨hsource, hgeneration⟩ := Prod.mk.inj hmade
  refine ⟨template, hpeek, hsource, ?_⟩
  have hunits : (atBench.run beforeLoose).engine.caches.units.generation = ⟨1⟩ := by
    decide +kernel
  have hworkshop : (atBench.run beforeLoose).engine.workshop = copyingEngine.workshop :=
    workshop_run _ _
  have hpath : artifactPath "art" ("/" ++ Engine.inlineName 1) ⟨1⟩ = "art/inline-1.g1.hbs" := by rfl
  have fits : Tree.Fits "art/inline-1.g1.hbs" :=
    ⟨Tree.checkPath_of_short (by simp) rfl (by decide), by decide⟩
  have hname : "/" ++ Engine.inlineName 1 = "/inline-1" := by decide
  have keeps := keeps_beforeLoose
  rw [← nextInline_beforeLoose] at keeps
  have hcompiled : (atBench.run beforeLoose).engine.workshop.compiler
      (Engine.inlineName (atBench.run beforeLoose).engine.nextInline) "loose"
        = .program fun _ => .ok "loose" := by
    rw [hworkshop]
    rfl
  have hread := keeps.read_compileLoose hcompiled
    (by rw [nextInline_beforeLoose, hunits, hpath]; exact fits)
  rw [nextInline_beforeLoose, hunits, hname, ← run_append_singleton] at hread
  rw [hgeneration]
  exact hread

end Session

end LiveTemplates
