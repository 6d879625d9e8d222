import LiveTemplates.Proofs.Files.Writing
import LiveTemplates.Proofs.Loader.Faithful
import LiveTemplates.Proofs.Loader.Marks

set_option autoImplicit false

/-! # What a probe tells

A loader can be asked for the mark of a source alone, which is less work than a load, and each kind
of loader does it in a way of its own. `Loader.Tells` lists what a load and a probe of one name can
come to beside each other. They differ in a single case: a file whose bytes are no text has a mark
and cannot be loaded. A search through several loaders keeps to the list (`Tells.first`), since it
ends at the same loader on both sides, so every nest of loaders does (`tells`). -/

namespace LiveTemplates

namespace Loader

/-- What a load of a name and a probe for its mark come to beside each other. -/
inductive Tells (name : String) :
    Except TemplateError (Option Resource) → Except TemplateError (Option Fingerprint) → Prop where
  | absent : Tells name (.ok none) (.ok none)
  | served (resource : Resource) :
      Tells name (.ok (some resource)) (.ok (some resource.fingerprint))
  | failed (e : TemplateError) : Tells name (.error e) (.error e)
  /-- The bytes of the file are no text, which only the load has seen. -/
  | unread (fault : Utf8.Fault) (mark : Fingerprint) :
      Tells name (.error (.io name (.notText fault))) (.ok (some mark))

namespace Tells

variable {name : String} {outcome : Except TemplateError (Option Resource)}
  {told : Except TemplateError (Option Fingerprint)} {e : TemplateError}

/-- A probe that looks at a whole load tells the mark of what is loaded. -/
theorem of_load (name : String) (outcome : Except TemplateError (Option Resource)) :
    Tells name outcome (outcome.map fun found => found.map Resource.fingerprint) := by
  cases outcome with
  | error e => exact .failed e
  | ok found =>
      cases found with
      | none => exact .absent
      | some resource => exact .served resource

theorem marked {found : Option Resource} (tells : Tells name outcome told)
    (h : outcome = .ok found) : told = .ok (found.map Resource.fingerprint) := by
  cases tells with
  | absent =>
      cases h
      rfl
  | served resource =>
      cases h
      rfl
  | failed e => cases h
  | unread fault mark => cases h

theorem unmarked (tells : Tells name outcome told) (h : told = .error e) :
    outcome = .error e := by
  cases tells with
  | absent => cases h
  | served resource => cases h
  | failed e =>
      cases h
      rfl
  | unread fault mark => cases h

theorem absent_of_unmarked (tells : Tells name outcome told) (h : told = .ok none) :
    outcome = .ok none := by
  cases tells with
  | absent => rfl
  | served resource => cases h
  | failed e => cases h
  | unread fault mark => cases h

/-- Where a load fails, the probe fails as well, unless the bytes of a file are no text. -/
theorem refused (tells : Tells name outcome told) (h : outcome = .error e) :
    told = .error e ∨ ∃ fault mark, e = .io name (.notText fault) ∧ told = .ok (some mark) := by
  cases tells with
  | absent => cases h
  | served resource => cases h
  | failed e =>
      cases h
      exact .inl rfl
  | unread fault mark =>
      cases h
      exact .inr ⟨fault, mark, rfl, rfl⟩

end Tells

variable (world : World) (name : String)

theorem tells_file (path : String) (origin : Origin) :
    Tells name (loadFile world name path origin) (fileFingerprint world name path) := by
  unfold loadFile fileFingerprint
  cases world.files.source? name path with
  | error e => exact .failed e
  | ok found =>
      cases found with
      | none => exact .absent
      | some found =>
          show Tells name ((resourceOfFile name origin found).map some)
            (.ok (some (.ofModified found.2)))
          unfold resourceOfFile
          cases Utf8.decode found.1 with
          | ok content => exact .served _
          | error fault => exact .unread fault _

/-- Where one loader has nothing, load and probe go on to the next; otherwise both end here. -/
theorem Tells.first {loader : Loader} {rest : List Loader}
    (head : Tells name (loader.load world name) (loader.fingerprint world name))
    (tail : Tells name (loadFirst world name rest) (fingerprintFirst world name rest)) :
    Tells name (loadFirst world name (loader :: rest))
      (fingerprintFirst world name (loader :: rest)) := by
  rw [loadFirst, fingerprintFirst]
  generalize loader.load world name = outcome at head ⊢
  generalize loader.fingerprint world name = told at head ⊢
  cases head with
  | absent => exact tail
  | served resource => exact .served resource
  | failed e => exact .failed e
  | unread fault mark => exact .unread fault mark

mutual

/-- What a loader loads and what it tells of the mark, in any world and under any name. -/
theorem tells : (loader : Loader) →
    Tells name (loader.load world name) (loader.fingerprint world name)
  | memory store => by
      rw [load, fingerprint, MemoryStore.fingerprint_eq_map_load]
      exact .of_load name (.ok _)
  | rooted root => by
      rw [load, fingerprint]
      cases resolve "filesystem" root name with
      | ok path => exact tells_file world name path _
      | error e => exact .failed e
  | external root => by
      rw [load, fingerprint]
      cases resolve "external" root name with
      | ok path => exact tells_file world name path _
      | error e => exact .failed e
  | composite loaders => by
      rw [load, fingerprint]
      exact tellsFirst loaders
  | wholly kind loader => by
      rw [load, fingerprint]
      exact .of_load name _

theorem tellsFirst : (loaders : List Loader) →
    Tells name (loadFirst world name loaders) (fingerprintFirst world name loaders)
  | [] => by
      rw [loadFirst, fingerprintFirst]
      exact .absent
  | loader :: rest => .first world name (tells loader) (tellsFirst rest)

end

/-- A loader tells the marks of what it loads, and where it cannot tell it cannot load. -/
theorem agrees (loader : Loader) (world : World) : loader.source.Agrees world where
  marked {name _} hload := (loader.tells world name).marked hload
  unmarked {name _} hmark := (loader.tells world name).unmarked hmark

/-- A probe comes to the mark of what a load comes to, and to none where the load finds nothing. It
fails only where the load fails for the same reason. The load may fail alone, which means that it
has come to a file whose bytes are no text; that is so because in a tree there are no permissions, and
every file can be read. Where a file can be seen but not read, a load fails alone for that reason as
well. -/
theorem probe_agrees_with_load (loader : Loader) (world : World) (name : String) :
    (∀ found, loader.load world name = .ok found →
        loader.fingerprint world name = .ok (found.map Resource.fingerprint))
      ∧ (∀ e, loader.fingerprint world name = .error e → loader.load world name = .error e)
      ∧ ∀ e, loader.load world name = .error e →
          loader.fingerprint world name = .error e
            ∨ ∃ fault mark, e = .io name (.notText fault)
                ∧ loader.fingerprint world name = .ok (some mark) := by
  refine ⟨?_, ?_, ?_⟩
  · intro found hload
    exact (loader.agrees world).marked hload
  · intro e hmark
    exact (loader.agrees world).unmarked hmark
  · intro e hload
    exact (loader.tells world name).refused hload

/-- A folder with a text and a file that is no text. -/
def drawer : World where
  files :=
    { nodes :=
        [(["t"], .folder), (["t", "a"], .file "in".toUTF8 ⟨5⟩), (["t", "b"], .file ⟨#[0xff]⟩ ⟨7⟩)] }

/-- A loader over a store, the folder and the whole file system, one nested in another. -/
def nest : Loader :=
  .composite [.memory 0, .composite [.rooted (some "t"), .external (some "/")]]

theorem source?_drawer :
    drawer.files.source? "/a" "t/a" = .ok (some ("in".toUTF8, ⟨5⟩))
      ∧ drawer.files.source? "/a/x" "t/a/x" = .error (.io "/a/x" .notDirectory)
      ∧ drawer.files.source? "/b" "t/b" = .ok (some (⟨#[0xff]⟩, ⟨7⟩)) := by
  have hserved : drawer.files.locate "t/a" = .ok ["t", "a"] :=
    Tree.locate_eq_ok_iff.2 ⟨Tree.checkPath_of_short (by simp) rfl (by decide), rfl⟩
  have hblocked : drawer.files.locate "t/a/x" = .error .notDirectory := by
    rw [Tree.locate, Tree.checkPath_of_short (by simp) rfl (by decide)]
    rfl
  have hunread : drawer.files.locate "t/b" = .ok ["t", "b"] :=
    Tree.locate_eq_ok_iff.2 ⟨Tree.checkPath_of_short (by simp) rfl (by decide), rfl⟩
  refine ⟨?_, ?_, ?_⟩
  · rw [Tree.source?, Tree.look, hserved]
    rfl
  · rw [Tree.source?, Tree.look, hblocked]
  · rw [Tree.source?, Tree.look, hunread]
    rfl

/-- The text is told as it is loaded, a path through it is refused both ways, and the file that is no
text is told only. -/
theorem probe_of_drawer :
    nest.fingerprint drawer "/a" = .ok (some ⟨5⟩)
      ∧ nest.load drawer "/a/x" = .error (.io "/a/x" .notDirectory)
      ∧ nest.load drawer "/b" = .error (.io "/b" (.notText (.invalid 1 0)))
      ∧ ∃ mark, nest.fingerprint drawer "/b" = .ok (some mark) := by
  obtain ⟨hserved, hblocked, hunread⟩ := source?_drawer
  have hload : nest.load drawer "/a" = .ok (some ⟨"/a", "in", ⟨5⟩, .filesystem "t/a"⟩) := by
    have hpath : Path.join "t" (Path.relative "/a") = "t/a" := rfl
    simp only [nest, load, loadFirst, resolve, hpath, loadFile, hserved]
    rfl
  have hrefused : nest.fingerprint drawer "/a/x" = .error (.io "/a/x" .notDirectory) := by
    have hpath : Path.join "t" (Path.relative "/a/x") = "t/a/x" := rfl
    simp only [nest, fingerprint, fingerprintFirst, resolve, hpath, fileFingerprint, hblocked]
    rfl
  have hpath : Path.join "t" (Path.relative "/b") = "t/b" := rfl
  have hbroken : nest.load drawer "/b" = .error (.io "/b" (.notText (.invalid 1 0))) := by
    have hfault : Utf8.fault? ⟨#[0xff]⟩ = some (.invalid 1 0) := by decide +kernel
    have hdecode : Utf8.decode ⟨#[0xff]⟩ = .error (.invalid 1 0) := by
      rw [Utf8.decode, hfault]
      rfl
    simp only [nest, load, loadFirst, resolve, hpath, loadFile, hunread, resourceOfFile, hdecode]
    rfl
  refine ⟨(probe_agrees_with_load nest drawer "/a").1 _ hload,
    (probe_agrees_with_load nest drawer "/a/x").2.1 _ hrefused, hbroken, ?_⟩
  obtain hfailed | ⟨-, mark, -, hmark⟩ := (probe_agrees_with_load nest drawer "/b").2.2 _ hbroken
  · simp only [nest, fingerprint, fingerprintFirst, resolve, hpath, fileFingerprint, hunread]
      at hfailed
    cases hfailed
  · exact ⟨mark, hmark⟩

end Loader

end LiveTemplates
