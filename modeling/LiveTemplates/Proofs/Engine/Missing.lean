import LiveTemplates.Engine.Basic
import LiveTemplates.Proofs.Engine.Afresh

set_option autoImplicit false

/-! # Who reports that a resource is missing

A loader that finds nothing says so without an error, and a compiler only ever reports what is wrong
with a source. So in an engine as it is built, the error that a resource is missing always comes from
the engine itself, and means that the loader has found nothing. -/

namespace LiveTemplates

namespace Loader

theorem resolve_ne_resourceNotFound (kind : String) (root : Option String) (name missing : String) :
    resolve kind root name ≠ .error (.resourceNotFound missing) := by
  unfold resolve
  cases root <;> simp

theorem loadFile_ne_resourceNotFound (world : World) (name path : String) (origin : Origin)
    (missing : String) :
    loadFile world name path origin ≠ .error (.resourceNotFound missing) := by
  unfold loadFile
  cases hfile : world.files.source? name path with
  | error e =>
      rintro ⟨rfl⟩
      unfold Tree.source? at hfile
      split at hfile <;> cases hfile
  | ok found =>
      cases found with
      | none => nofun
      | some found =>
          dsimp only
          unfold resourceOfFile
          split <;> simp [Except.map]

mutual

/-- No loader reports on its own that a resource is missing. -/
theorem load_ne_resourceNotFound (world : World) (name missing : String) :
    (loader : Loader) → loader.load world name ≠ .error (.resourceNotFound missing)
  | memory store => nofun
  | rooted root => by
      unfold load
      split
      · exact loadFile_ne_resourceNotFound _ _ _ _ _
      · next e hroot =>
          rintro ⟨rfl⟩
          exact resolve_ne_resourceNotFound _ _ _ _ hroot
  | external root => by
      unfold load
      split
      · exact loadFile_ne_resourceNotFound _ _ _ _ _
      · next e hroot =>
          rintro ⟨rfl⟩
          exact resolve_ne_resourceNotFound _ _ _ _ hroot
  | composite loaders => by
      unfold load
      exact loadFirst_ne_resourceNotFound world name missing loaders
  | wholly _ loader => by
      unfold load
      exact load_ne_resourceNotFound world name missing loader

theorem loadFirst_ne_resourceNotFound (world : World) (name missing : String) :
    (loaders : List Loader) → loadFirst world name loaders ≠ .error (.resourceNotFound missing)
  | [] => by
      unfold loadFirst
      nofun
  | loader :: rest => by
      unfold loadFirst
      split
      · exact loadFirst_ne_resourceNotFound world name missing rest
      · exact load_ne_resourceNotFound world name missing loader

end

theorem fileFingerprint_ne_resourceNotFound (world : World) (name path missing : String) :
    fileFingerprint world name path ≠ .error (.resourceNotFound missing) := by
  unfold fileFingerprint Tree.source?
  split <;> simp [Except.map]

mutual

/-- No loader that is asked for a fingerprint reports that the resource is missing. -/
theorem fingerprint_ne_resourceNotFound (world : World) (name missing : String) :
    (loader : Loader) → loader.fingerprint world name ≠ .error (.resourceNotFound missing)
  | memory store => nofun
  | rooted root => by
      unfold fingerprint
      split
      · exact fileFingerprint_ne_resourceNotFound _ _ _ _
      · next e hroot =>
          rintro ⟨rfl⟩
          exact resolve_ne_resourceNotFound _ _ _ _ hroot
  | external root => by
      unfold fingerprint
      split
      · exact fileFingerprint_ne_resourceNotFound _ _ _ _
      · next e hroot =>
          rintro ⟨rfl⟩
          exact resolve_ne_resourceNotFound _ _ _ _ hroot
  | composite loaders => by
      unfold fingerprint
      exact fingerprintFirst_ne_resourceNotFound world name missing loaders
  | wholly _ loader => by
      unfold fingerprint
      cases hload : loader.load world name with
      | ok found => nofun
      | error e =>
          rintro ⟨rfl⟩
          exact load_ne_resourceNotFound world name missing loader hload

theorem fingerprintFirst_ne_resourceNotFound (world : World) (name missing : String) :
    (loaders : List Loader) →
      fingerprintFirst world name loaders ≠ .error (.resourceNotFound missing)
  | [] => by
      unfold fingerprintFirst
      nofun
  | loader :: rest => by
      unfold fingerprintFirst
      split
      · exact fingerprintFirst_ne_resourceNotFound world name missing rest
      · exact fingerprint_ne_resourceNotFound world name missing loader

end

end Loader

theorem Compiler.ofSymbols_ne_rejected (symbols : SymbolTable) (name text missing : String) :
    Compiler.ofSymbols symbols name text ≠ .rejected (.resourceNotFound missing) := by
  unfold Compiler.ofSymbols Program.ofSource
  cases Program.compile symbols name text <;> exact nofun

/-- In an engine as it is built only the engine itself reports that a resource is missing. -/
theorem Engine.leavesMissing_of_build {blueprint : Blueprint} {providers : List Provider}
    {number : Nat} {start : World} {engine : Engine}
    (h : blueprint.build providers number start = .ok engine)
    (compiler : blueprint.compiler = Compiler.ofSymbols) (world : World) (name : String) :
    engine.workshop.LeavesMissing world name := by
  obtain ⟨symbols, loader, hworkshop, -⟩ := Blueprint.engine_of_build h
  rw [hworkshop, compiler]
  exact ⟨Loader.load_ne_resourceNotFound world name name loader,
    fun text => Compiler.ofSymbols_ne_rejected symbols name text name⟩

namespace Workshop

variable {workshop : Workshop} {world : World} {name : String}

/-- A resource that is reported missing was not found. -/
theorem load_of_produceResource_missing (leaves : workshop.LeavesMissing world name)
    (h : workshop.produceResource world name = .error (.resourceNotFound name)) :
    workshop.source.load world name = .ok none := by
  unfold produceResource at h
  split at h
  · cases h
  · next hload => exact hload
  · next hload =>
      cases h
      exact absurd hload leaves.loader

/-- Only the engine itself ever reports that a resource is missing: neither the compiler does nor
the loader, whether it is asked for a resource or for a fingerprint. -/
structure Discreet (workshop : Workshop) : Prop where
  leaves (world : World) (name : String) : workshop.LeavesMissing world name
  marks (world : World) (name : String) :
    workshop.source.fingerprint world name ≠ .error (.resourceNotFound name)

end Workshop

/-- An engine as it is built is discreet. -/
theorem Engine.discreet_of_build {blueprint : Blueprint} {providers : List Provider}
    {number : Nat} {start : World} {engine : Engine}
    (h : blueprint.build providers number start = .ok engine)
    (compiler : blueprint.compiler = Compiler.ofSymbols) : engine.workshop.Discreet where
  leaves := Engine.leavesMissing_of_build h compiler
  marks world name := by
    obtain ⟨symbols, loader, hworkshop, -⟩ := Blueprint.engine_of_build h
    rw [hworkshop]
    exact Loader.fingerprint_ne_resourceNotFound world name name loader

end LiveTemplates
