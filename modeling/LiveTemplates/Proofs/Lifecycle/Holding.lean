import LiveTemplates.Proofs.Assoc
import LiveTemplates.Proofs.Lifecycle.Keeping

set_option autoImplicit false

/-! # What is held under handles

Which engine is held under a handle is read off the history of a host: the one that was handed out
for the handle the last time, or that was shared with it, unless the handle has been released since
(`Host.find?_engineHandles_performAll`). So it is the history that says which engines are kept. -/

namespace LiveTemplates

namespace History

/-- The handle for which something comes to be held or is released, and the engine that is held under
it then, where it is known what is held under handles before. -/
def holds? (held : String → Option Nat) :
    HostOperation × HostAnswer → Option (String × Option Nat)
  | (.fill _ (some handle), .engine (.ok number)) => some (handle, some number)
  | (.engine (some handle), .engine (.ok number)) => some (handle, some number)
  | (.teardown (some handle), .released (some number)) => some (handle, some number)
  | (.build _ handle, .engine (.ok number)) => some (handle, some number)
  | (.share handle other, _) => (held handle).map fun number => (other, some number)
  | (.release handle, _) => some (handle, none)
  | _ => none

/-- What is held under handles after something has happened. -/
def note (held : String → Option Nat) (entry : HostOperation × HostAnswer) (handle : String) :
    Option Nat :=
  match holds? held entry with
  | some (other, number) => if handle = other then number else held handle
  | none => held handle

/-- The engine that is held under a handle after all that has happened. -/
def held? (history : History) : String → Option Nat :=
  history.foldl note fun _ => none

theorem held?_append_singleton (history : History) (entry : HostOperation × HostAnswer) :
    held? (history ++ [entry]) = note history.held? entry := by
  rw [held?, List.foldl_append]
  rfl

end History

namespace Host

variable {host : Host} {operation : HostOperation}

/-! ## What an operation does to handles -/

theorem engineHandles_takeTemplate (host : Host) (handle : Option String)
    (outcome : Except TemplateError LiveTemplate) :
    (host.takeTemplate handle outcome).engineHandles = host.engineHandles := by
  unfold takeTemplate
  split <;> rfl

theorem engineHandles_refresh (host : Host) (template : LiveTemplate) :
    (host.refresh template).1.engineHandles = host.engineHandles := by
  unfold refresh
  split
  · rfl
  · split <;> rfl

/-- The engine that is held under a handle. -/
def held? (host : Host) (handle : String) : Option Nat :=
  Assoc.find? handle host.engineHandles

/-- An operation sets or releases one handle at most, and which is seen from what it gives. -/
theorem engineHandles_perform (host : Host) (operation : HostOperation) :
    (host.perform operation).1.engineHandles
      = match History.holds? host.held? (operation, (host.perform operation).2) with
        | some (handle, some number) => Assoc.set handle number host.engineHandles
        | some (handle, none) => Assoc.erase handle host.engineHandles
        | none => host.engineHandles := by
  cases operation with
  | fill supply handle =>
      have hfill := (host.handles_fill supply).1
      dsimp only [perform]
      generalize host.fill supply = filled at hfill ⊢
      obtain ⟨after, outcome⟩ := filled
      cases handle with
      | none => exact hfill
      | some handle =>
          cases outcome with
          | error e => exact hfill
          | ok number => exact congrArg (Assoc.set handle number) hfill
  | engine handle =>
      dsimp only [perform]
      generalize host.current = outcome
      cases handle <;> cases outcome <;> rfl
  | isAvailable => rfl
  | teardown handle =>
      dsimp only [perform, teardown]
      cases host.slot <;> cases handle <;> rfl
  | build build handle =>
      dsimp only [perform, buildHeld]
      cases build.run host.nextEngine host.world <;> rfl
  | share handle other =>
      dsimp only [perform, History.holds?, held?]
      cases Assoc.find? handle host.engineHandles <;> rfl
  | release handle => rfl
  | template asked spelling handle =>
      dsimp only [perform]
      cases host.engineOf? asked with
      | none => rfl
      | some engine => exact engineHandles_takeTemplate ..
  | compileLoose asked source handle =>
      dsimp only [perform]
      cases host.engineOf? asked with
      | none => rfl
      | some engine => exact engineHandles_takeTemplate ..
  | refresh template handle =>
      dsimp only [perform]
      cases Assoc.find? template host.templateHandles with
      | none => rfl
      | some template =>
          exact (engineHandles_takeTemplate ..).trans (host.engineHandles_refresh template)
  | releaseTemplate handle => rfl
  | work asked operation =>
      dsimp only [perform]
      cases host.engineOf? asked <;> rfl
  | change alter => rfl

theorem held?_perform (host : Host) (operation : HostOperation) :
    (host.perform operation).1.held?
      = History.note host.held? (operation, (host.perform operation).2) := by
  funext handle
  rw [held?, engineHandles_perform, History.note]
  cases History.holds? host.held? (operation, (host.perform operation).2) with
  | none => rfl
  | some assigned =>
      obtain ⟨other, number⟩ := assigned
      cases number with
      | none => exact Assoc.find?_erase other handle host.engineHandles
      | some number => exact Assoc.find?_set other handle number host.engineHandles

theorem nodup_engineHandles_perform (h : (host.engineHandles.map Prod.fst).Nodup) :
    ((host.perform operation).1.engineHandles.map Prod.fst).Nodup := by
  rw [engineHandles_perform]
  split
  · exact Assoc.nodup_set _ _ h
  · exact Assoc.nodup_erase h
  · exact h

/-! ## What a history says about handles -/

section Histories

variable {providers : List Provider} {world : World}

theorem held?_performAll (providers : List Provider) (world : World)
    (operations : List HostOperation) :
    (performAll { providers, world } operations).1.held?
      = (performAll { providers, world } operations).2.held? := by
  induction operations using List.reverseRecOn with
  | nil => rfl
  | append_singleton operations operation ih =>
      rw [performAll_append_singleton, History.held?_append_singleton, held?_perform, ih]

theorem nodup_engineHandles (providers : List Provider) (world : World)
    (operations : List HostOperation) :
    ((performAll { providers, world } operations).1.engineHandles.map Prod.fst).Nodup := by
  induction operations using List.reverseRecOn with
  | nil => exact List.nodup_nil
  | append_singleton operations operation ih =>
      rw [performAll_append_singleton]
      exact nodup_engineHandles_perform ih

end Histories

/-- Where every handle is there once, an engine is kept if it is in the slot or held under one. -/
theorem keeps_iff_held? (own : (host.engineHandles.map Prod.fst).Nodup) {number : Nat} :
    host.keeps number = true
      ↔ host.slot = some number ∨ ∃ handle, host.held? handle = some number := by
  rw [keeps_iff]
  refine or_congr_right ⟨?_, ?_⟩
  · rintro ⟨⟨handle, _⟩, hmem, rfl⟩
    exact ⟨handle, Assoc.find?_of_mem own hmem⟩
  · rintro ⟨handle, hheld⟩
    exact ⟨_, Assoc.mem_of_find? hheld, rfl⟩

end Host

end LiveTemplates
