import LiveTemplates.Lifecycle.Operation
import LiveTemplates.Proofs.Engine.Belonging

set_option autoImplicit false

/-! # Filling the slot

Whoever fills the slot is given the engine that is in it; only if there is none, the supply is asked
for one (`Host.fill_eq`). What a supply gives is a new engine under the next number, or an engine
that is held (`Host.supplied_eq_ok`). -/

namespace LiveTemplates

/-- The build of a blueprint. -/
def Build.ofBlueprint (providers : List Provider) (blueprint : Blueprint) : Build where
  run number world := blueprint.build providers number world
  number_eq {number world engine} h := by
    obtain ⟨symbols, loader, hworkshop, -⟩ := Blueprint.engine_of_build h
    rw [Engine.number, hworkshop]
  isNew h := Engine.isNew_of_build h

theorem Build.bears (build : Build) {number : Nat} {world : World} {engine : Engine}
    (h : build.run number world = .ok engine) : engine.Bears number :=
  build.number_eq h ▸ (build.isNew h).bears

namespace Host

variable {host after : Host} {engine : Engine} {number : Nat}

/-! ## What a supply gives -/

/-- What comes of a way to build an engine. -/
def built (host : Host) (build : Builder) : Except TemplateError (Host × Nat) :=
  (build host.nextEngine host.world).map fun engine => (host.add engine, host.nextEngine)

/-- What a supply gives when it is asked: an engine, and the host with it. -/
def supplied (host : Host) : Supply → Except TemplateError (Host × Nat)
  | .blueprint blueprint => host.built (host.builderOf blueprint)
  | .file path environment => host.built (host.builderOfFile path environment)
  | .build build => host.built build.run
  | .held handle =>
    match Assoc.find? handle host.engineHandles with
    | some number => .ok (host, number)
    | none => .error .engineNotInitialized

theorem bears_of_builderOf {blueprint : Blueprint} {world : World}
    (h : host.builderOf blueprint number world = .ok engine) : engine.Bears number :=
  (Build.ofBlueprint host.providers blueprint).bears h

theorem bears_of_builderOfFile {path : String} {environment : List (String × String)}
    {world : World} (h : host.builderOfFile path environment number world = .ok engine) :
    engine.Bears number := by
  unfold builderOfFile at h
  split at h
  · exact bears_of_builderOf h
  · cases h

/-- A supply gives a new engine, or one that is held. -/
theorem supplied_eq_ok {supply : Supply} (h : host.supplied supply = .ok (after, number)) :
    (∃ engine : Engine, engine.Bears host.nextEngine ∧ after = host.add engine
        ∧ number = host.nextEngine)
      ∨ (after = host ∧ ∃ handle, Assoc.find? handle host.engineHandles = some number) := by
  have hbuilt : ∀ {build : Builder}, host.built build = .ok (after, number) →
      ∃ engine : Engine, build host.nextEngine host.world = .ok engine ∧ after = host.add engine
        ∧ number = host.nextEngine := fun {build} h => by
    unfold built at h
    cases hbuild : build host.nextEngine host.world with
    | error e =>
        rw [hbuild] at h
        cases h
    | ok engine =>
        rw [hbuild] at h
        cases h
        exact ⟨engine, rfl, rfl, rfl⟩
  cases supply with
  | blueprint blueprint =>
      obtain ⟨engine, hbuild, hafter⟩ := hbuilt h
      exact .inl ⟨engine, bears_of_builderOf hbuild, hafter⟩
  | file path environment =>
      obtain ⟨engine, hbuild, hafter⟩ := hbuilt h
      exact .inl ⟨engine, bears_of_builderOfFile hbuild, hafter⟩
  | build build =>
      obtain ⟨engine, hbuild, hafter⟩ := hbuilt h
      exact .inl ⟨engine, build.bears hbuild, hafter⟩
  | held handle =>
      unfold supplied at h
      dsimp only at h
      cases hfound : Assoc.find? handle host.engineHandles with
      | none =>
          rw [hfound] at h
          cases h
      | some found =>
          rw [hfound] at h
          cases h
          exact .inr ⟨rfl, handle, hfound⟩

/-! ## The slot afterwards -/

/-- The slot is filled with what a supply gave. If it failed, nothing has happened. -/
def filledBy (host : Host) :
    Except TemplateError (Host × Nat) → Host × Except TemplateError Nat
  | .ok (after, number) => ({ after with slot := some number }, .ok number)
  | .error e => (host, .error e)

/-- The supply is asked if and only if the slot is empty. -/
theorem fill_eq (host : Host) (supply : Supply) :
    host.fill supply
      = match host.slot with
        | some number => (host, .ok number)
        | none => host.filledBy (host.supplied supply) := by
  have hinstall : ∀ build : Builder, host.install build
      = match host.slot with
        | some number => (host, .ok number)
        | none => host.filledBy (host.built build) := fun build => by
    unfold install built
    cases host.slot with
    | some number => rfl
    | none => cases build host.nextEngine host.world <;> rfl
  cases supply with
  | blueprint blueprint => exact hinstall _
  | file path environment => exact hinstall _
  | build build => exact hinstall _
  | held handle =>
      unfold fill adopt supplied
      dsimp only
      cases host.slot with
      | some number => rfl
      | none => cases Assoc.find? handle host.engineHandles <;> rfl

theorem fill_of_slot (hslot : host.slot = some number) (supply : Supply) :
    host.fill supply = (host, .ok number) := by
  rw [fill_eq, hslot]

theorem fill_of_empty (hslot : host.slot = none) (supply : Supply) :
    host.fill supply = host.filledBy (host.supplied supply) := by
  rw [fill_eq, hslot]

/-- The engine that is given is in the slot, and none is in it if none is given. -/
theorem slot_fill (host : Host) (supply : Supply) :
    (host.fill supply).1.slot = (host.fill supply).2.toOption := by
  cases hslot : host.slot with
  | some number =>
      rw [fill_of_slot hslot]
      exact hslot
  | none =>
      rw [fill_of_empty hslot]
      cases host.supplied supply with
      | error e => exact hslot
      | ok given => rfl

/-- Whatever is held under handles stays held under them. -/
theorem handles_fill (host : Host) (supply : Supply) :
    (host.fill supply).1.engineHandles = host.engineHandles
      ∧ (host.fill supply).1.templateHandles = host.templateHandles := by
  cases hslot : host.slot with
  | some number =>
      rw [fill_of_slot hslot]
      exact ⟨rfl, rfl⟩
  | none =>
      rw [fill_of_empty hslot]
      cases hsupplied : host.supplied supply with
      | error e => exact ⟨rfl, rfl⟩
      | ok given =>
          obtain ⟨after, number⟩ := given
          obtain ⟨engine, -, rfl, -⟩ | ⟨rfl, -⟩ := supplied_eq_ok hsupplied <;> exact ⟨rfl, rfl⟩

theorem toOption_current (host : Host) : host.current.toOption = host.slot := by
  unfold current
  cases host.slot <;> rfl

end Host

end LiveTemplates
