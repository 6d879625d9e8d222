import LiveTemplates.Proofs.Lifecycle.Filling
import Mathlib.Data.List.Induction

set_option autoImplicit false

/-! # The engines that live

Between two operations exactly those engines live that are in the slot or held under a handle, each
under the number that it bears (`Host.Sound`). No number is given twice, so an engine that is gone
does not come back, and the number in a template never leads to another engine than the one that
made it (`Host.Follows`, `Host.Sound.follows_perform`). -/

namespace LiveTemplates

namespace Host

variable {host after : Host} {engine : Engine} {number other : Nat} {handle : String}

theorem keeps_iff : host.keeps number = true
    ↔ host.slot = some number ∨ ∃ entry ∈ host.engineHandles, entry.2 = number := by
  simp [keeps]

theorem keeps_of_find? (h : Assoc.find? handle host.engineHandles = some number) :
    host.keeps number = true :=
  keeps_iff.2 (.inr ⟨_, Assoc.mem_of_find? h, rfl⟩)

/-- Every engine that is kept lives, and bears its number. Numbers that are yet to be given are
those of no engine that is kept and of no template that is held. -/
structure Covered (host : Host) : Prop where
  bears {number : Nat} {engine : Engine} : host.engine? number = some engine → engine.Bears number
  lives {number : Nat} : host.keeps number = true → (host.engine? number).isSome = true
  fresh {number : Nat} : host.keeps number = true → number < host.nextEngine
  made : ∀ entry ∈ host.templateHandles, entry.2.engine < host.nextEngine

/-- And only the engines that are kept live. -/
structure Sound (host : Host) : Prop extends Covered host where
  kept {number : Nat} : (host.engine? number).isSome = true → host.keeps number = true

/-- What can become of a host: it stays sound, and whatever engine is kept afterwards was kept
before or is new. -/
structure Follows (host after : Host) : Prop where
  sound : after.Sound
  nextEngine_le : host.nextEngine ≤ after.nextEngine
  keeps {number : Nat} : after.keeps number = true →
    host.keeps number = true ∨ host.nextEngine ≤ number

theorem Sound.begun (providers : List Provider) (world : World) :
    Sound { providers, world } where
  bears h := by cases h
  lives h := by cases h
  fresh h := by cases h
  made _ h := by cases h
  kept h := by cases h

theorem Sound.follows_self (h : host.Sound) : host.Follows host :=
  ⟨h, Nat.le_refl _, .inl⟩

theorem Follows.trans {later : Host} (h : host.Follows after) (h' : after.Follows later) :
    host.Follows later where
  sound := h'.sound
  nextEngine_le := Nat.le_trans h.nextEngine_le h'.nextEngine_le
  keeps hkeeps := by
    rcases h'.keeps hkeeps with hkept | hnew
    · exact h.keeps hkept
    · exact .inr (Nat.le_trans h.nextEngine_le hnew)

/-- An engine that has been let go of is gone for good. -/
theorem Follows.gone (h : host.Follows after) (hold : number < host.nextEngine)
    (hgone : host.keeps number = false) : after.engine? number = none := by
  rw [← Option.not_isSome_iff_eq_none]
  intro hlives
  rcases h.keeps (h.sound.kept hlives) with hkept | hnew
  · rw [hgone] at hkept
    cases hkept
  · exact Nat.not_lt.2 hnew hold

/-! ## Letting go of engines -/

theorem engine?_collect (host : Host) (number : Nat) :
    host.collect.engine? number = if host.keeps number then host.engine? number else none :=
  Assoc.find?_filter host.keeps number host.engines

theorem Covered.collect (h : host.Covered) : host.collect.Sound where
  bears hengine := by
    rw [engine?_collect] at hengine
    split at hengine
    · exact h.bears hengine
    · cases hengine
  lives {number} hkeeps := by
    have hkept : host.keeps number = true := hkeeps
    rw [engine?_collect, if_pos hkept]
    exact h.lives hkept
  fresh := h.fresh
  made := h.made
  kept {number} hlives := by
    rw [engine?_collect] at hlives
    split at hlives
    · next hkept => exact hkept
    · cases hlives

/-- Fewer engines are kept than before. -/
theorem Covered.fewer (h : host.Covered) {slot : Option Nat} {handles : List (String × Nat)}
    (hfewer : ∀ number, ({ host with slot, engineHandles := handles } : Host).keeps number = true →
      host.keeps number = true) :
    ({ host with slot, engineHandles := handles } : Host).Covered :=
  ⟨h.bears, fun hkeeps => h.lives (hfewer _ hkeeps), fun hkeeps => h.fresh (hfewer _ hkeeps),
    h.made⟩

/-! ## Holding engines -/

theorem keeps_holdEngine (h : (host.holdEngine handle number).keeps other = true) :
    other = number ∨ host.keeps other = true := by
  rcases keeps_iff.1 h with hslot | ⟨entry, hmem, rfl⟩
  · exact .inr (keeps_iff.2 (.inl hslot))
  · rcases Assoc.mem_set hmem with rfl | hmem
    · exact .inl rfl
    · exact .inr (keeps_iff.2 (.inr ⟨entry, hmem, rfl⟩))

theorem Covered.holdEngine (h : host.Covered) (hlives : (host.engine? number).isSome = true)
    (hfresh : number < host.nextEngine) (handle : String) :
    (host.holdEngine handle number).Sound := by
  refine Covered.collect ⟨h.bears, fun hkeeps => ?_, fun hkeeps => ?_, h.made⟩
  · rcases keeps_holdEngine hkeeps with rfl | hkept
    · exact hlives
    · exact h.lives hkept
  · rcases keeps_holdEngine hkeeps with rfl | hkept
    · exact hfresh
    · exact h.fresh hkept

namespace Sound

theorem follows_holdEngine (h : host.Sound) (hkept : host.keeps number = true) (handle : String) :
    host.Follows (host.holdEngine handle number) where
  sound := h.holdEngine (h.lives hkept) (h.fresh hkept) handle
  nextEngine_le := Nat.le_refl _
  keeps hkeeps := by
    rcases keeps_holdEngine hkeeps with rfl | hother
    · exact .inl hkept
    · exact .inl hother

theorem follows_releaseEngine (h : host.Sound) (handle : String) :
    host.Follows (host.releaseEngine handle).1 := by
  have hfewer : ∀ number, ({ host with
      engineHandles := Assoc.erase handle host.engineHandles } : Host).keeps number = true →
      host.keeps number = true := fun number hkeeps => by
    rcases keeps_iff.1 hkeeps with hslot | ⟨entry, hmem, heq⟩
    · exact keeps_iff.2 (.inl hslot)
    · exact keeps_iff.2 (.inr ⟨entry, (List.mem_filter.1 hmem).1, heq⟩)
  exact ⟨(h.fewer hfewer).collect, Nat.le_refl _, fun hkeeps => .inl (hfewer _ hkeeps)⟩

theorem follows_teardown (h : host.Sound) (handle : Option String) :
    host.Follows (host.teardown handle).1 := by
  unfold teardown
  cases hslot : host.slot with
  | none => exact h.follows_self
  | some number =>
      have hkept : host.keeps number = true := keeps_iff.2 (.inl hslot)
      have hfewer : ∀ other, ({ host with slot := none } : Host).keeps other = true →
          host.keeps other = true := fun other hkeeps => by
        rcases keeps_iff.1 hkeeps with hnone | hheld
        · cases hnone
        · exact keeps_iff.2 (.inr hheld)
      cases handle with
      | none =>
          exact ⟨(h.fewer hfewer).collect, Nat.le_refl _, fun hkeeps => .inl (hfewer _ hkeeps)⟩
      | some handle =>
          -- the engine of the slot still lives when it is held: only holding collects
          refine ⟨(h.fewer hfewer).holdEngine (h.lives hkept) (h.fresh hkept) handle, Nat.le_refl _,
            fun hkeeps => ?_⟩
          rcases keeps_holdEngine hkeeps with rfl | hother
          · exact .inl hkept
          · exact .inl (hfewer _ hother)

end Sound

/-! ## New engines -/

/-- An engine is put under a number, and all else is as it was with the engines that live. -/
def Puts (host after : Host) (number : Nat) (engine : Engine) : Prop :=
  ∀ other, after.engine? other = if other = number then some engine else host.engine? other

theorem puts_add (host : Host) (engine : Engine) :
    host.Puts (host.add engine) host.nextEngine engine := fun number =>
  Assoc.find?_set host.nextEngine number engine host.engines

theorem puts_setEngine (host : Host) (world : World) (engine : Engine) :
    host.Puts ({ host with world }.setEngine engine) engine.number engine := fun number =>
  Assoc.find?_set engine.number number engine host.engines

theorem Puts.isSome_iff (puts : host.Puts after number engine) :
    (after.engine? other).isSome = true ↔ other = number ∨ (host.engine? other).isSome = true := by
  rw [puts other]
  split
  · next heq => exact ⟨fun _ => .inl heq, fun _ => rfl⟩
  · next hne => exact ⟨.inr, fun h => h.resolve_left hne⟩

theorem Puts.bears (puts : host.Puts after number engine) (hbears : engine.Bears number)
    (h : host.Covered) {found : Engine} (hfound : after.engine? other = some found) :
    found.Bears other := by
  rw [puts other] at hfound
  split at hfound
  · next heq =>
      cases hfound
      exact heq ▸ hbears
  · exact h.bears hfound

theorem isSome_engine?_add (host : Host) (engine : Engine) :
    ((host.add engine).engine? host.nextEngine).isSome = true :=
  (host.puts_add engine).isSome_iff.2 (.inl rfl)

namespace Sound

/-- An engine that is new is not kept yet. -/
theorem covered_add (h : host.Sound) (hbears : engine.Bears host.nextEngine) :
    (host.add engine).Covered where
  bears := (host.puts_add engine).bears hbears h.toCovered
  lives hkeeps := (host.puts_add engine).isSome_iff.2 (.inr (h.lives hkeeps))
  fresh hkeeps := Nat.lt_succ_of_lt (h.fresh hkeeps)
  made entry hentry := Nat.lt_succ_of_lt (h.made entry hentry)

theorem follows_buildHeld (h : host.Sound) (build : Build) (handle : String) :
    host.Follows (host.buildHeld build.run handle).1 := by
  unfold buildHeld
  cases hbuild : build.run host.nextEngine host.world with
  | error e => exact h.follows_self
  | ok engine =>
      refine ⟨(h.covered_add (build.bears hbuild)).holdEngine (isSome_engine?_add host engine)
        (Nat.lt_succ_self _) handle, Nat.le_succ _, fun hkeeps => ?_⟩
      rcases keeps_holdEngine hkeeps with rfl | hother
      · exact .inr (Nat.le_refl _)
      · exact .inl hother

end Sound

/-! ## Filling the slot -/

/-- An engine in a slot that was empty is kept besides those that were kept before. -/
theorem keeps_setSlot (hslot : host.slot = none) :
    ({ host with slot := some number } : Host).keeps other = true
      ↔ other = number ∨ host.keeps other = true := by
  rw [keeps_iff, keeps_iff, hslot, Option.some.injEq, eq_comm]
  simp only [reduceCtorEq, false_or]

theorem Covered.setSlot (h : host.Covered) (hslot : host.slot = none)
    (hlives : (host.engine? number).isSome = true) (hfresh : number < host.nextEngine)
    (hkept : ∀ other, (host.engine? other).isSome = true →
      other = number ∨ host.keeps other = true) :
    ({ host with slot := some number } : Host).Sound where
  bears := h.bears
  lives hkeeps := by
    rcases (keeps_setSlot hslot).1 hkeeps with rfl | hother
    · exact hlives
    · exact h.lives hother
  fresh hkeeps := by
    rcases (keeps_setSlot hslot).1 hkeeps with rfl | hother
    · exact hfresh
    · exact h.fresh hother
  made := h.made
  kept hother := (keeps_setSlot hslot).2 (hkept _ hother)

namespace Sound

theorem follows_setSlot (h : host.Sound) (hslot : host.slot = none)
    (hkept : host.keeps number = true) : host.Follows { host with slot := some number } := by
  refine ⟨h.setSlot hslot (h.lives hkept) (h.fresh hkept) fun other hother => .inr (h.kept hother),
    Nat.le_refl _, fun hkeeps => .inl ?_⟩
  rcases (keeps_setSlot hslot).1 hkeeps with rfl | hother
  · exact hkept
  · exact hother

theorem follows_setSlot_add (h : host.Sound) (hslot : host.slot = none)
    (hbears : engine.Bears host.nextEngine) :
    host.Follows { host.add engine with slot := some host.nextEngine } := by
  have hempty : (host.add engine).slot = none := hslot
  refine ⟨(h.covered_add hbears).setSlot hempty (isSome_engine?_add host engine)
    (Nat.lt_succ_self _) fun other hother => ?_, Nat.le_succ _, fun hkeeps => ?_⟩
  · exact ((host.puts_add engine).isSome_iff.1 hother).imp_right h.kept
  · rcases (keeps_setSlot hempty).1 hkeeps with rfl | hother
    · exact .inr (Nat.le_refl _)
    · exact .inl hother

theorem follows_fill (h : host.Sound) (supply : Supply) :
    host.Follows (host.fill supply).1 := by
  cases hslot : host.slot with
  | some number =>
      rw [fill_of_slot hslot]
      exact h.follows_self
  | none =>
      rw [fill_of_empty hslot]
      cases hsupplied : host.supplied supply with
      | error e => exact h.follows_self
      | ok given =>
          obtain ⟨after, number⟩ := given
          obtain ⟨engine, hbears, rfl, rfl⟩ | ⟨rfl, handle, hfound⟩ := supplied_eq_ok hsupplied
          · exact h.follows_setSlot_add hslot hbears
          · exact h.follows_setSlot hslot (keeps_of_find? hfound)

/-! ## Engines at work -/

theorem engineOf?_eq_some (h : host.Sound) {asked : Option String}
    (hasked : host.engineOf? asked = some engine) :
    ∃ number, host.keeps number = true ∧ host.engine? number = some engine := by
  have hlives : ∃ number, host.engine? number = some engine := by
    cases asked <;> exact (Option.bind_eq_some_iff.1 hasked).imp fun number h => h.2
  obtain ⟨number, hengine⟩ := hlives
  exact ⟨number, h.kept (Option.isSome_of_mem hengine), hengine⟩

/-- An engine is put in place of the one with its number that lives. -/
theorem follows_setEngine (h : host.Sound) (hlives : (host.engine? number).isSome = true)
    (hbears : engine.Bears number) (world : World) :
    host.Follows ({ host with world }.setEngine engine) := by
  have hputs := host.puts_setEngine world engine
  rw [hbears.number_eq] at hputs
  refine ⟨⟨⟨hputs.bears hbears h.toCovered, fun hkeeps => ?_, h.fresh, h.made⟩, fun hother => ?_⟩,
    Nat.le_refl _, .inl⟩
  · exact hputs.isSome_iff.2 (.inr (h.lives hkeeps))
  · rcases hputs.isSome_iff.1 hother with rfl | hother
    · exact h.kept hlives
    · exact h.kept hother

theorem follows_template (h : host.Sound) (hengine : host.engine? number = some engine)
    (spelling : String) :
    host.Follows (host.template engine spelling).1
      ∧ ∀ template, (host.template engine spelling).2 = .ok template →
        ∃ name, Name.canonicalOrError spelling = .ok name
          ∧ template.BelongsTo (some name) number := by
  obtain ⟨hbears, hgiven⟩ := (h.bears hengine).template host.world spelling
  exact ⟨h.follows_setEngine (Option.isSome_of_mem hengine) hbears _, hgiven⟩

theorem follows_compileLoose (h : host.Sound) (hengine : host.engine? number = some engine)
    (source : String) :
    host.Follows (host.compileLoose engine source).1
      ∧ ∀ template, (host.compileLoose engine source).2 = .ok template →
        template.BelongsTo none number := by
  obtain ⟨hbears, hgiven⟩ := (h.bears hengine).compileLoose host.world source
  exact ⟨h.follows_setEngine (Option.isSome_of_mem hengine) hbears _, hgiven⟩

theorem follows_work (h : host.Sound) (hengine : host.engine? number = some engine)
    (operation : Operation) : host.Follows (host.work engine operation) :=
  h.follows_setEngine (Option.isSome_of_mem hengine)
    ((h.bears hengine).perform host.world operation) _

/-! ## Holding templates -/

theorem follows_takeTemplate (h : host.Sound) (handle : Option String)
    {outcome : Except TemplateError LiveTemplate}
    (hmade : ∀ template, outcome = .ok template → template.engine < host.nextEngine) :
    host.Follows (host.takeTemplate handle outcome) := by
  unfold takeTemplate
  split
  · next handle template =>
      refine ⟨⟨⟨h.bears, h.lives, h.fresh, fun entry hentry => ?_⟩, h.kept⟩, Nat.le_refl _, .inl⟩
      rcases Assoc.mem_set hentry with rfl | hentry
      · exact hmade template rfl
      · exact h.made entry hentry
  · exact h.follows_self

theorem follows_releaseTemplate (h : host.Sound) (handle : String) :
    host.Follows (host.releaseTemplate handle).1 :=
  ⟨⟨⟨h.bears, h.lives, h.fresh, fun entry hentry => h.made entry (List.mem_filter.1 hentry).1⟩,
    h.kept⟩, Nat.le_refl _, .inl⟩

theorem follows_refresh (h : host.Sound) (template : LiveTemplate) :
    host.Follows (host.refresh template).1
      ∧ ∀ given, (host.refresh template).2 = .ok given → given.engine = template.engine := by
  unfold refresh
  cases template.name with
  | none => exact ⟨h.follows_self, fun given hgiven => by cases hgiven; rfl⟩
  | some name =>
      cases hengine : host.engine? template.engine with
      | none => exact ⟨h.follows_self, nofun⟩
      | some engine =>
          obtain ⟨hfollows, hgiven⟩ := h.follows_template hengine name
          refine ⟨hfollows, fun given hok => ?_⟩
          obtain ⟨_, -, hbelongs⟩ := hgiven given hok
          exact hbelongs.engine_eq

/-! ## What an operation does -/

/-- What is handed out may be held. -/
theorem follows_take (h : host.Sound) (handle : Option String)
    {outcome : Except TemplateError Nat}
    (hkept : ∀ number, outcome = .ok number → host.keeps number = true) :
    host.Follows (host.take handle outcome) := by
  unfold take
  split
  · next handle number => exact h.follows_holdEngine (hkept number rfl) handle
  · exact h.follows_self

theorem follows_perform (h : host.Sound) (operation : HostOperation) :
    host.Follows (host.perform operation).1 := by
  cases operation with
  | fill supply handle =>
      -- what is given is in the slot, so it is kept and may be held
      refine (h.follows_fill supply).trans
        ((h.follows_fill supply).sound.follows_take handle fun number hok => ?_)
      exact keeps_iff.2 (.inl ((host.slot_fill supply).trans (congrArg Except.toOption hok)))
  | engine handle =>
      refine h.follows_take handle fun number hok => ?_
      exact keeps_iff.2 (.inl (host.toOption_current.symm.trans (congrArg Except.toOption hok)))
  | isAvailable => exact h.follows_self
  | teardown handle => exact h.follows_teardown handle
  | build build handle => exact h.follows_buildHeld build handle
  | share handle other =>
      dsimp only [perform]
      cases hfound : Assoc.find? handle host.engineHandles with
      | none => exact h.follows_self
      | some number => exact h.follows_holdEngine (keeps_of_find? hfound) other
  | release handle => exact h.follows_releaseEngine handle
  | template asked spelling handle =>
      dsimp only [perform]
      cases hasked : host.engineOf? asked with
      | none => exact h.follows_self
      | some engine =>
          obtain ⟨number, hkept, hengine⟩ := h.engineOf?_eq_some hasked
          obtain ⟨hfollows, hgiven⟩ := h.follows_template hengine spelling
          refine hfollows.trans (hfollows.sound.follows_takeTemplate handle fun template hok => ?_)
          obtain ⟨_, -, hbelongs⟩ := hgiven template hok
          exact hbelongs.engine_eq ▸ h.fresh hkept
  | compileLoose asked source handle =>
      dsimp only [perform]
      cases hasked : host.engineOf? asked with
      | none => exact h.follows_self
      | some engine =>
          obtain ⟨number, hkept, hengine⟩ := h.engineOf?_eq_some hasked
          obtain ⟨hfollows, hgiven⟩ := h.follows_compileLoose hengine source
          refine hfollows.trans (hfollows.sound.follows_takeTemplate handle fun template hok => ?_)
          exact (hgiven template hok).engine_eq ▸ h.fresh hkept
  | refresh handle into =>
      dsimp only [perform]
      cases hfound : Assoc.find? handle host.templateHandles with
      | none => exact h.follows_self
      | some template =>
          have hmade : template.engine < host.nextEngine := h.made _ (Assoc.mem_of_find? hfound)
          obtain ⟨hfollows, hgiven⟩ := h.follows_refresh template
          refine hfollows.trans (hfollows.sound.follows_takeTemplate into fun given hok => ?_)
          exact hgiven given hok ▸ Nat.lt_of_lt_of_le hmade hfollows.nextEngine_le
  | releaseTemplate handle => exact h.follows_releaseTemplate handle
  | work asked operation =>
      dsimp only [perform]
      cases hasked : host.engineOf? asked with
      | none => exact h.follows_self
      | some engine =>
          obtain ⟨number, -, hengine⟩ := h.engineOf?_eq_some hasked
          exact h.follows_work hengine operation
  | change alter => exact ⟨⟨⟨h.bears, h.lives, h.fresh, h.made⟩, h.kept⟩, Nat.le_refl _, .inl⟩

/-- Whatever happens to a host, it stays sound. -/
theorem follows_performAll (h : host.Sound) (operations : List HostOperation) :
    host.Follows (host.performAll operations).1 := by
  induction operations using List.reverseRecOn with
  | nil => exact h.follows_self
  | append_singleton operations operation ih =>
      rw [performAll_append_singleton]
      exact ih.trans (ih.sound.follows_perform operation)

end Sound

end Host

end LiveTemplates
