import LiveTemplates.Proofs.Lifecycle.Holding
import Mathlib.Data.List.DropRight

set_option autoImplicit false

/-! # One engine serves, and templates outlast it

Which engine is in the slot is read off the history of a host: it is the one that came of the first
fill that succeeded since the slot was last emptied (`Host.slot_performAll`). A template that is
held stays what it is whatever becomes of its engine, and finds back to this engine, and to no
other, as long as the slot or a handle keeps it, which the history tells as well
(`Host.one_engine_serves`). -/

namespace LiveTemplates

namespace History

/-- The engine that was given to somebody who wanted the slot filled. -/
def filled? : HostOperation × HostAnswer → Option Nat
  | (.fill _ _, .engine outcome) => outcome.toOption
  | _ => none

/-- The engine that was given as the one in the slot. -/
def given? : HostOperation × HostAnswer → Option Nat
  | (.fill _ _, .engine outcome) | (.engine _, .engine outcome) => outcome.toOption
  | _ => none

/-- What has happened since the slot was last emptied. -/
def lately (history : History) : History :=
  history.rtakeWhile fun entry => !entry.1.isTeardown

/-- The engine of the first fill that succeeded since the slot was last emptied. -/
def served? (history : History) : Option Nat :=
  history.lately.findSome? filled?

variable {history : History} {entry : HostOperation × HostAnswer}

theorem lately_append_singleton :
    lately (history ++ [entry]) = if entry.1.isTeardown then [] else history.lately ++ [entry] := by
  unfold lately
  rw [List.rtakeWhile_concat]
  cases entry.1.isTeardown <;> rfl

theorem served?_append_singleton :
    served? (history ++ [entry])
      = if entry.1.isTeardown then none else history.served?.or (filled? entry) := by
  unfold served?
  rw [lately_append_singleton]
  split
  · rfl
  · rw [List.findSome?_append]
    cases h : filled? entry <;> simp [h]

end History

namespace Host

variable {host : Host} {handle : String} {operation : HostOperation}

/-- Neither the slot nor a template that is held is touched. -/
structure Spares (host after : Host) : Prop where
  slot : after.slot = host.slot
  templateHandles : after.templateHandles = host.templateHandles

theorem spares_take (host : Host) (handle : Option String) (outcome : Except TemplateError Nat) :
    host.Spares (host.take handle outcome) := by
  unfold take
  split <;> exact ⟨rfl, rfl⟩

theorem spares_buildHeld (host : Host) (build : Builder) (handle : String) :
    host.Spares (host.buildHeld build handle).1 := by
  unfold buildHeld
  split <;> exact ⟨rfl, rfl⟩

theorem spares_refresh (host : Host) (template : LiveTemplate) :
    host.Spares (host.refresh template).1 := by
  unfold refresh
  split
  · exact ⟨rfl, rfl⟩
  · split <;> exact ⟨rfl, rfl⟩

/-! ## What an operation does to the slot -/

theorem slot_takeTemplate (host : Host) (handle : Option String)
    (outcome : Except TemplateError LiveTemplate) :
    (host.takeTemplate handle outcome).slot = host.slot := by
  unfold takeTemplate
  split <;> rfl

theorem slot_teardown (host : Host) (handle : Option String) :
    (host.teardown handle).1.slot = none := by
  unfold teardown
  split
  · next hslot => exact hslot
  · split <;> rfl

/-- Only a teardown empties the slot, and only a fill puts something into it, if it is empty. -/
theorem slot_perform (host : Host) (operation : HostOperation) :
    (host.perform operation).1.slot
      = if operation.isTeardown then none
        else host.slot.or (History.filled? (operation, (host.perform operation).2)) := by
  -- everything but a fill and a teardown leaves the slot alone and gives nothing for it
  have hidle : ∀ {after : Host}, after.slot = host.slot → after.slot = host.slot.or none :=
    fun hslot => hslot.trans (Option.or_none).symm
  cases operation with
  | fill supply handle =>
      show ((host.fill supply).1.take handle _).slot = host.slot.or (host.fill supply).2.toOption
      rw [(spares_take ..).slot, slot_fill]
      cases hslot : host.slot with
      | some number =>
          rw [fill_of_slot hslot]
          rfl
      | none => rfl
  | engine handle => exact hidle (host.spares_take handle host.current).slot
  | isAvailable => exact hidle rfl
  | teardown handle => exact host.slot_teardown handle
  | build build handle => exact hidle (host.spares_buildHeld build.run handle).slot
  | share handle other =>
      dsimp only [perform]
      cases Assoc.find? handle host.engineHandles <;> exact hidle rfl
  | release handle => exact hidle rfl
  | template asked spelling handle =>
      dsimp only [perform]
      cases host.engineOf? asked with
      | none => exact hidle rfl
      | some engine => exact hidle (slot_takeTemplate ..)
  | compileLoose asked source handle =>
      dsimp only [perform]
      cases host.engineOf? asked with
      | none => exact hidle rfl
      | some engine => exact hidle (slot_takeTemplate ..)
  | refresh template into =>
      dsimp only [perform]
      cases Assoc.find? template host.templateHandles with
      | none => exact hidle rfl
      | some template =>
          exact hidle ((slot_takeTemplate ..).trans (host.spares_refresh template).slot)
  | releaseTemplate handle => exact hidle rfl
  | work asked operation =>
      dsimp only [perform]
      cases host.engineOf? asked <;> exact hidle rfl
  | change alter => exact hidle rfl

/-- Whoever is given the engine in the slot finds it there afterwards. -/
theorem slot_of_given {number : Nat}
    (h : History.given? (operation, (host.perform operation).2) = some number) :
    (host.perform operation).1.slot = some number := by
  cases operation with
  | fill supply handle =>
      show ((host.fill supply).1.take handle _).slot = some number
      rw [(spares_take ..).slot, slot_fill]
      exact h
  | engine handle =>
      show (host.take handle _).slot = some number
      rw [(spares_take ..).slot, ← toOption_current]
      exact h
  | _ => cases h

/-! ## What a history says about the slot -/

section Histories

variable {providers : List Provider} {world : World}

theorem slot_performAll (providers : List Provider) (world : World)
    (operations : List HostOperation) :
    (performAll { providers, world } operations).1.slot
      = (performAll { providers, world } operations).2.served? := by
  induction operations using List.reverseRecOn with
  | nil => rfl
  | append_singleton operations operation ih =>
      rw [performAll_append_singleton, History.served?_append_singleton, slot_perform, ih]

/-- Nobody is given another engine as long as the slot is not emptied. -/
theorem served?_of_given {operations : List HostOperation} {entry : HostOperation × HostAnswer}
    {number : Nat} (hentry : entry ∈ (performAll { providers, world } operations).2.lately)
    (hgiven : History.given? entry = some number) :
    (performAll { providers, world } operations).2.served? = some number := by
  induction operations using List.reverseRecOn with
  | nil => cases hentry
  | append_singleton operations operation ih =>
      rw [performAll_append_singleton, History.lately_append_singleton] at hentry
      rw [← slot_performAll, performAll_append_singleton]
      split at hentry
      · cases hentry
      · next hstays =>
          -- what was given before is in the slot already, what is given now is there afterwards
          rcases List.mem_append.1 hentry with hbefore | hnow
          · rw [slot_perform, if_neg hstays, slot_performAll, ih hbefore]
            rfl
          · cases List.mem_singleton.1 hnow
            exact slot_of_given hgiven

end Histories

/-! ## What an operation does to templates that are held -/

theorem find?_takeTemplate {handle? : Option String} (h : handle? ≠ some handle)
    (host : Host) (outcome : Except TemplateError LiveTemplate) :
    Assoc.find? handle (host.takeTemplate handle? outcome).templateHandles
      = Assoc.find? handle host.templateHandles := by
  unfold takeTemplate
  split
  · next other template =>
      refine (Assoc.find?_set ..).trans (if_neg fun heq => ?_)
      exact h (congrArg some heq.symm)
  · rfl

theorem templateHandles_teardown (host : Host) (handle : Option String) :
    (host.teardown handle).1.templateHandles = host.templateHandles := by
  unfold teardown
  split
  · rfl
  · split <;> rfl

/-- A template stays under its handle unless an operation is about this handle. -/
theorem find?_templateHandles_perform (h : operation.templateHandle? ≠ some handle) :
    Assoc.find? handle (host.perform operation).1.templateHandles
      = Assoc.find? handle host.templateHandles := by
  cases operation with
  | fill supply into =>
      exact congrArg _ ((spares_take ..).templateHandles.trans (host.handles_fill supply).2)
  | engine into => exact congrArg _ (spares_take ..).templateHandles
  | isAvailable => rfl
  | teardown into => exact congrArg _ (host.templateHandles_teardown into)
  | build build into => exact congrArg _ (host.spares_buildHeld build.run into).templateHandles
  | share held other =>
      dsimp only [perform]
      cases Assoc.find? held host.engineHandles <;> rfl
  | release held => rfl
  | template asked spelling into =>
      dsimp only [perform]
      cases host.engineOf? asked with
      | none => rfl
      | some engine => exact find?_takeTemplate h ..
  | compileLoose asked source into =>
      dsimp only [perform]
      cases host.engineOf? asked with
      | none => rfl
      | some engine => exact find?_takeTemplate h ..
  | refresh template into =>
      dsimp only [perform]
      cases Assoc.find? template host.templateHandles with
      | none => rfl
      | some template =>
          refine (find?_takeTemplate h ..).trans ?_
          exact congrArg _ (host.spares_refresh template).templateHandles
  | releaseTemplate held =>
      refine (Assoc.find?_erase ..).trans (if_neg fun heq => ?_)
      exact h (congrArg some heq.symm)
  | work asked operation =>
      dsimp only [perform]
      cases host.engineOf? asked <;> rfl
  | change alter => rfl

theorem find?_templateHandles_performAll (host : Host) (operations : List HostOperation)
    (h : ∀ operation ∈ operations, operation.templateHandle? ≠ some handle) :
    Assoc.find? handle (host.performAll operations).1.templateHandles
      = Assoc.find? handle host.templateHandles := by
  induction operations using List.reverseRecOn with
  | nil => rfl
  | append_singleton operations operation ih =>
      rw [performAll_append_singleton]
      have hlast := h operation (List.mem_append_right _ (List.mem_singleton_self _))
      exact (find?_templateHandles_perform hlast).trans
        (ih fun other hother => h other (List.mem_append_left _ hother))

/-! ## What a host owes to its history -/

/-- One engine serves: the one of the first fill that succeeded since the slot was last emptied.
Everybody who was given an engine from the slot since then was given this one, and it lives. Whoever
fills the slot is given it too; only if there is none, the supply is asked, and if the supply fails,
nothing has happened. The engines that are kept are the one that serves and those that were handed
out for handles, or shared between them, where the handle has not been used otherwise or released
since; the next engine that is built is none of them. -/
structure Serves (host : Host) (history : History) : Prop where
  given : ∀ entry ∈ history.lately, ∀ number, History.given? entry = some number →
    history.served? = some number
  lives : ∀ number, history.served? = some number →
    ∃ engine, host.engine? number = some engine ∧ engine.number = number
  current : host.current = match history.served? with
    | some number => .ok number
    | none => .error .engineNotInitialized
  isAvailable : host.isAvailable = history.served?.isSome
  wouldBuild : host.wouldBuild = history.served?.isNone
  fill : ∀ supply, host.fill supply = match history.served? with
    | some number => (host, .ok number)
    | none => host.filledBy (host.supplied supply)
  keeps : ∀ number, host.keeps number = true
    ↔ history.served? = some number ∨ ∃ handle, history.held? handle = some number
  new : ∀ number, host.keeps number = true → number < host.nextEngine

/-- What is handed out bears the number of the engine that was asked, and its name if it has one. -/
structure Signs (host : Host) : Prop where
  template : ∀ asked engine, host.engineOf? asked = some engine →
    ∀ spelling template, (host.template engine spelling).2 = .ok template →
      ∃ name, Name.canonicalOrError spelling = .ok name
        ∧ template.BelongsTo (some name) engine.number
  loose : ∀ asked engine, host.engineOf? asked = some engine →
    ∀ source template, (host.compileLoose engine source).2 = .ok template →
      template.BelongsTo none engine.number

/-- A template under a handle stays what it is until the handle is used otherwise, so that it
renders the same. Looked up again, a template with a name is what the engine that made it gives for
the name, if the slot or a handle keeps this engine; after that there is never again an engine for
it. A template without a name stays as it is. -/
structure Outlasts (host : Host) (handle : String) (template : LiveTemplate) : Prop where
  stays : ∀ later : List HostOperation,
    (∀ operation ∈ later, operation.templateHandle? ≠ some handle) →
      Assoc.find? handle (host.performAll later).1.templateHandles = some template
  loose : template.name = none → host.refresh template = (host, .ok template)
  kept : ∀ name, template.name = some name → host.keeps template.engine = true →
    ∃ engine, host.engine? template.engine = some engine ∧ engine.number = template.engine
      ∧ host.refresh template = host.template engine name
  gone : ∀ name, template.name = some name → host.keeps template.engine = false →
    ∀ later : List HostOperation,
      (host.performAll later).1.refresh template
        = ((host.performAll later).1, .error .engineNotInitialized)

namespace Sound

theorem serves (h : host.Sound) {history : History} (hslot : host.slot = history.served?)
    (hheld : host.held? = history.held?) (own : (host.engineHandles.map Prod.fst).Nodup)
    (hgiven : ∀ entry ∈ history.lately, ∀ number, History.given? entry = some number →
      history.served? = some number) : host.Serves history where
  given := hgiven
  lives number hserved := by
    obtain ⟨engine, hengine⟩ := Option.isSome_iff_exists.1
      (h.lives (keeps_iff.2 (.inl (hslot.trans hserved))))
    exact ⟨engine, hengine, (h.bears hengine).number_eq⟩
  current := by
    cases hserved : history.served? <;> simp only [current, hslot, hserved]
  isAvailable := congrArg Option.isSome hslot
  wouldBuild := congrArg Option.isNone hslot
  fill supply := by
    cases hserved : history.served? with
    | none => exact fill_of_empty (hslot.trans hserved) supply
    | some number => exact fill_of_slot (hslot.trans hserved) supply
  keeps number := by rw [keeps_iff_held? own, hslot, hheld]
  new number hkept := h.fresh hkept

theorem signs (h : host.Sound) : host.Signs where
  template asked engine hasked spelling template hok := by
    obtain ⟨number, -, hengine⟩ := h.engineOf?_eq_some hasked
    exact (h.bears hengine).number_eq ▸ (h.follows_template hengine spelling).2 template hok
  loose asked engine hasked source template hok := by
    obtain ⟨number, -, hengine⟩ := h.engineOf?_eq_some hasked
    exact (h.bears hengine).number_eq ▸ (h.follows_compileLoose hengine source).2 template hok

theorem outlasts (h : host.Sound) {template : LiveTemplate}
    (hheld : Assoc.find? handle host.templateHandles = some template) :
    host.Outlasts handle template where
  stays later hlater := (host.find?_templateHandles_performAll later hlater).trans hheld
  loose hname := by rw [refresh, hname]
  kept name hname hkept := by
    obtain ⟨engine, hengine⟩ := Option.isSome_iff_exists.1 (h.lives hkept)
    exact ⟨engine, hengine, (h.bears hengine).number_eq, by rw [refresh, hname, hengine]⟩
  gone name hname hgone later := by
    have hmade := h.made _ (Assoc.mem_of_find? hheld)
    rw [refresh, hname, (h.follows_performAll later).gone hmade hgone]

end Sound

/-- After whatever has happened, one engine serves, everything that is handed out bears its number,
and the templates that are held outlast it. -/
theorem one_engine_serves (providers : List Provider) (world : World)
    (operations : List HostOperation) :
    let now := performAll { providers, world } operations
    now.1.Serves now.2 ∧ now.1.Signs
      ∧ ∀ handle template, Assoc.find? handle now.1.templateHandles = some template →
        now.1.Outlasts handle template := by
  intro now
  have hsound : now.1.Sound := ((Sound.begun providers world).follows_performAll operations).sound
  refine ⟨hsound.serves (slot_performAll ..) (held?_performAll ..) (nodup_engineHandles ..) ?_,
    hsound.signs, fun _ _ => hsound.outlasts⟩
  exact fun entry hentry number hgiven => served?_of_given hentry hgiven

/-- A world with one source in a store. -/
def onePage : World :=
  { stores := [(({} : MemoryStore).insert "a" "text").1] }

/-- An engine that has made a template gives way to another one, but is held on. -/
def replaced : List HostOperation :=
  let supply := Supply.blueprint { config := {}, loader := some (.memory 0) }
  [.fill supply (some "first"), .template none "a" (some "page"), .teardown none,
    .fill supply none, .fill (.build (.failing .engineNotInitialized)) none, .engine none]

/-- Then it is released as well, and an engine is built that does not serve. -/
def letGo : List HostOperation :=
  replaced ++ [.release "first",
    .build (.ofBlueprint [] { config := {}, loader := some (.memory 0) }) "spare"]

theorem one_engine_serves_replaced :
    let now := performAll { providers := [], world := onePage } replaced
    let later := performAll { providers := [], world := onePage } letGo
    (∀ supply, now.1.fill supply = (now.1, .ok 1))
      ∧ ∃ template, Assoc.find? "page" now.1.templateHandles = some template
        ∧ template.BelongsTo (some "/a") 0
        ∧ (∃ engine, now.1.engine? 0 = some engine
          ∧ now.1.refresh template = now.1.template engine "/a")
        ∧ Assoc.find? "page" later.1.templateHandles = some template
        ∧ later.1.refresh template = (later.1, .error .engineNotInitialized)
        ∧ later.1.keeps 2 = true ∧ later.2.served? = some 1 := by
  intro now later
  obtain ⟨hserves, -, houtlasts⟩ := one_engine_serves [] onePage replaced
  obtain ⟨hlast, -, hends⟩ := one_engine_serves [] onePage letGo
  have hserved : now.2.served? = some 1 := by decide +kernel
  have hpage : (Assoc.find? "page" now.1.templateHandles).map
      (fun template => (template.name, template.engine)) = some (some "/a", 0) := by decide +kernel
  have hkept : now.1.keeps 0 = true := (hserves.keeps 0).2 (.inr ⟨"first", by decide +kernel⟩)
  have hgone : later.1.keeps 0 = false := by decide +kernel
  obtain ⟨template, hfound, hbelongs⟩ := Option.map_eq_some_iff.1 hpage
  obtain ⟨hname, hengine⟩ := Prod.mk.inj hbelongs
  have hstays : Assoc.find? "page" later.1.templateHandles = some template :=
    (houtlasts "page" template hfound).stays (letGo.drop replaced.length) (by
      simp only [letGo, List.drop_left, List.forall_mem_cons]
      exact ⟨nofun, nofun, nofun⟩)
  have hspare : later.1.keeps 2 = true := (hlast.keeps 2).2 (.inr ⟨"spare", by decide +kernel⟩)
  refine ⟨fun supply => ?_, template, hfound, ⟨hname, hengine⟩, ?_, hstays, ?_, hspare,
    by decide +kernel⟩
  · have hfill : now.1.fill supply = _ := hserves.fill supply
    rw [hserved] at hfill
    exact hfill
  · rw [← hengine] at hkept ⊢
    obtain ⟨engine, hlives, -, hrefresh⟩ := (houtlasts "page" template hfound).kept "/a" hname hkept
    exact ⟨engine, hlives, hrefresh⟩
  · rw [← hengine] at hgone
    exact (hends "page" template hstays).gone "/a" hname hgone []

end Host

end LiveTemplates
