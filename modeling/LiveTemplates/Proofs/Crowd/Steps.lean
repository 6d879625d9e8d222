import LiveTemplates.Proofs.Crowd.Course
import LiveTemplates.Proofs.Engine.Stores

set_option autoImplicit false

/-! # Steps and events

The steps that ask or receive are written as equations: what becomes of the crowd, and to which stage
the activity goes. `Makes` and `Looks` list what a run for a template and a lookup can do to the
crowd, `MakingTurn` and `LookupTurn` to which stage a step can take them, and `Steps` what a step of
any activity can be. From them it follows once and for all that every step leads on, and that it
keeps calm unless it ends a run. So after any event an activity is at the stage where it was, or has
just begun, or has taken its own step (`making_of_happen` and the like), and a run has ended only if
it had before or has just done so. -/

namespace LiveTemplates

namespace Crowd

variable {crowd : Crowd} {flight : Nat} {name : String}

/-! ## Steps that ask or receive -/

section Equations

variable (crowd : Crowd) (flight caller : Nat) (name : String)

theorem stepMaking_start : crowd.stepMaking flight name .start
    = (crowd.askResource name,
        match (crowd.resources.cache.lookup name).2.value? with
        | some resource => crowd.withResource resource
        | none => .first crowd.nextCaller) := by
  obtain ⟨ready, heq⟩ := crowd.callResource_eq name
  rw [askResource, stepMaking, heq]
  cases (crowd.resources.cache.lookup name).2.value? <;> rfl

theorem stepMaking_first : crowd.stepMaking flight name (.first caller)
    = ((crowd.receiveResource caller).1,
        match (crowd.resources.receive caller).answer? caller with
        | some answer => toldResource name crowd.withResource answer
        | none => .first caller) := by
  simp only [stepMaking, receiveResource]
  cases (crowd.resources.receive caller).answer? caller <;> rfl

theorem stepMaking_again : crowd.stepMaking flight name .again
    = (crowd.askResource name,
        match (crowd.resources.cache.lookup name).2.value? with
        | some resource => .compile resource
        | none => .second crowd.nextCaller) := by
  obtain ⟨ready, heq⟩ := crowd.callResource_eq name
  rw [askResource, stepMaking, heq]
  cases (crowd.resources.cache.lookup name).2.value? <;> rfl

theorem stepMaking_second : crowd.stepMaking flight name (.second caller)
    = ((crowd.receiveResource caller).1,
        match (crowd.resources.receive caller).answer? caller with
        | some answer => toldResource name .compile answer
        | none => .second caller) := by
  simp only [stepMaking, receiveResource]
  cases (crowd.resources.receive caller).answer? caller <;> rfl

theorem stepLookup_start : crowd.stepLookup name .start
    = (crowd.askTemplate name,
        match (crowd.templates.cache.lookup name).2.value? with
        | some template => crowd.withTemplate template
        | none => .first crowd.nextCaller) := by
  obtain ⟨ready, heq⟩ := crowd.callTemplate_eq name
  rw [askTemplate, stepLookup, heq]
  cases (crowd.templates.cache.lookup name).2.value? <;> rfl

theorem stepLookup_first : crowd.stepLookup name (.first caller)
    = ((crowd.receiveTemplate caller).1,
        match (crowd.templates.receive caller).answer? caller with
        | some answer => toldTemplate name crowd.withTemplate answer
        | none => .first caller) := by
  simp only [stepLookup, receiveTemplate]
  cases (crowd.templates.receive caller).answer? caller <;> rfl

theorem stepLookup_again : crowd.stepLookup name .again
    = (crowd.askTemplate name,
        match (crowd.templates.cache.lookup name).2.value? with
        | some template => .done (.ok template)
        | none => .second crowd.nextCaller) := by
  obtain ⟨ready, heq⟩ := crowd.callTemplate_eq name
  rw [askTemplate, stepLookup, heq]
  cases (crowd.templates.cache.lookup name).2.value? <;> rfl

theorem stepLookup_second : crowd.stepLookup name (.second caller)
    = ((crowd.receiveTemplate caller).1,
        match (crowd.templates.receive caller).answer? caller with
        | some answer => .done (answer.outcome name)
        | none => .second caller) := by
  simp only [stepLookup, receiveTemplate]
  cases (crowd.templates.receive caller).answer? caller <;> rfl

theorem stepFetch_start : crowd.stepFetch name .start
    = (crowd.askResource name,
        match (crowd.resources.cache.lookup name).2.value? with
        | some resource => .done (.ok resource)
        | none => .waiting crowd.nextCaller) := by
  obtain ⟨ready, heq⟩ := crowd.callResource_eq name
  rw [askResource, stepFetch, heq]
  cases (crowd.resources.cache.lookup name).2.value? <;> rfl

theorem stepFetch_waiting : crowd.stepFetch name (.waiting caller)
    = ((crowd.receiveResource caller).1,
        match (crowd.resources.receive caller).answer? caller with
        | some answer => .done (answer.outcome name)
        | none => .waiting caller) := by
  simp only [stepFetch, receiveResource]
  cases (crowd.resources.receive caller).answer? caller <;> rfl

end Equations

/-- What a step of a run that makes a template does to the crowd: nothing, or it asks for the
resource, receives it, takes it out, calls the compiler, takes a number for the unit, writes a copy,
ends, or makes that known. -/
inductive Makes (crowd : Crowd) (flight : Nat) (name : String) : MakingStage → Crowd → Prop
  | still {stage : MakingStage} : Makes crowd flight name stage crowd
  | asks {stage : MakingStage} : Makes crowd flight name stage (crowd.askResource name)
  | receives {stage : MakingStage} (caller : Nat) :
      Makes crowd flight name stage (crowd.receiveResource caller).1
  | drops {stage : MakingStage} (mark : Fingerprint) :
      Makes crowd flight name stage (crowd.withoutResource name mark)
  | compiles {stage : MakingStage} (compilations : Nat) :
      Makes crowd flight name stage { crowd with compilations }
  | refuses {stage : MakingStage} (compilations : Nat) (mark : Fingerprint) :
      Makes crowd flight name stage ({ crowd with compilations }.withoutResource name mark)
  | defines {stage : MakingStage} (program : Runnable) (generation : Generation) :
      Makes crowd flight name stage
        { crowd with units := (crowd.units.enrol name program generation).1 }
  | writes {stage : MakingStage} (unit : ExecutableUnit) (text : String) :
      Makes crowd flight name stage { crowd with world := crowd.units.persist unit text crowd.world }
  | ends (ending : Ending LiveTemplate TemplateError) :
      Makes crowd flight name (.finish ending)
        { crowd with templates := crowd.templates.finish flight ending }
  | reports {stage : MakingStage} :
      Makes crowd flight name stage { crowd with templates := crowd.templates.report flight }

theorem makes (crowd : Crowd) (flight : Nat) (name : String) (stage : MakingStage) :
    crowd.Makes flight name stage (crowd.stepMaking flight name stage).1 := by
  cases stage with
  | start =>
      rw [stepMaking_start]
      exact .asks
  | first caller =>
      rw [stepMaking_first]
      exact .receives caller
  | probe resource =>
      simp only [stepMaking]
      split <;> exact .still
  | judge resource current =>
      simp only [stepMaking]
      split
      · exact .still
      · exact .drops resource.fingerprint
  | again =>
      rw [stepMaking_again]
      exact .asks
  | second caller =>
      rw [stepMaking_second]
      exact .receives caller
  | compile resource =>
      simp only [stepMaking]
      split
      · exact .compiles _
      · exact .refuses _ resource.fingerprint
      · exact .compiles _
  | define resource program generation => exact .defines program generation
  | persist resource unit => exact .writes unit resource.content
  | finish ending => exact .ends ending
  | report => exact .reports
  | done => exact .still

/-- To which stage a step takes a run that makes a template: it finds its resource, or has asked for
it and waits, or is told that there is none, is told the mark that the source has, or fails to be;
takes the resource out; compiles, or cannot; has a unit, and a copy; ends; makes that known. -/
inductive MakingTurn (crowd : Crowd) (flight : Nat) (name : String) :
    MakingStage → MakingStage → Prop
  | finds {stage next : MakingStage} (resource : Resource)
      (h : next = .probe resource ∨ next = .compile resource) :
      MakingTurn crowd flight name stage next
  | asks {stage next : MakingStage}
      (missing : (crowd.resources.cache.lookup name).2.value? = none)
      (becomes : (crowd.stepMaking flight name stage).1 = crowd.askResource name)
      (h : next = .first crowd.nextCaller ∨ next = .second crowd.nextCaller) :
      MakingTurn crowd flight name stage next
  | waits {stage : MakingStage} {caller : Nat} (h : stage = .first caller ∨ stage = .second caller) :
      MakingTurn crowd flight name stage stage
  | fails {stage : MakingStage} {caller : Nat} {answer : Answer Resource TemplateError}
      {e : TemplateError} (h : stage = .first caller ∨ stage = .second caller)
      (receives : (crowd.resources.receive caller).answer? caller = some answer)
      (failed : answer.outcome name = .error e) :
      MakingTurn crowd flight name stage (.finish (.error e))
  | compares (resource : Resource) (current : Option Fingerprint) :
      MakingTurn crowd flight name (.probe resource) (.judge resource current)
  | stops (resource : Resource) {e : TemplateError}
      (unmarked : crowd.workshop.source.fingerprint crowd.world name = .error e) :
      MakingTurn crowd flight name (.probe resource) (.finish (.error e))
  | drops (resource : Resource) (current : Option Fingerprint) :
      MakingTurn crowd flight name (.judge resource current) .again
  | compiles (resource : Resource) {program : Runnable}
      (accepted : crowd.workshop.compiler name resource.content = .program program) :
      MakingTurn crowd flight name (.compile resource)
        (.define resource program crowd.units.generation)
  | refuses (resource : Resource) {e : TemplateError}
      (refused : crowd.workshop.compiler name resource.content = .rejected e) :
      MakingTurn crowd flight name (.compile resource) (.finish (.error e))
  | breaks (resource : Resource) (explanation : String) :
      MakingTurn crowd flight name (.compile resource) (.finish (.broken (some explanation)))
  | defines (resource : Resource) (program : Runnable) (generation : Generation) :
      MakingTurn crowd flight name (.define resource program generation)
        (.persist resource (crowd.units.enrol name program generation).2)
  | writes (resource : Resource) (unit : ExecutableUnit) :
      MakingTurn crowd flight name (.persist resource unit)
        (.finish (.value (crowd.workshop.template name resource unit)))
  | ends (ending : Ending LiveTemplate TemplateError) :
      MakingTurn crowd flight name (.finish ending) .report
  | reports : MakingTurn crowd flight name .report .done
  | rests : MakingTurn crowd flight name .done .done

theorem withResource_cases (crowd : Crowd) (resource : Resource) :
    crowd.withResource resource = .probe resource ∨ crowd.withResource resource = .compile resource := by
  unfold withResource
  split <;> simp

theorem makingTurn (crowd : Crowd) (flight : Nat) (name : String) (stage : MakingStage) :
    crowd.MakingTurn flight name stage (crowd.stepMaking flight name stage).2 := by
  cases stage with
  | start =>
      cases hfound : (crowd.resources.cache.lookup name).2.value? with
      | some resource =>
          rw [stepMaking_start, hfound]
          exact .finds resource (crowd.withResource_cases resource)
      | none =>
          refine .asks hfound ?_ (.inl ?_) <;> rw [stepMaking_start]
          rw [hfound]
  | first caller =>
      rw [stepMaking_first]
      dsimp only
      split
      · next answer hanswer =>
          unfold toldResource
          split
          · next resource _ => exact .finds resource (crowd.withResource_cases resource)
          · next hfailed => exact .fails (.inl rfl) hanswer hfailed
      · exact .waits (.inl rfl)
  | probe resource =>
      simp only [stepMaking]
      split
      · exact .compares resource _
      · next hmark => exact .stops resource hmark
  | judge resource current =>
      simp only [stepMaking]
      split
      · exact .finds resource (.inr rfl)
      · exact .drops resource current
  | again =>
      cases hfound : (crowd.resources.cache.lookup name).2.value? with
      | some resource =>
          rw [stepMaking_again, hfound]
          exact .finds resource (.inr rfl)
      | none =>
          refine .asks hfound ?_ (.inr ?_) <;> rw [stepMaking_again]
          rw [hfound]
  | second caller =>
      rw [stepMaking_second]
      dsimp only
      split
      · next answer hanswer =>
          unfold toldResource
          split
          · next resource _ => exact .finds resource (.inr rfl)
          · next hfailed => exact .fails (.inr rfl) hanswer hfailed
      · exact .waits (.inr rfl)
  | compile resource =>
      simp only [stepMaking]
      split
      · next haccepted => exact .compiles resource haccepted
      · next hrefused => exact .refuses resource hrefused
      · exact .breaks resource _
  | define resource program generation => exact .defines resource program generation
  | persist resource unit => exact .writes resource unit
  | finish ending => exact .ends ending
  | report => exact .reports
  | done => exact .rests

/-- What a step of a lookup does to the crowd: nothing, or it asks for the template, receives it,
takes its resource out, begins a generation, or takes the template out. -/
inductive Looks (crowd : Crowd) (name : String) : LookupStage → Crowd → Prop
  | still {stage : LookupStage} : Looks crowd name stage crowd
  | asks {stage : LookupStage} : Looks crowd name stage (crowd.askTemplate name)
  | receives {stage : LookupStage} (caller : Nat) :
      Looks crowd name stage (crowd.receiveTemplate caller).1
  | drops {stage : LookupStage} (template : LiveTemplate) :
      Looks crowd name stage (crowd.withoutSource name template)
  | advances (template : LiveTemplate)
      (opened : crowd.isClosed (fun other => other = name) = false)
      (there : crowd.caches.has name template = true) :
      Looks crowd name (.evict template) crowd.advanced
  | removes (template : LiveTemplate) : Looks crowd name (.remove template) (crowd.without name)

theorem looks (crowd : Crowd) (name : String) (stage : LookupStage) :
    crowd.Looks name stage (crowd.stepLookup name stage).1 := by
  cases stage with
  | start =>
      rw [stepLookup_start]
      exact .asks
  | first caller =>
      rw [stepLookup_first]
      exact .receives caller
  | probe template =>
      simp only [stepLookup]
      split <;> exact .still
  | judge template current =>
      simp only [stepLookup]
      split
      · exact .still
      · exact .drops template
  | evict template =>
      simp only [stepLookup]
      split
      · exact .still
      · next hopened =>
          split
          · next hthere => exact .advances template (by simpa using hopened) hthere
          · exact .still
  | remove template => exact .removes template
  | again =>
      rw [stepLookup_again]
      exact .asks
  | second caller =>
      rw [stepLookup_second]
      exact .receives caller
  | done outcome => exact .still

/-- To which stage a step takes a lookup: it finds its template, or has asked for it and waits, or is
told that there is none, is told the mark that the source has, or fails to be; finds the template
stale; stands before a closed entry, closes it, or comes too late; takes the template out; returns. -/
inductive LookupTurn (crowd : Crowd) (name : String) : LookupStage → LookupStage → Prop
  | finds {stage next : LookupStage} (template : LiveTemplate)
      (h : next = .probe template ∨ next = .done (.ok template)) :
      LookupTurn crowd name stage next
  | asks {stage next : LookupStage}
      (missing : (crowd.templates.cache.lookup name).2.value? = none)
      (becomes : (crowd.stepLookup name stage).1 = crowd.askTemplate name)
      (h : next = .first crowd.nextCaller ∨ next = .second crowd.nextCaller) :
      LookupTurn crowd name stage next
  | waits {stage : LookupStage} {caller : Nat} (h : stage = .first caller ∨ stage = .second caller) :
      LookupTurn crowd name stage stage
  | fails {stage : LookupStage} {caller : Nat} {answer : Answer LiveTemplate TemplateError}
      {e : TemplateError} (h : stage = .first caller ∨ stage = .second caller)
      (receives : (crowd.templates.receive caller).answer? caller = some answer)
      (failed : answer.outcome name = .error e) :
      LookupTurn crowd name stage (.done (.error e))
  | compares (template : LiveTemplate) (current : Option Fingerprint) :
      LookupTurn crowd name (.probe template) (.judge template current)
  | stops (template : LiveTemplate) {e : TemplateError}
      (unmarked : crowd.workshop.source.fingerprint crowd.world name = .error e) :
      LookupTurn crowd name (.probe template) (.done (.error e))
  | refuses (template : LiveTemplate) (current : Option Fingerprint) :
      LookupTurn crowd name (.judge template current) (.evict template)
  | stands (template : LiveTemplate) : LookupTurn crowd name (.evict template) (.evict template)
  | closes (template : LiveTemplate)
      (opened : crowd.isClosed (fun other => other = name) = false)
      (there : crowd.caches.has name template = true) :
      LookupTurn crowd name (.evict template) (.remove template)
  | yields (template : LiveTemplate) : LookupTurn crowd name (.evict template) .again
  | removes (template : LiveTemplate) : LookupTurn crowd name (.remove template) .again
  | rests (outcome : Except TemplateError LiveTemplate) :
      LookupTurn crowd name (.done outcome) (.done outcome)

theorem withTemplate_cases (crowd : Crowd) (template : LiveTemplate) :
    crowd.withTemplate template = .probe template
      ∨ crowd.withTemplate template = .done (.ok template) := by
  unfold withTemplate
  split <;> simp

theorem lookupTurn (crowd : Crowd) (name : String) (stage : LookupStage) :
    crowd.LookupTurn name stage (crowd.stepLookup name stage).2 := by
  cases stage with
  | start =>
      cases hfound : (crowd.templates.cache.lookup name).2.value? with
      | some template =>
          rw [stepLookup_start, hfound]
          exact .finds template (crowd.withTemplate_cases template)
      | none =>
          refine .asks hfound ?_ (.inl ?_) <;> rw [stepLookup_start]
          rw [hfound]
  | first caller =>
      rw [stepLookup_first]
      dsimp only
      split
      · next answer hanswer =>
          unfold toldTemplate
          split
          · next template _ => exact .finds template (crowd.withTemplate_cases template)
          · next hfailed => exact .fails (.inl rfl) hanswer hfailed
      · exact .waits (.inl rfl)
  | probe template =>
      simp only [stepLookup]
      split
      · exact .compares template _
      · next hmark => exact .stops template hmark
  | judge template current =>
      simp only [stepLookup]
      split
      · exact .finds template (.inr rfl)
      · exact .refuses template current
  | evict template =>
      simp only [stepLookup]
      split
      · exact .stands template
      · next hopened =>
          split
          · next hthere => exact .closes template (by simpa using hopened) hthere
          · exact .yields template
  | remove template => exact .removes template
  | again =>
      cases hfound : (crowd.templates.cache.lookup name).2.value? with
      | some template =>
          rw [stepLookup_again, hfound]
          exact .finds template (.inr rfl)
      | none =>
          refine .asks hfound ?_ (.inr ?_) <;> rw [stepLookup_again]
          rw [hfound]
  | second caller =>
      rw [stepLookup_second]
      dsimp only
      split
      · next answer hanswer =>
          cases houtcome : answer.outcome name with
          | ok template => exact .finds template (.inr rfl)
          | error e => exact .fails (.inr rfl) hanswer houtcome
      · exact .waits (.inr rfl)
  | done outcome => exact .rests outcome

/-! ## Every step leads on -/

namespace Sound

theorem leads_stepLoading (sound : crowd.Sound) (flight : Nat) (name : String)
    (stage : LoadingStage) : Leads crowd (crowd.stepLoading flight name stage).1 := by
  cases stage with
  | start =>
      simp only [stepLoading]
      split <;> exact sound.leads_self
  | finish ending =>
      exact ⟨rfl, Nat.le_refl _, .of_step sound.resources _ _ (.finish flight ending) trivial rfl,
        .refl sound.templates _ _, .refl _⟩
  | report =>
      exact ⟨rfl, Nat.le_refl _, .of_step sound.resources _ _ (.report flight) trivial rfl,
        .refl sound.templates _ _, .refl _⟩
  | done => exact sound.leads_self

theorem leads_stepMaking (sound : crowd.Sound) (flight : Nat) (name : String)
    (stage : MakingStage) : Leads crowd (crowd.stepMaking flight name stage).1 := by
  have hmakes := crowd.makes flight name stage
  generalize (crowd.stepMaking flight name stage).1 = next at hmakes ⊢
  have hresources := Side.Grows.refl sound.resources crowd.nextCaller crowd.nextCaller
  have htemplates := Side.Grows.refl sound.templates crowd.nextCaller crowd.nextCaller
  cases hmakes with
  | still => exact sound.leads_self
  | asks => exact sound.leads_askResource name
  | receives caller => exact sound.leads_receiveResource caller
  | drops mark => exact sound.leads_withoutResource name mark
  | compiles _ => exact ⟨rfl, Nat.le_refl _, hresources, htemplates, .refl _⟩
  | refuses _ mark =>
      have hdrop := sound.leads_withoutResource name mark
      exact ⟨rfl, Nat.le_refl _, hdrop.resources, htemplates, .refl _⟩
  | defines program generation =>
      exact ⟨rfl, Nat.le_refl _, hresources, htemplates, Units.precedes_enrol ..⟩
  | writes _ _ => exact ⟨rfl, Nat.le_refl _, hresources, htemplates, .refl _⟩
  | ends ending =>
      exact ⟨rfl, Nat.le_refl _, hresources,
        .of_step sound.templates _ _ (.finish flight ending) trivial rfl, .refl _⟩
  | reports =>
      exact ⟨rfl, Nat.le_refl _, hresources,
        .of_step sound.templates _ _ (.report flight) trivial rfl, .refl _⟩

theorem leads_stepLookup (sound : crowd.Sound) (name : String) (stage : LookupStage) :
    Leads crowd (crowd.stepLookup name stage).1 := by
  have hlooks := crowd.looks name stage
  generalize (crowd.stepLookup name stage).1 = next at hlooks ⊢
  cases hlooks with
  | still => exact sound.leads_self
  | asks => exact sound.leads_askTemplate name
  | receives caller => exact sound.leads_receiveTemplate caller
  | drops template => exact sound.leads_withoutSource name template
  | advances _ _ _ => exact sound.leads_advanced
  | removes _ => exact sound.leads_without name

theorem leads_stepFetch (sound : crowd.Sound) (name : String) (stage : FetchStage) :
    Leads crowd (crowd.stepFetch name stage).1 := by
  cases stage with
  | start =>
      rw [stepFetch_start]
      exact sound.leads_askResource name
  | waiting caller =>
      rw [stepFetch_waiting]
      exact sound.leads_receiveResource caller
  | done outcome => exact sound.leads_self

end Sound

/-! ## What steps keep -/

/-- A run that loads a resource keeps calm but for the step in which it ends. -/
theorem calm_stepLoading (crowd : Crowd) (flight : Nat) (name : String) (stage : LoadingStage) :
    Calm crowd (crowd.stepLoading flight name stage).1
      ∨ ∃ ending, stage = .finish ending
          ∧ (crowd.stepLoading flight name stage).1
            = { crowd with resources := crowd.resources.finish flight ending } := by
  cases stage with
  | start =>
      simp only [stepLoading]
      split <;> exact .inl crowd.calm_self
  | finish ending => exact .inr ⟨ending, rfl, rfl⟩
  | report =>
      exact .inl ⟨.of_traffic (Traffic.outcome?_report crowd.resources flight), .refl _ _, rfl, rfl⟩
  | done => exact .inl crowd.calm_self

/-- A run that makes a template keeps calm but for the step in which it ends. -/
theorem calm_stepMaking (crowd : Crowd) (flight : Nat) (name : String) (stage : MakingStage) :
    Calm crowd (crowd.stepMaking flight name stage).1
      ∨ ∃ ending, stage = .finish ending
          ∧ (crowd.stepMaking flight name stage).1
            = { crowd with templates := crowd.templates.finish flight ending } := by
  have hmakes := crowd.makes flight name stage
  generalize (crowd.stepMaking flight name stage).1 = next at hmakes ⊢
  have hself := crowd.calm_self
  cases hmakes with
  | still => exact .inl hself
  | asks => exact .inl (crowd.calm_askResource name)
  | receives caller => exact .inl (crowd.calm_receiveResource caller)
  | drops mark => exact .inl (crowd.calm_withCaches _)
  | compiles _ => exact .inl ⟨hself.resources, hself.templates, rfl, rfl⟩
  | refuses _ mark =>
      have hdrop := crowd.calm_withCaches (crowd.caches.dropResource name mark).1
      exact .inl ⟨hdrop.resources, hself.templates, rfl, rfl⟩
  | defines program generation => exact .inl ⟨hself.resources, hself.templates, rfl, rfl⟩
  | writes unit text =>
      exact .inl ⟨hself.resources, hself.templates, rfl, Units.stores_persist ..⟩
  | ends ending => exact .inr ⟨ending, rfl, rfl⟩
  | reports =>
      exact .inl ⟨hself.resources, .of_traffic (Traffic.outcome?_report crowd.templates flight),
        rfl, rfl⟩

/-- Lookups keep calm. -/
theorem calm_stepLookup (crowd : Crowd) (name : String) (stage : LookupStage) :
    Calm crowd (crowd.stepLookup name stage).1 := by
  have hlooks := crowd.looks name stage
  generalize (crowd.stepLookup name stage).1 = next at hlooks ⊢
  cases hlooks with
  | still => exact crowd.calm_self
  | asks => exact crowd.calm_askTemplate name
  | receives caller => exact crowd.calm_receiveTemplate caller
  | _ => exact crowd.calm_withCaches _

/-- Fetches keep calm. -/
theorem calm_stepFetch (crowd : Crowd) (name : String) (stage : FetchStage) :
    Calm crowd (crowd.stepFetch name stage).1 := by
  cases stage with
  | start =>
      rw [stepFetch_start]
      exact crowd.calm_askResource name
  | waiting caller =>
      rw [stepFetch_waiting]
      exact crowd.calm_receiveResource caller
  | done outcome => exact crowd.calm_self

theorem loadings_stepLoading (crowd : Crowd) (flight : Nat) (name : String)
    (stage : LoadingStage) : (crowd.stepLoading flight name stage).1.loadings = crowd.loadings := by
  cases stage with
  | start =>
      simp only [stepLoading]
      split <;> rfl
  | _ => rfl

theorem makings_stepMaking (crowd : Crowd) (flight : Nat) (name : String) (stage : MakingStage) :
    (crowd.stepMaking flight name stage).1.makings = crowd.makings := by
  have hmakes := crowd.makes flight name stage
  generalize (crowd.stepMaking flight name stage).1 = next at hmakes ⊢
  cases hmakes with
  | asks => exact congrArg Side.records (crowd.templateSide_askResource name)
  | _ => rfl

theorem fetches_stepLoading (crowd : Crowd) (flight : Nat) (name : String)
    (stage : LoadingStage) : (crowd.stepLoading flight name stage).1.fetches = crowd.fetches := by
  cases stage with
  | start =>
      simp only [stepLoading]
      split <;> rfl
  | _ => rfl

theorem fetches_stepMaking (crowd : Crowd) (flight : Nat) (name : String) (stage : MakingStage) :
    (crowd.stepMaking flight name stage).1.fetches = crowd.fetches := by
  have hmakes := crowd.makes flight name stage
  generalize (crowd.stepMaking flight name stage).1 = next at hmakes ⊢
  cases hmakes with
  | asks => exact crowd.fetches_askResource name
  | _ => rfl

theorem fetches_stepLookup (crowd : Crowd) (name : String) (stage : LookupStage) :
    (crowd.stepLookup name stage).1.fetches = crowd.fetches := by
  have hlooks := crowd.looks name stage
  generalize (crowd.stepLookup name stage).1 = next at hlooks ⊢
  cases hlooks with
  | asks => exact crowd.fetches_askTemplate name
  | _ => rfl

theorem fetches_stepFetch (crowd : Crowd) (name : String) (stage : FetchStage) :
    (crowd.stepFetch name stage).1.fetches = crowd.fetches := by
  cases stage with
  | start =>
      rw [stepFetch_start]
      exact crowd.fetches_askResource name
  | waiting caller =>
      rw [stepFetch_waiting]
      rfl
  | done outcome => rfl

/-! ## Events -/

theorem run_append (crowd : Crowd) (first second : List Event) :
    crowd.run (first ++ second) = (crowd.run first).run second :=
  List.foldl_append

theorem run_append_singleton (crowd : Crowd) (events : List Event) (event : Event) :
    crowd.run (events ++ [event]) = (crowd.run events).happen event :=
  crowd.run_append events [event]

/-- What becomes of a crowd when a run that loads a resource takes a step. -/
theorem step_loading {stage : LoadingStage}
    (h : Assoc.find? flight crowd.loadings = some (name, stage)) :
    crowd.step (.loading flight)
      = { (crowd.stepLoading flight name stage).1 with
          loadings := Assoc.set flight (name, (crowd.stepLoading flight name stage).2)
            crowd.loadings } := by
  rw [step, h]
  dsimp only
  rw [loadings_stepLoading]

/-- What becomes of a crowd when a run that makes a template takes a step. -/
theorem step_making {stage : MakingStage}
    (h : Assoc.find? flight crowd.makings = some (name, stage)) :
    crowd.step (.making flight)
      = { (crowd.stepMaking flight name stage).1 with
          makings := Assoc.set flight (name, (crowd.stepMaking flight name stage).2)
            crowd.makings } := by
  rw [step, h]
  dsimp only
  rw [makings_stepMaking]

/-- What becomes of a crowd when a lookup takes a step. -/
theorem step_lookup {index : Nat} {stage : LookupStage}
    (h : Assoc.find? index crowd.lookups = some (name, stage)) :
    crowd.step (.lookup index)
      = { (crowd.stepLookup name stage).1 with
          lookups := Assoc.set index (name, (crowd.stepLookup name stage).2) crowd.lookups } := by
  rw [step, h]
  dsimp only
  rw [(crowd.calm_stepLookup name stage).lookups]

/-- What becomes of a crowd when a fetch takes a step. -/
theorem step_fetch {index : Nat} {stage : FetchStage}
    (h : Assoc.find? index crowd.fetches = some (name, stage)) :
    crowd.step (.fetch index)
      = { (crowd.stepFetch name stage).1 with
          fetches := Assoc.set index (name, (crowd.stepFetch name stage).2) crowd.fetches } := by
  rw [step, h]
  dsimp only
  rw [crowd.fetches_stepFetch name stage]

/-- What a step of an activity comes to: nothing if there is no such activity, or else that the
activity goes to its next stage. -/
inductive Steps (crowd : Crowd) : Activity → Crowd → Prop
  | absent {activity : Activity} : Steps crowd activity crowd
  | lookup {index : Nat} {name : String} {stage : LookupStage}
      (h : Assoc.find? index crowd.lookups = some (name, stage)) :
      Steps crowd (.lookup index)
        { (crowd.stepLookup name stage).1 with
          lookups := Assoc.set index (name, (crowd.stepLookup name stage).2) crowd.lookups }
  | fetch {index : Nat} {name : String} {stage : FetchStage}
      (h : Assoc.find? index crowd.fetches = some (name, stage)) :
      Steps crowd (.fetch index)
        { (crowd.stepFetch name stage).1 with
          fetches := Assoc.set index (name, (crowd.stepFetch name stage).2) crowd.fetches }
  | making {flight : Nat} {name : String} {stage : MakingStage}
      (h : Assoc.find? flight crowd.makings = some (name, stage)) :
      Steps crowd (.making flight)
        { (crowd.stepMaking flight name stage).1 with
          makings := Assoc.set flight (name, (crowd.stepMaking flight name stage).2)
            crowd.makings }
  | loading {flight : Nat} {name : String} {stage : LoadingStage}
      (h : Assoc.find? flight crowd.loadings = some (name, stage)) :
      Steps crowd (.loading flight)
        { (crowd.stepLoading flight name stage).1 with
          loadings := Assoc.set flight (name, (crowd.stepLoading flight name stage).2)
            crowd.loadings }

theorem steps (crowd : Crowd) (activity : Activity) :
    crowd.Steps activity (crowd.step activity) := by
  cases activity with
  | lookup index =>
      cases hstage : Assoc.find? index crowd.lookups with
      | none =>
          rw [step, hstage]
          exact .absent
      | some entry =>
          rw [step_lookup hstage]
          exact .lookup hstage
  | fetch index =>
      cases hstage : Assoc.find? index crowd.fetches with
      | none =>
          rw [step, hstage]
          exact .absent
      | some entry =>
          rw [step_fetch hstage]
          exact .fetch hstage
  | making flight =>
      cases hstage : Assoc.find? flight crowd.makings with
      | none =>
          rw [step, hstage]
          exact .absent
      | some entry =>
          rw [step_making hstage]
          exact .making hstage
  | loading flight =>
      cases hstage : Assoc.find? flight crowd.loadings with
      | none =>
          rw [step, hstage]
          exact .absent
      | some entry =>
          rw [step_loading hstage]
          exact .loading hstage

namespace Sound

theorem leads_step (sound : crowd.Sound) (activity : Activity) :
    Leads crowd (crowd.step activity) := by
  have hsteps := crowd.steps activity
  generalize crowd.step activity = next at hsteps ⊢
  cases hsteps with
  | absent => exact sound.leads_self
  | @lookup index name stage h =>
      have hleads := sound.leads_stepLookup name stage
      exact ⟨hleads.workshop_eq, hleads.nextCaller_le, hleads.resources, hleads.templates,
        hleads.units⟩
  | @fetch index name stage h =>
      have hleads := sound.leads_stepFetch name stage
      exact ⟨hleads.workshop_eq, hleads.nextCaller_le, hleads.resources, hleads.templates,
        hleads.units⟩
  | @making flight name stage h =>
      have hleads := sound.leads_stepMaking flight name stage
      have hmakings : (crowd.stepMaking flight name stage).1.templateSide.records = crowd.makings :=
        crowd.makings_stepMaking flight name stage
      have hset := hleads.templates.set (hmakings ▸ h) (crowd.stepMaking flight name stage).2
      rw [hmakings] at hset
      exact ⟨hleads.workshop_eq, hleads.nextCaller_le, hleads.resources, hset, hleads.units⟩
  | @loading flight name stage h =>
      have hleads := sound.leads_stepLoading flight name stage
      have hloadings : (crowd.stepLoading flight name stage).1.resourceSide.records
          = crowd.loadings := crowd.loadings_stepLoading flight name stage
      have hset := hleads.resources.set (hloadings ▸ h) (crowd.stepLoading flight name stage).2
      rw [hloadings] at hset
      exact ⟨hleads.workshop_eq, hleads.nextCaller_le, hset, hleads.templates, hleads.units⟩

theorem leads_happen (sound : crowd.Sound) (event : Event) : Leads crowd (crowd.happen event) := by
  have hself := sound.leads_self
  cases event with
  | lookup index name =>
      rw [happen, beginLookup]
      split
      · exact hself
      · exact ⟨rfl, Nat.le_refl _, hself.resources, hself.templates, hself.units⟩
  | fetch index name =>
      rw [happen, beginFetch]
      split
      · exact hself
      · exact ⟨rfl, Nat.le_refl _, hself.resources, hself.templates, hself.units⟩
  | step activity => exact sound.leads_step activity
  | change alter => exact ⟨rfl, Nat.le_refl _, hself.resources, hself.templates, hself.units⟩
  | sweepResources part => exact sound.leads_sweepResources part
  | sweepTemplates part =>
      rw [happen]
      split
      · exact hself
      · exact sound.leads_sweepTemplates part

theorem leads_run (sound : crowd.Sound) (events : List Event) : Leads crowd (crowd.run events) := by
  induction events generalizing crowd with
  | nil => exact sound.leads_self
  | cons event rest ih =>
      have hfirst := sound.leads_happen event
      exact hfirst.trans (ih (hfirst.sound sound))

theorem run (sound : crowd.Sound) (events : List Event) : (crowd.run events).Sound :=
  (sound.leads_run events).sound sound

end Sound

/-! ## After an event -/

/-- An event keeps the runs as they are, apart from launches, or is the step of a run. -/
theorem happen_cases (crowd : Crowd) (event : Event) :
    Side.Kept .start crowd.resourceSide (crowd.happen event).resourceSide
        ∧ Side.Kept .start crowd.templateSide (crowd.happen event).templateSide
      ∨ (∃ flight name stage, event = .step (.making flight)
          ∧ Assoc.find? flight crowd.makings = some (name, stage))
      ∨ ∃ flight name stage, event = .step (.loading flight)
          ∧ Assoc.find? flight crowd.loadings = some (name, stage) := by
  have hself := crowd.calm_self
  cases event with
  | lookup index name =>
      left
      rw [happen, beginLookup]
      split <;> exact ⟨hself.resources, hself.templates⟩
  | fetch index name =>
      left
      rw [happen, beginFetch]
      split <;> exact ⟨hself.resources, hself.templates⟩
  | change alter => exact .inl ⟨hself.resources, hself.templates⟩
  | sweepResources part => exact .inl ⟨.of_traffic fun _ => rfl, hself.templates⟩
  | sweepTemplates part =>
      left
      rw [happen]
      split
      · exact ⟨hself.resources, hself.templates⟩
      · exact ⟨hself.resources, .of_traffic fun _ => rfl⟩
  | step activity =>
      rw [happen]
      have hsteps := crowd.steps activity
      generalize crowd.step activity = next at hsteps ⊢
      cases hsteps with
      | absent => exact .inl ⟨hself.resources, hself.templates⟩
      | @lookup index name stage h =>
          have hcalm := crowd.calm_stepLookup name stage
          exact .inl ⟨hcalm.resources, hcalm.templates⟩
      | @fetch index name stage h =>
          have hcalm := crowd.calm_stepFetch name stage
          exact .inl ⟨hcalm.resources, hcalm.templates⟩
      | making h => exact .inr (.inl ⟨_, _, _, rfl, h⟩)
      | loading h => exact .inr (.inr ⟨_, _, _, rfl, h⟩)

/-- What a run that makes a template does to the resources and the runs that load them. -/
theorem resources_stepMaking (crowd : Crowd) (flight : Nat) (name : String) (stage : MakingStage) :
    Side.Kept .start crowd.resourceSide (crowd.stepMaking flight name stage).1.resourceSide := by
  rcases crowd.calm_stepMaking flight name stage with hcalm | ⟨ending, -, heq⟩
  · exact hcalm.resources
  · rw [heq]
    exact .refl _ _

/-- What a run that loads a resource does to the templates and the runs that make them. -/
theorem templates_stepLoading (crowd : Crowd) (flight : Nat) (name : String)
    (stage : LoadingStage) :
    Side.Kept .start crowd.templateSide (crowd.stepLoading flight name stage).1.templateSide := by
  rcases crowd.calm_stepLoading flight name stage with hcalm | ⟨ending, -, heq⟩
  · exact hcalm.templates
  · rw [heq]
    exact .refl _ _

theorem lookups_stepMaking (crowd : Crowd) (flight : Nat) (name : String) (stage : MakingStage) :
    (crowd.stepMaking flight name stage).1.lookups = crowd.lookups := by
  rcases crowd.calm_stepMaking flight name stage with hcalm | ⟨ending, -, heq⟩
  · exact hcalm.lookups
  · rw [heq]

theorem lookups_stepLoading (crowd : Crowd) (flight : Nat) (name : String) (stage : LoadingStage) :
    (crowd.stepLoading flight name stage).1.lookups = crowd.lookups := by
  rcases crowd.calm_stepLoading flight name stage with hcalm | ⟨ending, -, heq⟩
  · exact hcalm.lookups
  · rw [heq]

/-- A run that loads a resource is where it was, or has just begun, or has taken a step. -/
theorem loading_of_happen {event : Event} {stage : LoadingStage}
    (h : Assoc.find? flight (crowd.happen event).loadings = some (name, stage)) :
    Assoc.find? flight crowd.loadings = some (name, stage) ∨ stage = .start
      ∨ ∃ earlier, event = .step (.loading flight)
          ∧ Assoc.find? flight crowd.loadings = some (name, earlier)
          ∧ stage = (crowd.stepLoading flight name earlier).2 := by
  rcases crowd.happen_cases event with
    ⟨hkept, -⟩ | ⟨other, title, earlier, rfl, hstage⟩ | ⟨other, title, earlier, rfl, hstage⟩
  · exact (hkept.records h).imp_right .inl
  · rw [happen, step_making hstage] at h
    exact ((crowd.resources_stepMaking other title earlier).records h).imp_right .inl
  · rw [happen, step_loading hstage] at h
    dsimp only at h
    rw [Assoc.find?_set] at h
    split at h
    · next hown =>
        subst hown
        cases h
        exact .inr (.inr ⟨earlier, rfl, hstage, rfl⟩)
    · exact .inl h

/-- A run that makes a template is where it was, or has just begun, or has taken a step. -/
theorem making_of_happen {event : Event} {stage : MakingStage}
    (h : Assoc.find? flight (crowd.happen event).makings = some (name, stage)) :
    Assoc.find? flight crowd.makings = some (name, stage) ∨ stage = .start
      ∨ ∃ earlier, event = .step (.making flight)
          ∧ Assoc.find? flight crowd.makings = some (name, earlier)
          ∧ stage = (crowd.stepMaking flight name earlier).2 := by
  rcases crowd.happen_cases event with
    ⟨-, hkept⟩ | ⟨other, title, earlier, rfl, hstage⟩ | ⟨other, title, earlier, rfl, hstage⟩
  · exact (hkept.records h).imp_right .inl
  · rw [happen, step_making hstage] at h
    dsimp only at h
    rw [Assoc.find?_set] at h
    split at h
    · next hown =>
        subst hown
        cases h
        exact .inr (.inr ⟨earlier, rfl, hstage, rfl⟩)
    · exact .inl h
  · rw [happen, step_loading hstage] at h
    exact ((crowd.templates_stepLoading other title earlier).records h).imp_right .inl

/-- What an event does to the activities of one kind: nothing, or one begins, or one goes on to its
next stage. -/
inductive Turns {σ : Type} (begin : σ) (own : Nat → Prop) (next : String → σ → σ)
    (before : List (Nat × String × σ)) : List (Nat × String × σ) → Prop
  | still : Turns begin own next before before
  | begins {key : Nat} {name : String} (new : Assoc.find? key before = none) :
      Turns begin own next before (before ++ [(key, name, begin)])
  | goes {key : Nat} {name : String} {stage : σ} (moves : own key)
      (h : Assoc.find? key before = some (name, stage)) :
      Turns begin own next before (Assoc.set key (name, next name stage) before)

section Turns

variable {σ : Type} {begin stage : σ} {own : Nat → Prop} {next : String → σ → σ} {key : Nat}
  {before after : List (Nat × String × σ)}

/-- An activity is where it was, or has just begun, or has taken a step. -/
theorem Turns.back (turns : Turns begin own next before after)
    (h : Assoc.find? key after = some (name, stage)) :
    Assoc.find? key before = some (name, stage) ∨ stage = begin
      ∨ ∃ earlier, own key ∧ Assoc.find? key before = some (name, earlier)
          ∧ stage = next name earlier := by
  cases turns with
  | still => exact .inl h
  | begins =>
      rw [Assoc.find?_append, Option.or_eq_some_iff] at h
      rcases h with h | ⟨-, h⟩
      · exact .inl h
      · simp only [Assoc.find?, Option.ite_none_right_eq_some, Option.some.injEq,
          Prod.mk.injEq] at h
        exact .inr (.inl h.2.2.symm)
  | goes moves hstage =>
      rw [Assoc.find?_set] at h
      split at h
      · next hown =>
          subst hown
          cases h
          exact .inr (.inr ⟨_, moves, hstage, rfl⟩)
      · exact .inl h

/-- An activity stays where it is, or takes a step. -/
theorem Turns.forth (turns : Turns begin own next before after)
    (h : Assoc.find? key before = some (name, stage)) :
    Assoc.find? key after = some (name, stage)
      ∨ own key ∧ Assoc.find? key after = some (name, next name stage) := by
  cases turns with
  | still => exact .inl h
  | begins => exact .inl (by rw [Assoc.find?_append, h]; rfl)
  | goes moves hstage =>
      rw [Assoc.find?_set]
      split
      · next hown =>
          subst hown
          rw [hstage] at h
          cases h
          exact .inr ⟨moves, rfl⟩
      · exact .inl h

end Turns

/-- What an event does to the lookups. -/
theorem lookups_happen (crowd : Crowd) (event : Event) :
    Turns .start (fun index => event = .step (.lookup index))
      (fun name stage => (crowd.stepLookup name stage).2) crowd.lookups
      (crowd.happen event).lookups := by
  cases event with
  | lookup index name =>
      rw [happen, beginLookup]
      split
      · exact .still
      · next hnew => exact .begins (by simpa using hnew)
  | fetch index name =>
      rw [happen, beginFetch]
      split <;> exact .still
  | change alter => exact .still
  | sweepResources part => exact .still
  | sweepTemplates part =>
      rw [happen]
      split <;> exact .still
  | step activity =>
      rw [happen]
      have hsteps := crowd.steps activity
      generalize crowd.step activity = after at hsteps ⊢
      cases hsteps with
      | absent => exact .still
      | lookup h => exact .goes rfl h
      | @fetch index name stage h =>
          have hsame := (crowd.calm_stepFetch name stage).lookups
          dsimp only
          rw [hsame]
          exact .still
      | @making flight name stage h =>
          dsimp only
          rw [crowd.lookups_stepMaking flight name stage]
          exact .still
      | @loading flight name stage h =>
          dsimp only
          rw [crowd.lookups_stepLoading flight name stage]
          exact .still

/-- What an event does to the fetches. -/
theorem fetches_happen (crowd : Crowd) (event : Event) :
    Turns .start (fun index => event = .step (.fetch index))
      (fun name stage => (crowd.stepFetch name stage).2) crowd.fetches
      (crowd.happen event).fetches := by
  cases event with
  | lookup index name =>
      rw [happen, beginLookup]
      split <;> exact .still
  | fetch index name =>
      rw [happen, beginFetch]
      split
      · exact .still
      · next hnew => exact .begins (by simpa using hnew)
  | change alter => exact .still
  | sweepResources part => exact .still
  | sweepTemplates part =>
      rw [happen]
      split <;> exact .still
  | step activity =>
      rw [happen]
      have hsteps := crowd.steps activity
      generalize crowd.step activity = after at hsteps ⊢
      cases hsteps with
      | absent => exact .still
      | @lookup index name stage h =>
          dsimp only
          rw [crowd.fetches_stepLookup name stage]
          exact .still
      | fetch h => exact .goes rfl h
      | @making flight name stage h =>
          dsimp only
          rw [crowd.fetches_stepMaking flight name stage]
          exact .still
      | @loading flight name stage h =>
          dsimp only
          rw [crowd.fetches_stepLoading flight name stage]
          exact .still

/-- A lookup is where it was, or has just begun, or has taken a step. -/
theorem lookup_of_happen {event : Event} {index : Nat} {stage : LookupStage}
    (h : Assoc.find? index (crowd.happen event).lookups = some (name, stage)) :
    Assoc.find? index crowd.lookups = some (name, stage) ∨ stage = .start
      ∨ ∃ earlier, event = .step (.lookup index)
          ∧ Assoc.find? index crowd.lookups = some (name, earlier)
          ∧ stage = (crowd.stepLookup name earlier).2 :=
  (crowd.lookups_happen event).back h

/-- A fetch is where it was, or has just begun, or has taken a step. -/
theorem fetch_of_happen {event : Event} {index : Nat} {stage : FetchStage}
    (h : Assoc.find? index (crowd.happen event).fetches = some (name, stage)) :
    Assoc.find? index crowd.fetches = some (name, stage) ∨ stage = .start
      ∨ ∃ earlier, event = .step (.fetch index)
          ∧ Assoc.find? index crowd.fetches = some (name, earlier)
          ∧ stage = (crowd.stepFetch name earlier).2 :=
  (crowd.fetches_happen event).back h

/-- A lookup stays where it is, or takes a step. -/
theorem lookup_happen {index : Nat} {stage : LookupStage}
    (h : Assoc.find? index crowd.lookups = some (name, stage)) (event : Event) :
    Assoc.find? index (crowd.happen event).lookups = some (name, stage)
      ∨ event = .step (.lookup index)
        ∧ Assoc.find? index (crowd.happen event).lookups
          = some (name, (crowd.stepLookup name stage).2) :=
  (crowd.lookups_happen event).forth h

/-- A fetch stays where it is, or takes a step. -/
theorem fetch_happen {index : Nat} {stage : FetchStage}
    (h : Assoc.find? index crowd.fetches = some (name, stage)) (event : Event) :
    Assoc.find? index (crowd.happen event).fetches = some (name, stage)
      ∨ event = .step (.fetch index)
        ∧ Assoc.find? index (crowd.happen event).fetches
          = some (name, (crowd.stepFetch name stage).2) :=
  (crowd.fetches_happen event).forth h

/-- A run that loads a resource has ended as it had before, or has just done so. -/
theorem loaded_of_happen {event : Event} {ending : Ending Resource TemplateError}
    (h : (crowd.happen event).resources.outcome? flight = some ending) :
    crowd.resources.outcome? flight = some ending
      ∨ ∃ name, Assoc.find? flight crowd.loadings = some (name, .finish ending) := by
  rcases crowd.happen_cases event with
    ⟨hkept, -⟩ | ⟨other, title, stage, rfl, hstage⟩ | ⟨other, title, stage, rfl, hstage⟩
  · exact .inl ((hkept.outcome? flight).symm.trans h)
  · rw [happen, step_making hstage] at h
    exact .inl (((crowd.resources_stepMaking other title stage).outcome? flight).symm.trans h)
  · rw [happen, step_loading hstage] at h
    rcases crowd.calm_stepLoading other title stage with hcalm | ⟨last, rfl, heq⟩
    · exact .inl ((hcalm.resources.outcome? flight).symm.trans h)
    · rw [heq] at h
      rcases Traffic.outcome?_of_finish h with h | ⟨rfl, rfl⟩
      · exact .inl h
      · exact .inr ⟨title, hstage⟩

/-- A run that makes a template has ended as it had before, or has just done so. -/
theorem made_of_happen {event : Event} {ending : Ending LiveTemplate TemplateError}
    (h : (crowd.happen event).templates.outcome? flight = some ending) :
    crowd.templates.outcome? flight = some ending
      ∨ ∃ name, Assoc.find? flight crowd.makings = some (name, .finish ending) := by
  rcases crowd.happen_cases event with
    ⟨-, hkept⟩ | ⟨other, title, stage, rfl, hstage⟩ | ⟨other, title, stage, rfl, hstage⟩
  · exact .inl ((hkept.outcome? flight).symm.trans h)
  · rw [happen, step_making hstage] at h
    rcases crowd.calm_stepMaking other title stage with hcalm | ⟨last, rfl, heq⟩
    · exact .inl ((hcalm.templates.outcome? flight).symm.trans h)
    · rw [heq] at h
      rcases Traffic.outcome?_of_finish h with h | ⟨rfl, rfl⟩
      · exact .inl h
      · exact .inr ⟨title, hstage⟩
  · rw [happen, step_loading hstage] at h
    exact .inl (((crowd.templates_stepLoading other title stage).outcome? flight).symm.trans h)

end Crowd

end LiveTemplates
