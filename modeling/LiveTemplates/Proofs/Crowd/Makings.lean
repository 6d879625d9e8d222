import LiveTemplates.Proofs.Crowd.Moments
import LiveTemplates.Proofs.Engine.Afresh

set_option autoImplicit false

/-! # Where templates come from

A resource that a run has given was loaded at a moment after the launch of the run. A run that makes
a template asks for a resource, up to twice, and what it compiles in the end it has either just been
told the mark of, or it was given it by a run that was launched later than itself (`Sourced`). -/

namespace LiveTemplates

namespace Crowd

variable {start : Crowd} {events : List Event} {flight : Nat} {name : String}

/-! ## Loading -/

/-- A resource was loaded by a run: at some moment after its launch the source served it. -/
def LoadedBy (start : Crowd) (events : List Event) (flight : Nat) (name : String)
    (resource : Resource) : Prop :=
  Once start events fun crowd => flight < crowd.resources.cache.nextFlight
    ∧ crowd.workshop.source.load crowd.world name = .ok (some resource)

/-- A run that has ended was about to end in that way. -/
theorem loading_of_ended (idle : start.Idle) {ending : Ending Resource TemplateError}
    (ended : (start.run events).resourceSide.Ended name flight ending) :
    ∃ part, part <+: events
      ∧ Assoc.find? flight (start.run part).loadings = some (name, .finish ending) := by
  induction events using List.reverseRecOn with
  | nil =>
      have houtcome := ended.outcome
      rw [run, List.foldl_nil, resourceSide, idle.resources] at houtcome
      cases houtcome
  | append_singleton events event ih =>
      have hsound := idle.sound.run events
      have hpart := List.prefix_append events [event]
      rw [run_append_singleton] at ended
      rcases (hsound.leads_happen event).resources.ended_or_stage hsound.resources ended
        (loaded_of_happen ended.outcome) with hended | hstage
      · obtain ⟨part, hlast, hfinish⟩ := ih hended
        exact ⟨part, hlast.trans hpart, hfinish⟩
      · exact ⟨events, hpart, hstage⟩

/-- A run that is about to end has looked for its source. -/
theorem looked_of_finish (idle : start.Idle) {ending : Ending Resource TemplateError}
    (h : Assoc.find? flight (start.run events).loadings = some (name, .finish ending)) :
    ∃ part, part ++ [.step (.loading flight)] <+: events
      ∧ Assoc.find? flight (start.run part).loadings = some (name, .start)
      ∧ ((start.run part).stepLoading flight name .start).2 = .finish ending := by
  obtain ⟨part, before, hpart, hbefore, hother, hnext⟩ :=
    staged_loadings.reached idle.loadings h nofun
  cases before with
  | start => exact ⟨part, hpart, hbefore, hnext⟩
  | _ => cases hnext

theorem loadedBy_of_finish (idle : start.Idle) {resource : Resource}
    (h : Assoc.find? flight (start.run events).loadings = some (name, .finish (.value resource))) :
    LoadedBy start events flight name resource := by
  obtain ⟨part, hpart, hstage, hnext⟩ := looked_of_finish idle h
  refine ⟨part, prefix_of_followed hpart,
    (idle.sound.run part).resources.lt_nextFlight hstage, ?_⟩
  simp only [stepLoading] at hnext
  split at hnext
  · next hproduce =>
      cases hnext
      exact Workshop.produceResource_eq_ok_iff.1 hproduce
  · cases hnext

/-- What a run has given it has loaded. -/
theorem loadedBy_of_gave (idle : start.Idle) {resource : Resource}
    (gave : (start.run events).resourceSide.Gave name flight resource) :
    LoadedBy start events flight name resource := by
  obtain ⟨part, hpart, hfinish⟩ := loading_of_ended idle gave.ended
  exact (loadedBy_of_finish idle hfinish).mono hpart

/-! ## Asking for a resource -/

/-- At some moment after the launch of a run for a template, no other run than one had the entry of
the resource. -/
def Aimed (start : Crowd) (events : List Event) (flight : Nat) (name : String) (loading : Nat) :
    Prop :=
  Once start events fun crowd => flight < crowd.templates.cache.nextFlight
    ∧ crowd.resources.cache.Sole name loading

/-- At some moment after the launch of a run for a template, one for a resource was still to be
launched. -/
def Preceded (start : Crowd) (events : List Event) (flight loading : Nat) : Prop :=
  Once start events fun crowd => flight < crowd.templates.cache.nextFlight
    ∧ crowd.resources.cache.nextFlight ≤ loading

/-- A run that had a resource was told a mark. -/
def Compared (start : Crowd) (events : List Event) (flight : Nat) (name : String)
    (resource : Resource) (current : Option Fingerprint) : Prop :=
  Once start events fun crowd => Assoc.find? flight crowd.makings = some (name, .probe resource)
    ∧ crowd.workshop.source.fingerprint crowd.world name = .ok current

/-- What a run compiles: a resource that bears the mark that the run has been told, or one that was
given by a run launched later than itself. -/
def Chosen (start : Crowd) (events : List Event) (flight : Nat) (name : String)
    (resource : Resource) : Prop :=
  ∃ loading, (start.run events).resourceSide.Gave name loading resource
    ∧ (Compared start events flight name resource (some resource.fingerprint)
      ∨ Preceded start events flight loading)

/-- Where a run that makes a template has its resource from, or will have it from. -/
def Sourced (start : Crowd) (events : List Event) (flight : Nat) (name : String) :
    MakingStage → Prop
  | .first caller => ∃ loading, caller < (start.run events).nextCaller
      ∧ (start.run events).resourceSide.Asked caller name loading
      ∧ Aimed start events flight name loading
  | .probe resource => ∃ loading, (start.run events).resourceSide.Gave name loading resource
      ∧ Aimed start events flight name loading
  | .judge resource current =>
      ∃ loading, (start.run events).resourceSide.Gave name loading resource
        ∧ Aimed start events flight name loading
        ∧ Compared start events flight name resource current
  | .again => ∃ resource loading, (start.run events).resourceSide.Gave name loading resource
      ∧ Aimed start events flight name loading
      ∧ (start.run events).resources.cache.belongs name loading = false
  | .second caller => ∃ loading, caller < (start.run events).nextCaller
      ∧ (start.run events).resourceSide.Asked caller name loading
      ∧ Preceded start events flight loading
  | .compile resource => Chosen start events flight name resource
  | .define resource _ _ => Chosen start events flight name resource
  | .persist resource _ => Chosen start events flight name resource
  | _ => True

theorem Chosen.snoc (sound : start.Sound) {resource : Resource}
    (chosen : Chosen start events flight name resource) (event : Event) :
    Chosen start (events ++ [event]) flight name resource := by
  have hleads := sound.leads_of_prefix (List.prefix_append events [event])
  obtain ⟨loading, hgave, hknown⟩ := chosen
  exact ⟨loading, hleads.resources.gave (sound.run events).resources hgave,
    hknown.imp (·.snoc event) (·.snoc event)⟩

/-- An event of others changes nothing about that. -/
theorem Sourced.snoc (sound : start.Sound) {stage : MakingStage}
    (sourced : Sourced start events flight name stage) (event : Event) :
    Sourced start (events ++ [event]) flight name stage := by
  have hsound := sound.run events
  have hleads := hsound.leads_happen event
  rw [← run_append_singleton] at hleads
  cases stage with
  | first caller =>
      obtain ⟨loading, hcaller, hasked, haimed⟩ := sourced
      exact ⟨loading, Nat.lt_of_lt_of_le hcaller hleads.nextCaller_le,
        hleads.resources.asked hsound.resources hcaller hasked, haimed.snoc event⟩
  | probe resource =>
      obtain ⟨loading, hgave, haimed⟩ := sourced
      exact ⟨loading, hleads.resources.gave hsound.resources hgave, haimed.snoc event⟩
  | judge resource current =>
      obtain ⟨loading, hgave, haimed, hcompared⟩ := sourced
      exact ⟨loading, hleads.resources.gave hsound.resources hgave, haimed.snoc event,
        hcompared.snoc event⟩
  | again =>
      obtain ⟨resource, loading, hgave, haimed, hgone⟩ := sourced
      refine ⟨resource, loading, hleads.resources.gave hsound.resources hgave, haimed.snoc event, ?_⟩
      exact hleads.resources.gone (hsound.resources.ledger.launch_new hgave.named) hgone
  | second caller =>
      obtain ⟨loading, hcaller, hasked, hpreceded⟩ := sourced
      exact ⟨loading, Nat.lt_of_lt_of_le hcaller hleads.nextCaller_le,
        hleads.resources.asked hsound.resources hcaller hasked, hpreceded.snoc event⟩
  | compile resource => exact Chosen.snoc sound sourced event
  | define resource program generation => exact Chosen.snoc sound sourced event
  | persist resource unit => exact Chosen.snoc sound sourced event
  | _ => trivial

/-- What has to do with resources after a run that makes a template has taken a step. -/
theorem after_making {stage : MakingStage}
    (h : Assoc.find? flight (start.run events).makings = some (name, stage)) :
    (start.run (events ++ [.step (.making flight)])).resourceSide
        = ((start.run events).stepMaking flight name stage).1.resourceSide
      ∧ (start.run (events ++ [.step (.making flight)])).nextCaller
        = ((start.run events).stepMaking flight name stage).1.nextCaller := by
  rw [run_append_singleton, happen, step_making h]
  exact ⟨rfl, rfl⟩

/-- The stage after a receipt: the one before if nothing is received, or else what the run comes to
that the caller was led to. -/
theorem Sound.received_resource {crowd : Crowd} (sound : crowd.Sound) {caller loading : Nat}
    (asked : crowd.resourceSide.Asked caller name loading) (next : Resource → MakingStage)
    {stay stage : MakingStage}
    (h : (match (crowd.resources.receive caller).answer? caller with
      | some answer => toldResource name next answer
      | none => stay) = stage) :
    stage = stay
      ∨ (∃ e ending, stage = .finish (.error e) ∧ crowd.resourceSide.Ended name loading ending
          ∧ ending.outcome name = .error e)
      ∨ ∃ resource, stage = next resource ∧ crowd.resourceSide.Gave name loading resource := by
  subst h
  cases hanswer : (crowd.resources.receive caller).answer? caller with
  | none => exact .inl rfl
  | some answer =>
      obtain ⟨ending, rfl, hended⟩ := asked.told sound.resources hanswer
      cases ending with
      | value resource => exact .inr (.inr ⟨resource, rfl, hended.gave⟩)
      | error e => exact .inr (.inl ⟨e, _, rfl, hended, rfl⟩)
      | broken explanation => exact .inr (.inl ⟨_, _, rfl, hended, rfl⟩)

/-- A resource that a run gave is taken out, so no entry of the name belongs to that run. -/
theorem Sound.not_belongs_withoutResource {crowd : Crowd} (sound : crowd.Sound) {loading : Nat}
    {resource : Resource} (gave : crowd.resourceSide.Gave name loading resource) :
    (crowd.withoutResource name resource.fingerprint).resources.cache.belongs name loading = false :=
  sound.resources.ledger.not_belongs_invalidateIf gave.outcome (decide_eq_true rfl) name

/-- Where the resource that a run gave is gone, whoever asks is led to a run that was launched later
than the run for the template. -/
theorem Aimed.preceded (sound : start.Sound) {loading : Nat}
    (aimed : Aimed start events flight name loading)
    (gone : (start.run events).resources.cache.belongs name loading = false) :
    Preceded start events flight ((start.run events).resources.cache.flightOf name) := by
  obtain ⟨part, hpart, hpast, hsole⟩ := aimed
  exact ⟨part, hpart, hpast, (sound.leads_of_prefix hpart).resources.le_flightOf hsole gone⟩

theorem withResource_of_reloadable {crowd : Crowd} (reloadable : crowd.workshop.reloadable = true)
    (resource : Resource) : crowd.withResource resource = .probe resource :=
  if_pos reloadable

/-- A step of the run itself goes on from there. -/
theorem Sourced.step (sound : start.Sound) (reloadable : start.workshop.reloadable = true)
    {stage : MakingStage} (h : Assoc.find? flight (start.run events).makings = some (name, stage))
    (sourced : Sourced start events flight name stage) :
    Sourced start (events ++ [.step (.making flight)]) flight name
      ((start.run events).stepMaking flight name stage).2 := by
  have hsound := sound.run events
  have hreloadable : (start.run events).workshop.reloadable = true := by
    rw [sound.workshop_run, reloadable]
  obtain ⟨hside, hcaller⟩ := after_making h
  have hleads := hsound.leads_happen (.step (.making flight))
  have hlaunched := hsound.templates.lt_nextFlight h
  have hlaunched' := Nat.lt_of_lt_of_le hlaunched hleads.templates.nextFlight_le
  rw [← run_append_singleton] at hleads hlaunched'
  have hstays := sourced.snoc sound (.step (.making flight))
  cases stage with
  | start =>
      rw [stepMaking_start] at hside hcaller ⊢
      -- once it has asked, no other run has the entry than the one that it is led to
      have haimed : Aimed start (events ++ [.step (.making flight)]) flight name
          ((start.run events).resources.cache.flightOf name) :=
        once_now ⟨hlaunched', (congrArg (fun side => side.traffic.cache) hside).symm ▸
          hsound.sole_askResource name⟩
      cases hfound : ((start.run events).resources.cache.lookup name).2.value? with
      | some resource =>
          dsimp only
          rw [withResource_of_reloadable hreloadable]
          exact ⟨_, hside ▸ hsound.gave_askResource hfound, haimed⟩
      | none =>
          refine ⟨_, ?_, hside ▸ hsound.asked_askResource hfound, haimed⟩
          rw [hcaller, nextCaller_askResource]
          exact Nat.lt_succ_self _
  | first caller =>
      -- what it is told the run that it was led to has given
      obtain ⟨loading, -, hasked, haimed⟩ := sourced
      generalize hnext : ((start.run events).stepMaking flight name (.first caller)).2 = next
      rw [stepMaking_first] at hnext
      rcases hsound.received_resource hasked _ hnext with rfl | ⟨e, _, rfl, -⟩ | ⟨resource, rfl, hgave⟩
      · exact hstays
      · trivial
      · rw [withResource_of_reloadable hreloadable]
        exact ⟨loading, hleads.resources.gave hsound.resources hgave, haimed.snoc _⟩
  | probe resource =>
      obtain ⟨loading, hgave, haimed⟩ := hstays
      simp only [stepMaking]
      cases hmark : (start.run events).workshop.source.fingerprint (start.run events).world name with
      | error e => trivial
      | ok current => exact ⟨loading, hgave, haimed, .snoc (once_now ⟨h, hmark⟩) _⟩
  | judge resource current =>
      by_cases hcurrent : current = some resource.fingerprint
      · obtain ⟨loading, hgave, -, hcompared⟩ := hstays
        rw [stepMaking, if_pos hcurrent]
        exact ⟨loading, hgave, .inl (hcurrent ▸ hcompared)⟩
      · obtain ⟨loading, hgave, haimed, -⟩ := sourced
        rw [stepMaking, if_neg hcurrent] at hside ⊢
        refine ⟨resource, loading, hleads.resources.gave hsound.resources hgave, haimed.snoc _, ?_⟩
        exact (congrArg (fun side => side.traffic.cache) hside).symm ▸
          hsound.not_belongs_withoutResource hgave
  | again =>
      obtain ⟨_, loading, -, haimed, hgone⟩ := sourced
      rw [stepMaking_again] at hside hcaller ⊢
      -- the resource that it had is not there any more, so it is led to a later run
      have hpreceded := (haimed.preceded sound hgone).snoc (.step (.making flight))
      cases hfound : ((start.run events).resources.cache.lookup name).2.value? with
      | some found => exact ⟨_, hside ▸ hsound.gave_askResource hfound, .inr hpreceded⟩
      | none =>
          refine ⟨_, ?_, hside ▸ hsound.asked_askResource hfound, hpreceded⟩
          rw [hcaller, nextCaller_askResource]
          exact Nat.lt_succ_self _
  | second caller =>
      obtain ⟨loading, -, hasked, hpreceded⟩ := sourced
      generalize hnext : ((start.run events).stepMaking flight name (.second caller)).2 = next
      rw [stepMaking_second] at hnext
      rcases hsound.received_resource hasked _ hnext with rfl | ⟨e, _, rfl, -⟩ | ⟨resource, rfl, hgave⟩
      · exact hstays
      · trivial
      · exact ⟨loading, hleads.resources.gave hsound.resources hgave, .inr (hpreceded.snoc _)⟩
  | compile resource =>
      simp only [stepMaking]
      split
      · exact hstays
      · trivial
      · trivial
  | define resource program generation => exact hstays
  | _ => trivial

/-- At every moment, a run that makes a template has its resource from where it should. -/
theorem sourced (idle : start.Idle) (reloadable : start.workshop.reloadable = true)
    {stage : MakingStage} (h : Assoc.find? flight (start.run events).makings = some (name, stage)) :
    Sourced start events flight name stage := by
  -- from the end, as what holds of a stage depends on the events up to the last step of the run
  induction events using List.reverseRecOn generalizing stage with
  | nil =>
      rw [run, List.foldl_nil, idle.makings] at h
      cases h
  | append_singleton events event ih =>
      rw [run_append_singleton] at h
      rcases making_of_happen h with h | rfl | ⟨earlier, rfl, hstage, rfl⟩
      · exact (ih h).snoc idle.sound event
      · trivial
      · exact (ih hstage).step idle.sound reloadable hstage

/-! ## Compiling -/

/-- A run compiled a resource at some moment, and saw which generation was current. -/
structure Compiles (start : Crowd) (moment : List Event) (flight : Nat) (name : String)
    (resource : Resource) (program : Runnable) (generation : Generation) : Prop where
  stage : Assoc.find? flight (start.run moment).makings = some (name, .compile resource)
  accepted : start.workshop.compiler name resource.content = .program program
  current : (start.run moment).units.generation = generation

/-- A run that had compiled a resource before took a number for the unit, and made a template of
it. -/
structure Defines (start : Crowd) (moment part : List Event) (flight : Nat) (name : String)
    (resource : Resource) (program : Runnable) (template : LiveTemplate) : Prop where
  earlier : moment ++ [.step (.making flight)] <+: part
  compiles : Compiles start moment flight name resource program template.unit.generation
  stage : Assoc.find? flight (start.run part).makings
    = some (name, .define resource program template.unit.generation)
  template_eq : template = start.workshop.template name resource
    ((start.run part).units.enrol name program template.unit.generation).2

theorem Defines.madeFrom {moment part : List Event} {resource : Resource} {program : Runnable}
    {template : LiveTemplate}
    (defines : Defines start moment part flight name resource program template) :
    template.MadeFrom start.workshop name resource := by
  rw [defines.template_eq]
  exact ⟨rfl, rfl, rfl, rfl, rfl, defines.compiles.accepted⟩

/-- A run that is about to take a number has compiled the resource. -/
theorem compiles_of_define (idle : start.Idle) {resource : Resource} {program : Runnable}
    {generation : Generation} (h : Assoc.find? flight (start.run events).makings
      = some (name, .define resource program generation)) :
    ∃ moment, moment ++ [.step (.making flight)] <+: events
      ∧ Compiles start moment flight name resource program generation := by
  obtain ⟨moment, before, hmoment, hbefore, -, hnext⟩ := staged_makings.reached idle.makings h nofun
  have hturn := (start.run moment).makingTurn flight name before
  rw [hnext] at hturn
  cases hturn with
  | finds _ hstages | asks _ _ hstages | waits hstages =>
      rcases hstages with hstages | hstages <;> cases hstages
  | compiles _ haccepted =>
      rw [idle.sound.workshop_run] at haccepted
      exact ⟨moment, hmoment, hbefore, haccepted, rfl⟩

/-- A run that is about to write a copy has just taken a number for the unit. -/
theorem defines_of_persist (idle : start.Idle) {resource : Resource} {unit : ExecutableUnit}
    (h : Assoc.find? flight (start.run events).makings = some (name, .persist resource unit)) :
    ∃ moment part program, part ++ [.step (.making flight)] <+: events
      ∧ Defines start moment part flight name resource program
        (start.workshop.template name resource unit) := by
  obtain ⟨part, before, hpart, hbefore, -, hnext⟩ := staged_makings.reached idle.makings h nofun
  have hturn := (start.run part).makingTurn flight name before
  rw [hnext] at hturn
  cases hturn with
  | finds _ hstages | asks _ _ hstages | waits hstages =>
      rcases hstages with hstages | hstages <;> cases hstages
  | defines _ program generation =>
      obtain ⟨moment, hmoment, hcompiles⟩ := compiles_of_define idle hbefore
      exact ⟨moment, part, program, hpart, hmoment, hcompiles, hbefore, rfl⟩

/-- A run that is about to give a template has defined it. -/
theorem defines_of_finish (idle : start.Idle) {template : LiveTemplate}
    (h : Assoc.find? flight (start.run events).makings = some (name, .finish (.value template))) :
    ∃ moment part resource program, part ++ [.step (.making flight)] <+: events
      ∧ Defines start moment part flight name resource program template := by
  obtain ⟨last, before, hlast, hbefore, -, hnext⟩ := staged_makings.reached idle.makings h nofun
  have hturn := (start.run last).makingTurn flight name before
  rw [hnext] at hturn
  cases hturn with
  | finds _ hstages | asks _ _ hstages | waits hstages =>
      rcases hstages with hstages | hstages <;> cases hstages
  | writes resource unit =>
      obtain ⟨moment, part, program, hpart, hdefines⟩ := defines_of_persist idle hbefore
      rw [idle.sound.workshop_run]
      exact ⟨moment, part, resource, program, hpart.trans (prefix_of_followed hlast), hdefines⟩

/-- A run that has ended was about to end in that way. -/
theorem making_of_ended (idle : start.Idle) {ending : Ending LiveTemplate TemplateError}
    (ended : (start.run events).templateSide.Ended name flight ending) :
    ∃ part, part <+: events
      ∧ Assoc.find? flight (start.run part).makings = some (name, .finish ending) := by
  induction events using List.reverseRecOn with
  | nil =>
      have houtcome := ended.outcome
      rw [run, List.foldl_nil, templateSide, idle.templates] at houtcome
      cases houtcome
  | append_singleton events event ih =>
      have hsound := idle.sound.run events
      have hpart := List.prefix_append events [event]
      rw [run_append_singleton] at ended
      rcases (hsound.leads_happen event).templates.ended_or_stage hsound.templates ended
        (made_of_happen ended.outcome) with hended | hstage
      · obtain ⟨part, hlast, hfinish⟩ := ih hended
        exact ⟨part, hlast.trans hpart, hfinish⟩
      · exact ⟨events, hpart, hstage⟩

/-- A template that a run has given it has compiled and defined. -/
theorem defines_of_gave (idle : start.Idle) {template : LiveTemplate}
    (gave : (start.run events).templateSide.Gave name flight template) :
    ∃ moment part resource program, part ++ [.step (.making flight)] <+: events
      ∧ Defines start moment part flight name resource program template := by
  obtain ⟨last, hlast, hfinish⟩ := making_of_ended idle gave.ended
  obtain ⟨moment, part, resource, program, hpart, hdefines⟩ := defines_of_finish idle hfinish
  exact ⟨moment, part, resource, program, hpart.trans hlast, hdefines⟩

end Crowd

end LiveTemplates
