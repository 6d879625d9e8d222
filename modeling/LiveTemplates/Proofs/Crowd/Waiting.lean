import LiveTemplates.Proofs.Crowd.Lookups
import LiveTemplates.Proofs.Engine.Missing

set_option autoImplicit false

/-! # Who waits, and what they are told

Fetches, lookups and runs that make templates wait as callers. Each came to wait in a step of its
own that found no value, and after that step the entry was that of the run it was led to (`Waits`).
Where only the engine itself reports that a resource is missing, nothing else makes any of them
report it than the end of that run. So the error goes from a load to a fetch (`FetchTold`), and from
a load to a run for a template (`MakingTold`) and from there to a lookup (`LookupTold`). -/

namespace LiveTemplates

namespace Crowd

variable {start crowd : Crowd} {moment part events : List Event} {index caller flight : Nat}
  {name : String}

/-- Only the error that a resource is missing comes to that error. -/
theorem eq_missing_of_outcome {α : Type} {ending : Ending α TemplateError}
    (h : ending.outcome name = .error (.resourceNotFound name)) :
    ending = .error (.resourceNotFound name) := by
  cases ending <;> cases h
  rfl

/-- A caller that came to wait for a name just before a moment was led to a run, for which the entry
waited at that moment. -/
structure Waits {σ α : Type} (side : Crowd → Side σ α) (start : Crowd) (moment events : List Event)
    (caller : Nat) (name : String) (flight : Nat) : Prop where
  since : moment <+: events
  asked : (side (start.run events)).Asked caller name flight
  pending : (side (start.run moment)).traffic.cache.slot? name = some (.pending flight)

/-- A caller that came to wait for a name just before a moment was told, by the run that it was led
to, that the source is missing. -/
structure TurnedAway {σ α : Type} (side : Crowd → Side σ α) (start : Crowd)
    (moment events : List Event) (caller : Nat) (name : String) (flight : Nat) : Prop
    extends Waits side start moment events caller name flight where
  ended : (side (start.run events)).Ended name flight (.error (.resourceNotFound name))

/-! ## Coming to wait -/

/-- Whoever asks for a resource that is not there comes to wait for it. -/
theorem Sound.waits_resource (sound : start.Sound)
    (missing : ((start.run part).resources.cache.lookup name).2.value? = none)
    (side : (start.run moment).resourceSide = ((start.run part).askResource name).resourceSide)
    (callers : (start.run moment).nextCaller = ((start.run part).askResource name).nextCaller)
    (since : moment <+: events) :
    Waits resourceSide start moment events (start.run part).nextCaller name
      ((start.run part).resources.cache.flightOf name) where
  since
  asked := by
    have hknown : (start.run part).nextCaller < (start.run moment).nextCaller := by
      rw [callers, nextCaller_askResource]
      exact Nat.lt_succ_self _
    exact (sound.leads_of_prefix since).resources.asked (sound.run moment).resources hknown
      (side ▸ (sound.run part).asked_askResource missing)
  pending := by
    rw [side, resourceSide_askResource]
    exact (start.run part).resourceSide.pending_call .start (start.run part).nextCaller missing

/-- Whoever asks for a template that is not there comes to wait for it. -/
theorem Sound.waits_template (sound : start.Sound)
    (missing : ((start.run part).templates.cache.lookup name).2.value? = none)
    (side : (start.run moment).templateSide = ((start.run part).askTemplate name).templateSide)
    (callers : (start.run moment).nextCaller = ((start.run part).askTemplate name).nextCaller)
    (since : moment <+: events) :
    Waits templateSide start moment events (start.run part).nextCaller name
      ((start.run part).templates.cache.flightOf name) where
  since
  asked := by
    have hknown : (start.run part).nextCaller < (start.run moment).nextCaller := by
      rw [callers, nextCaller_askTemplate]
      exact Nat.lt_succ_self _
    exact (sound.leads_of_prefix since).templates.asked (sound.run moment).templates hknown
      (side ▸ (sound.run part).asked_askTemplate missing)
  pending := by
    rw [side, templateSide_askTemplate]
    exact (start.run part).templateSide.pending_call .start (start.run part).nextCaller missing

/-! ## Fetches -/

/-- What has to do with resources after a fetch has taken a step. -/
theorem after_fetch {stage : FetchStage}
    (h : Assoc.find? index (start.run events).fetches = some (name, stage)) :
    (start.run (events ++ [.step (.fetch index)])).resourceSide
        = ((start.run events).stepFetch name stage).1.resourceSide
      ∧ (start.run (events ++ [.step (.fetch index)])).nextCaller
        = ((start.run events).stepFetch name stage).1.nextCaller := by
  rw [run_append_singleton, happen, step_fetch h]
  exact ⟨rfl, rfl⟩

/-- No step leads a fetch back to the beginning. -/
theorem stepFetch_ne_start (crowd : Crowd) (name : String) (stage : FetchStage) :
    (crowd.stepFetch name stage).2 ≠ .start := by
  cases stage with
  | start =>
      rw [stepFetch_start]
      dsimp only
      split <;> simp
  | waiting caller =>
      rw [stepFetch_waiting]
      dsimp only
      split <;> simp
  | done outcome => simp [stepFetch]

/-- A fetch that waits has done so since its first step. -/
theorem waits_of_fetch (idle : start.Idle) (unfetched : start.fetches = [])
    (h : Assoc.find? index (start.run events).fetches = some (name, .waiting caller)) :
    ∃ began loading, Assoc.find? index (start.run began).fetches = some (name, .start)
      ∧ Waits resourceSide start (began ++ [.step (.fetch index)]) events caller name loading := by
  obtain ⟨part, stage, hpart, hstage, hother, hnext⟩ := staged_fetches.reached unfetched h nofun
  obtain ⟨hside, hcaller⟩ := after_fetch hstage
  cases stage with
  | start =>
      rw [stepFetch_start] at hside hcaller hnext
      cases hfound : ((start.run part).resources.cache.lookup name).2.value? with
      | some resource =>
          rw [hfound] at hnext
          cases hnext
      | none =>
          rw [hfound] at hnext
          cases hnext
          exact ⟨part, _, hstage, idle.sound.waits_resource hfound hside hcaller hpart⟩
  | waiting other =>
      rw [stepFetch_waiting] at hnext
      dsimp only at hnext
      split at hnext
      · cases hnext
      · exact absurd hnext hother
  | done outcome => cases hnext

/-- A fetch that took its first step at a moment, and came to wait for a load, was told by it that the
source is missing, and returned so. -/
def FetchTold (start : Crowd) (events began : List Event) (index : Nat) (name : String)
    (loading : Nat) : Prop :=
  ∃ last caller, last ++ [.step (.fetch index)] <+: events
    ∧ Assoc.find? index (start.run last).fetches = some (name, .waiting caller)
    ∧ TurnedAway resourceSide start (began ++ [.step (.fetch index)]) last caller name loading

/-- A fetch that has reported its resource missing was told so by the load that it waited for. -/
theorem missing_fetch (idle : start.Idle) (unfetched : start.fetches = [])
    (h : Assoc.find? index (start.run events).fetches
      = some (name, .done (.error (.resourceNotFound name)))) :
    ∃ began loading, Assoc.find? index (start.run began).fetches = some (name, .start)
      ∧ FetchTold start events began index name loading := by
  obtain ⟨last, stage, hlast, hstage, hother, hnext⟩ := staged_fetches.reached unfetched h nofun
  cases stage with
  | start =>
      rw [stepFetch_start] at hnext
      dsimp only at hnext
      split at hnext <;> cases hnext
  | waiting caller =>
      obtain ⟨began, loading, hbegan, hwaits⟩ := waits_of_fetch idle unfetched hstage
      rw [stepFetch_waiting] at hnext
      dsimp only at hnext
      split at hnext
      · next answer hanswer =>
          obtain ⟨ending, rfl, hended⟩ :=
            hwaits.asked.told (idle.sound.run last).resources hanswer
          have hmissing : ending.outcome name = .error (.resourceNotFound name) :=
            FetchStage.done.inj hnext
          exact ⟨began, loading, hbegan, last, caller, hlast, hstage, hwaits,
            eq_missing_of_outcome hmissing ▸ hended⟩
      · cases hnext
  | done outcome => exact absurd hnext hother

/-! ## Runs that make templates -/

/-- A run for a template that comes to wait has just asked for the resource. -/
theorem asking_of_stepMaking {stage next : MakingStage}
    (h : (crowd.stepMaking flight name stage).2 = next) (moves : stage ≠ next)
    (waits : next = .first caller ∨ next = .second caller) :
    (crowd.resources.cache.lookup name).2.value? = none
      ∧ (crowd.stepMaking flight name stage).1 = crowd.askResource name
      ∧ caller = crowd.nextCaller := by
  have hturn := crowd.makingTurn flight name stage
  rw [h] at hturn
  cases hturn with
  | finds _ hnext => rcases hnext with rfl | rfl <;> simp at waits
  | asks hmissing hbecomes hnext =>
      refine ⟨hmissing, hbecomes, ?_⟩
      rcases hnext with rfl | rfl <;> simpa [eq_comm] using waits
  | waits _ => exact absurd rfl moves
  | _ => simp at waits

/-- A run for a template that waits has done so since a step of its own. -/
theorem waits_of_making (idle : start.Idle) {stage : MakingStage}
    (waits : stage = .first caller ∨ stage = .second caller)
    (h : Assoc.find? flight (start.run events).makings = some (name, stage)) :
    ∃ moment loading, flight < (start.run moment).templates.cache.nextFlight
      ∧ Waits resourceSide start (moment ++ [.step (.making flight)]) events caller name
        loading := by
  have hbegun : stage ≠ .start := by rcases waits with rfl | rfl <;> nofun
  obtain ⟨part, earlier, hpart, hstage, hother, hnext⟩ :=
    staged_makings.reached idle.makings h hbegun
  obtain ⟨hside, hcaller⟩ := after_making hstage
  obtain ⟨hmissing, hcrowd, rfl⟩ := asking_of_stepMaking hnext hother waits
  rw [hcrowd] at hside hcaller
  exact ⟨part, _, (idle.sound.run part).templates.lt_nextFlight hstage,
    idle.sound.waits_resource hmissing hside hcaller hpart⟩

/-- A run for a template that comes to report its resource missing has just been told so. -/
theorem told_of_stepMaking (discreet : crowd.workshop.Discreet) {stage : MakingStage}
    (h : (crowd.stepMaking flight name stage).2 = .finish (.error (.resourceNotFound name))) :
    ∃ caller answer, (stage = .first caller ∨ stage = .second caller)
      ∧ (crowd.resources.receive caller).answer? caller = some answer
      ∧ answer.outcome name = .error (.resourceNotFound name) := by
  have hturn := crowd.makingTurn flight name stage
  generalize (crowd.stepMaking flight name stage).2 = next at h hturn
  cases hturn with
  | finds _ hstages | asks _ _ hstages | waits hstages =>
      rcases hstages with rfl | rfl <;> cases h
  | fails hstage hreceives hfailed =>
      cases h
      exact ⟨_, _, hstage, hreceives, hfailed⟩
  | stops _ hunmarked =>
      cases h
      exact absurd hunmarked (discreet.marks _ _)
  | refuses resource hrefused =>
      -- the compiler does not say so
      cases h
      exact absurd hrefused ((discreet.leaves crowd.world name).compiler resource.content)
  | _ => cases h

/-- A run for a template that asked for its resource at a moment, and came to wait for a load, was
told by it that the source is missing, and is about to end so. -/
def MakingTold (start : Crowd) (events asked : List Event) (making : Nat) (name : String)
    (loading : Nat) : Prop :=
  ∃ told caller stage, told ++ [.step (.making making)] <+: events
    ∧ Assoc.find? making (start.run told).makings = some (name, stage)
    ∧ (stage = .first caller ∨ stage = .second caller)
    ∧ TurnedAway resourceSide start (asked ++ [.step (.making making)]) told caller name loading

/-- A run for a template that is about to report its resource missing was told so by the load that it
waited for. -/
theorem missing_making (idle : start.Idle) (discreet : start.workshop.Discreet)
    (h : Assoc.find? flight (start.run events).makings
      = some (name, .finish (.error (.resourceNotFound name)))) :
    ∃ asked loading, flight < (start.run asked).templates.cache.nextFlight
      ∧ MakingTold start events asked flight name loading := by
  obtain ⟨told, stage, htold, hstage, -, hnext⟩ := staged_makings.reached idle.makings h nofun
  rw [← idle.sound.workshop_run told] at discreet
  obtain ⟨caller, answer, hstages, hanswer, hfailed⟩ := told_of_stepMaking discreet hnext
  obtain ⟨asked, loading, hlaunched, hwaits⟩ := waits_of_making idle hstages hstage
  obtain ⟨ending, rfl, hended⟩ := hwaits.asked.told (idle.sound.run told).resources hanswer
  exact ⟨asked, loading, hlaunched, told, caller, stage, htold, hstage, hstages, hwaits,
    eq_missing_of_outcome hfailed ▸ hended⟩

/-! ## Lookups -/

/-- A lookup that comes to wait has just asked for the template. -/
theorem asking_of_stepLookup {stage next : LookupStage}
    (h : (crowd.stepLookup name stage).2 = next) (moves : stage ≠ next)
    (waits : next = .first caller ∨ next = .second caller) :
    (crowd.templates.cache.lookup name).2.value? = none
      ∧ (crowd.stepLookup name stage).1 = crowd.askTemplate name
      ∧ caller = crowd.nextCaller := by
  have hturn := crowd.lookupTurn name stage
  rw [h] at hturn
  cases hturn with
  | finds _ hnext => rcases hnext with rfl | rfl <;> simp at waits
  | asks hmissing hbecomes hnext =>
      refine ⟨hmissing, hbecomes, ?_⟩
      rcases hnext with rfl | rfl <;> simpa [eq_comm] using waits
  | waits _ => exact absurd rfl moves
  | stands _ => exact absurd rfl moves
  | _ => simp at waits

/-- A lookup that waits has done so since a step of its own. -/
theorem waits_of_lookup (idle : start.Idle) {stage : LookupStage}
    (waits : stage = .first caller ∨ stage = .second caller)
    (h : Assoc.find? index (start.run events).lookups = some (name, stage)) :
    ∃ moment flight, Begun index name (start.run (moment ++ [.step (.lookup index)]))
      ∧ Waits templateSide start (moment ++ [.step (.lookup index)]) events caller name flight := by
  have hbegun : stage ≠ .start := by rcases waits with rfl | rfl <;> nofun
  obtain ⟨part, earlier, hpart, hstage, hother, hnext⟩ :=
    staged_lookups.reached idle.lookups h hbegun
  obtain ⟨hside, hcaller, hbegun⟩ := after_lookup hstage
  obtain ⟨hmissing, hcrowd, rfl⟩ := asking_of_stepLookup hnext hother waits
  rw [hcrowd] at hside hcaller
  exact ⟨part, _, hbegun, idle.sound.waits_template hmissing hside hcaller hpart⟩

/-- A lookup that comes to report its resource missing has just been told so. -/
theorem told_of_stepLookup (discreet : crowd.workshop.Discreet) {stage : LookupStage}
    (moves : stage ≠ .done (.error (.resourceNotFound name)))
    (h : (crowd.stepLookup name stage).2 = .done (.error (.resourceNotFound name))) :
    ∃ caller answer, (stage = .first caller ∨ stage = .second caller)
      ∧ (crowd.templates.receive caller).answer? caller = some answer
      ∧ answer.outcome name = .error (.resourceNotFound name) := by
  have hturn := crowd.lookupTurn name stage
  generalize (crowd.stepLookup name stage).2 = next at h hturn
  cases hturn with
  | finds _ hnext | asks _ _ hnext => rcases hnext with rfl | rfl <;> cases h
  | waits _ => exact absurd h moves
  | fails hstage hreceives hfailed =>
      cases h
      exact ⟨_, _, hstage, hreceives, hfailed⟩
  | stops _ hunmarked =>
      cases h
      exact absurd hunmarked (discreet.marks _ _)
  | rests outcome => exact absurd h moves
  | _ => cases h

/-- A lookup that asked for its template at a moment, and came to wait for a run, was told by it that
the source is missing, and returned so. -/
def LookupTold (start : Crowd) (events moment : List Event) (index : Nat) (name : String)
    (making : Nat) : Prop :=
  ∃ last caller stage, last ++ [.step (.lookup index)] <+: events
    ∧ Assoc.find? index (start.run last).lookups = some (name, stage)
    ∧ (stage = .first caller ∨ stage = .second caller)
    ∧ TurnedAway templateSide start (moment ++ [.step (.lookup index)]) last caller name making

/-- A lookup that has reported its resource missing was told so by the run that it waited for. -/
theorem missing_lookup (idle : start.Idle) (discreet : start.workshop.Discreet)
    (h : Assoc.find? index (start.run events).lookups
      = some (name, .done (.error (.resourceNotFound name)))) :
    ∃ moment making, Begun index name (start.run (moment ++ [.step (.lookup index)]))
      ∧ LookupTold start events moment index name making := by
  obtain ⟨last, stage, hlast, hstage, hother, hnext⟩ := staged_lookups.reached idle.lookups h nofun
  rw [← idle.sound.workshop_run last] at discreet
  obtain ⟨caller, answer, hstages, hanswer, hfailed⟩ := told_of_stepLookup discreet hother hnext
  obtain ⟨moment, making, hbegun, hwaits⟩ := waits_of_lookup idle hstages hstage
  obtain ⟨ending, rfl, hended⟩ := hwaits.asked.told (idle.sound.run last).templates hanswer
  exact ⟨moment, making, hbegun, last, caller, stage, hlast, hstage, hstages, hwaits,
    eq_missing_of_outcome hfailed ▸ hended⟩

end Crowd

end LiveTemplates
