import LiveTemplates.Proofs.Crowd.Fresh
import LiveTemplates.Proofs.Crowd.Waiting
import Mathlib.Tactic.IntervalCases

set_option autoImplicit false

/-! # When a source is reported missing

Whoever reports that a source is missing goes by a load that found nothing (`Vain`): a fetch has
waited for that load, a lookup for a run for the template that has waited for it (`ByWayOf`), and the
error went from one to the next. That load looked while the call was under way, unless the call found
a run under way when it began: a load that had looked before (`LeftOver`), or the run for the
template, which had been led to such a load (`HandedOn`). The error of a run goes to everyone who
waits for it, and nobody looks again before passing it on, so a source may be reported missing that
was there all through the call. A fetch only ever joins a load, so where a load ends as soon as it
has looked, what a fetch reports was true during the call (`absent_within_call`). -/

namespace LiveTemplates

namespace Crowd

variable {start : Crowd} {began part events : List Event} {index flight loading : Nat}
  {name : String}

/-! ## Loads that find nothing -/

/-- A run looked for a source at a moment when there was none. -/
structure Vain (start : Crowd) (events part : List Event) (name : String) (loading : Nat) :
    Prop where
  looks : part ++ [.step (.loading loading)] <+: events
  stage : Assoc.find? loading (start.run part).loadings = some (name, .start)
  absent : start.workshop.source.load (start.run part).world name = .ok none

theorem Vain.mono {earlier : List Event} (vain : Vain start earlier part name loading)
    (h : earlier <+: events) : Vain start events part name loading :=
  ⟨vain.looks.trans h, vain.stage, vain.absent⟩

/-- A run was launched before it looked. -/
theorem Vain.launched (vain : Vain start events part name loading) (sound : start.Sound) :
    loading < (start.run part).resources.cache.nextFlight :=
  (sound.run part).resources.lt_nextFlight vain.stage

/-- Once it has looked, the run is about to report that the source is missing. -/
theorem Vain.finishes (vain : Vain start events part name loading) (sound : start.Sound) :
    Assoc.find? loading (start.run (part ++ [.step (.loading loading)])).loadings
      = some (name, .finish (.error (.resourceNotFound name))) := by
  have hproduce : (start.run part).workshop.produceResource (start.run part).world name
      = .error (.resourceNotFound name) := by
    rw [Workshop.produceResource, sound.workshop_run, vain.absent]
  rw [run_append_singleton, happen, step_loading vain.stage]
  dsimp only
  rw [Assoc.find?_set, if_pos rfl, stepLoading, hproduce]

/-- A run that has reported a source missing looked for it in vain. -/
theorem vain_of_ended (idle : start.Idle) (discreet : start.workshop.Discreet)
    (ended : (start.run events).resourceSide.Ended name loading (.error (.resourceNotFound name))) :
    ∃ part, Vain start events part name loading := by
  obtain ⟨last, hlast, hfinish⟩ := loading_of_ended idle ended
  obtain ⟨part, hpart, hstage, hnext⟩ := looked_of_finish idle hfinish
  refine ⟨part, hpart.trans hlast, hstage, ?_⟩
  rw [← idle.sound.workshop_run part] at discreet ⊢
  refine Workshop.load_of_produceResource_missing (discreet.leaves _ name) ?_
  rw [stepLoading] at hnext
  split at hnext
  · cases hnext
  · next hproduce =>
      cases hnext
      exact hproduce

/-- A run that loads a resource does not break down. -/
theorem ne_broken_of_ended (idle : start.Idle) {ending : Ending Resource TemplateError}
    (ended : (start.run events).resourceSide.Ended name loading ending)
    (explanation : Option String) : ending ≠ .broken explanation := by
  rintro rfl
  obtain ⟨last, -, hfinish⟩ := loading_of_ended idle ended
  obtain ⟨part, -, -, hnext⟩ := looked_of_finish idle hfinish
  rw [stepLoading] at hnext
  split at hnext <;> cases hnext

/-- A run that is still waited for and knows how it ends has ended after its next step. -/
theorem ended_of_finish (idle : start.Idle) {ending : Ending Resource TemplateError}
    (h : Assoc.find? loading (start.run events).loadings = some (name, .finish ending))
    (pending : (start.run events).resources.cache.slot? name = some (.pending loading)) :
    (start.run (events ++ [.step (.loading loading)])).resourceSide.Ended name loading ending := by
  have hsound := idle.sound.run events
  have hnamed := hsound.resources.named h
  have hrunning : Assoc.find? loading (start.run events).resources.running = some name := by
    rcases hsound.resources.ledger.pending pending with hrunning | ⟨explanation, hbroken⟩
    · exact hrunning
    · exact absurd rfl (ne_broken_of_ended idle ⟨hnamed, hbroken⟩ explanation)
  rw [run_append_singleton]
  refine ⟨(hsound.leads_happen _).resources.named hnamed, ?_⟩
  rw [happen, step_loading h]
  exact (Traffic.outcome?_finish hrunning ending loading).trans (if_pos rfl)

/-- Every load ends in the event after the one in which it looked, as one does that cannot be
interrupted in between. -/
def Prompt (start : Crowd) (events : List Event) : Prop :=
  ∀ (part : List Event) (flight : Nat) (name : String) (event : Event),
    Assoc.find? flight (start.run part).loadings = some (name, .start) →
      part ++ [.step (.loading flight)] ++ [event] <+: events → event = .step (.loading flight)

/-- A load that had looked was still waited for when something else happened, so it did not end as
soon as it had looked. -/
theorem Vain.not_prompt (vain : Vain start events part name loading) (idle : start.Idle)
    (looked : part ++ [.step (.loading loading)] <+: began) {event : Event}
    (next : began ++ [event] <+: events) (other : event ≠ .step (.loading loading))
    (pending : (start.run began).resources.cache.slot? name = some (.pending loading)) :
    ¬ Prompt start events := by
  intro prompt
  have hfinish := vain.finishes idle.sound
  have hprompt := prompt part loading name
  generalize part ++ [.step (.loading loading)] = moment at looked hfinish hprompt
  obtain ⟨between, rfl⟩ := looked
  cases between with
  | nil =>
      rw [List.append_nil] at next
      exact other (hprompt _ vain.stage next)
  | cons last rest =>
      have hends : moment ++ [last] <+: moment ++ last :: rest := by simp
      cases hprompt _ vain.stage ((hends.trans (List.prefix_append _ _)).trans next)
      -- the entry waits for the load, but the load has ended
      have hsound := idle.sound.run moment
      have hearlier := (idle.sound.leads_of_prefix (List.prefix_append moment
        _)).resources.pending hsound.resources (hsound.resources.lt_nextFlight hfinish) pending
      have hlater := (idle.sound.leads_of_prefix hends).resources.ended
        (idle.sound.run _).resources (ended_of_finish idle hfinish hearlier)
      obtain ⟨_, hvalue, -⟩ :=
        (idle.sound.run _).resources.ledger.slot?_of_outcome pending hlater.outcome (by simp)
      cases hvalue

/-! ## What was under way when a call began -/

/-- When a call began, a load was waited for that had looked before; so it did not end as soon as it
had looked. -/
structure LeftOver (start : Crowd) (events part began : List Event) (name : String)
    (loading : Nat) : Prop where
  looked : part ++ [.step (.loading loading)] <+: began
  pending : (start.run began).resources.cache.slot? name = some (.pending loading)
  interrupted : ¬ Prompt start events

/-- The error of a lookup came by way of a run for the template: the run had been launched when it
asked for its resource at a moment, it came to wait for a load that told it that the source is
missing, and it told so the lookup, which had come to wait for it. -/
structure ByWayOf (start : Crowd) (events asked : List Event) (index : Nat) (name : String)
    (making loading : Nat) : Prop where
  launched : making < (start.run asked).templates.cache.nextFlight
  learns : MakingTold start events asked making name loading
  passes : ∃ moment, LookupTold start events moment index name making

/-- When a call began, the run by way of which its error came was waited for, and had come to wait for
the load, which had looked before the call; where loads end as soon as they have looked, the load
looked after that run had been launched. -/
structure HandedOn (start : Crowd) (events part began asked : List Event) (index : Nat)
    (name : String) (making loading : Nat) : Prop
    extends ByWayOf start events asked index name making loading where
  looked : part ++ [.step (.loading loading)] <+: began
  asks : asked ++ [.step (.making making)] <+: began
  pending : (start.run began).templates.cache.slot? name = some (.pending making)
  prompt : Prompt start events → making < (start.run part).templates.cache.nextFlight

/-- A load that looked before some event and was waited for afterwards was waited for all along. -/
theorem Vain.pending (vain : Vain start events part name loading) (sound : start.Sound)
    (looked : part ++ [.step (.loading loading)] <+: began) {later : List Event}
    (since : began <+: later)
    (pending : (start.run later).resources.cache.slot? name = some (.pending loading)) :
    (start.run began).resources.cache.slot? name = some (.pending loading) := by
  have hlaunched := Nat.lt_of_lt_of_le (vain.launched sound)
    (sound.leads_of_prefix (prefix_of_followed looked)).resources.nextFlight_le
  exact (sound.leads_of_prefix since).resources.pending (sound.run began).resources hlaunched pending

/-- A fetch has taken its first step, and has not returned. -/
def Fetching (index : Nat) (name : String) (crowd : Crowd) : Prop :=
  ∃ caller, Assoc.find? index crowd.fetches = some (name, .waiting caller)

/-- Between its first step and a moment at which it had not returned a fetch was under way. -/
theorem fetching_between {last : List Event}
    (first : Assoc.find? index (start.run began).fetches = some (name, .start))
    (since : began ++ [.step (.fetch index)] <+: part) (before : part <+: last)
    (fetching : Fetching index name (start.run last)) : Fetching index name (start.run part) := by
  obtain ⟨during, rfl⟩ := since
  obtain ⟨rest, rfl⟩ := before
  have hfirst : ∃ stage, Assoc.find? index
      (start.run (began ++ [.step (.fetch index)])).fetches = some (name, stage) ∧ stage ≠ .start := by
    refine ⟨_, ?_, (start.run began).stepFetch_ne_start name .start⟩
    rw [run_append_singleton, happen, step_fetch first]
    dsimp only
    rw [Assoc.find?_set, if_pos rfl]
  obtain ⟨stage, hstage, hbegun⟩ :=
    onward_fetches.run (fun _ => stepFetch_ne_start _ name _) hfirst during
  rw [← run_append] at hstage
  cases stage with
  | start => exact absurd rfl hbegun
  | waiting caller => exact ⟨caller, hstage⟩
  | done outcome =>
      -- a fetch that has returned does nothing any more
      obtain ⟨_, hdone, rfl⟩ := onward_fetches.run (P := (· = .done outcome))
        (by rintro crowd _ rfl; rfl) ⟨_, hstage, rfl⟩ rest
      obtain ⟨caller, hwaiting⟩ := fetching
      rw [run_append, hdone] at hwaiting
      cases hwaiting

/-- The same of lookups. -/
theorem underWay_since {last : List Event}
    (first : Assoc.find? index (start.run began).lookups = some (name, .start))
    (since : began ++ [.step (.lookup index)] <+: part) (before : part <+: last)
    (under : UnderWay index name (start.run last)) : UnderWay index name (start.run part) := by
  obtain ⟨-, -, hbegun⟩ := after_lookup first
  obtain ⟨during, rfl⟩ := since
  obtain ⟨rest, rfl⟩ := before
  rw [run_append]
  refine underWay_between hbegun ?_ (List.prefix_append during rest)
  rwa [← run_append, ← List.append_assoc]

/-- A lookup began when the run by way of which its error came was waited for, and had come to wait
for the load. -/
theorem Vain.handedOn (vain : Vain start events part name loading) (idle : start.Idle)
    (looked : part ++ [.step (.loading loading)] <+: began) {asked : List Event} {making : Nat}
    (route : ByWayOf start events asked index name making loading)
    (asks : asked ++ [.step (.making making)] <+: began) (before : began <+: events)
    (led : (start.run (asked ++ [.step (.making making)])).resources.cache.slot? name
      = some (.pending loading))
    (pending : (start.run began).templates.cache.slot? name = some (.pending making)) :
    HandedOn start events part began asked index name making loading := by
  refine ⟨route, looked, asks, pending, fun prompt => ?_⟩
  have hasked := asks.trans before
  rcases prefix_or_prefix_of_ne hasked vain.looks nofun with hasks | hlooks
  · exact Nat.lt_of_lt_of_le route.launched (idle.sound.leads_of_prefix
      (prefix_of_followed hasks)).templates.nextFlight_le
  · -- the load had looked when the run asked for it
    have hpending := vain.pending idle.sound hlooks (List.prefix_append _ _) led
    exact absurd prompt (vain.not_prompt idle hlooks hasked nofun hpending)

/-! ## What was missing during a call, or before -/

/-- The load that a fetch was told by found nothing while the fetch was under way, or was left over
when the fetch began. -/
def FetchMisses (start : Crowd) (events : List Event) (index : Nat) (name : String) : Prop :=
  ∃ part began loading, Vain start events part name loading
    ∧ Assoc.find? index (start.run began).fetches = some (name, .start)
    ∧ FetchTold start events began index name loading
    ∧ (Fetching index name (start.run part) ∨ LeftOver start events part began name loading)

/-- The load by way of which the error of a lookup came found nothing while the lookup was under way,
or was left over when the lookup began, or handed on. -/
def LookupMisses (start : Crowd) (events : List Event) (index : Nat) (name : String) : Prop :=
  ∃ part asked making loading, Vain start events part name loading
    ∧ ByWayOf start events asked index name making loading
    ∧ (UnderWay index name (start.run part)
      ∨ ∃ began, began ++ [.step (.lookup index)] <+: events
          ∧ Assoc.find? index (start.run began).lookups = some (name, .start)
          ∧ (LeftOver start events part began name loading
            ∨ HandedOn start events part began asked index name making loading))

theorem fetchMisses_of_missing (idle : start.Idle) (unfetched : start.fetches = [])
    (discreet : start.workshop.Discreet)
    (h : Assoc.find? index (start.run events).fetches
      = some (name, .done (.error (.resourceNotFound name)))) :
    FetchMisses start events index name := by
  obtain ⟨began, loading, hbegan, htold⟩ := missing_fetch idle unfetched h
  obtain ⟨last, caller, hreturn, hwaiting, hwaits⟩ := id htold
  obtain ⟨part, hvain⟩ := vain_of_ended idle discreet hwaits.ended
  have hlast := prefix_of_followed hreturn
  refine ⟨part, began, loading, hvain.mono hlast, hbegan, htold, ?_⟩
  rcases prefix_or_prefix_of_ne hvain.looks hwaits.since nofun with hlooked | hafter
  · have hpending := hvain.pending idle.sound hlooked (List.prefix_append _ _) hwaits.pending
    exact .inr ⟨hlooked, hpending, (hvain.mono hlast).not_prompt idle hlooked
      (hwaits.since.trans hlast) nofun hpending⟩
  · have hpart := prefix_of_followed hvain.looks
    exact .inl (fetching_between hbegan hafter hpart ⟨caller, hwaiting⟩)

theorem lookupMisses_of_missing (idle : start.Idle) (discreet : start.workshop.Discreet)
    (h : Assoc.find? index (start.run events).lookups
      = some (name, .done (.error (.resourceNotFound name)))) :
    LookupMisses start events index name := by
  have sound := idle.sound
  obtain ⟨moment, making, hbegun, hlookup⟩ := missing_lookup idle discreet h
  obtain ⟨last, caller, stage, hreturn, hwaiting, hstages, hwaits⟩ := id hlookup
  have hlast := prefix_of_followed hreturn
  have hunder : UnderWay index name (start.run last) :=
    ⟨stage, hwaiting, by rcases hstages with rfl | rfl <;> simp,
      by rcases hstages with rfl | rfl <;> simp⟩
  obtain ⟨_, hfirst, hnot⟩ := hbegun
  obtain ⟨began, hbegan, hfirst⟩ := staged_lookups.began idle.lookups hfirst hnot
  -- the run for the template that the lookup waited for had been told by a load
  obtain ⟨ending, hending, hfinish⟩ := making_of_ended idle hwaits.ended
  obtain ⟨asked, loading, hlaunched, hmaking⟩ := missing_making idle discreet hfinish
  obtain ⟨told, maker, making_stage, hpasses, hstage, hmakings, hled⟩ := id hmaking
  obtain ⟨part, hloaded⟩ := vain_of_ended idle discreet hled.ended
  have htold := prefix_of_followed hpasses
  have hlasts := htold.trans (hending.trans hlast)
  have hvain := hloaded.mono hlasts
  have hroute : ByWayOf start events asked index name making loading :=
    ⟨hlaunched, ⟨told, maker, making_stage, hpasses.trans (hending.trans hlast), hstage, hmakings,
      hled⟩, moment, hlookup⟩
  have hbegan' := hbegan.trans (hwaits.since.trans hlast)
  refine ⟨part, asked, making, loading, hvain, hroute, ?_⟩
  rcases prefix_or_prefix_of_ne hvain.looks hbegan' nofun with hlooked | hafter
  · refine .inr ⟨began, hbegan', hfirst, ?_⟩
    have hbefore := prefix_of_followed hbegan
    rcases prefix_or_prefix_of_ne (hled.since.trans hlasts) hbegan' nofun with hearlier | hlater
    · -- the run for the template had asked when the lookup began, and was still waited for
      have hpending := (sound.leads_of_prefix hbefore).templates.pending
        (sound.run began).templates (Nat.lt_of_lt_of_le hlaunched (sound.leads_of_prefix
          (prefix_of_followed hearlier)).templates.nextFlight_le) hwaits.pending
      exact .inr (hvain.handedOn idle hlooked hroute hearlier (prefix_of_followed hbegan')
        hled.pending hpending)
    · -- the run for the template asked later, and was led to a load that had looked by then
      have hsince : began <+: asked ++ [.step (.making making)] :=
        (prefix_of_followed hlater).trans (List.prefix_append _ _)
      have hpending := hvain.pending sound hlooked hsince hled.pending
      exact .inl ⟨hlooked, hpending, hvain.not_prompt idle hlooked hbegan' nofun hpending⟩
  · have hpart := prefix_of_followed hloaded.looks
    exact .inl (underWay_since hfirst hafter (hpart.trans (htold.trans hending)) hunder)

/-- In a crowd that began idle and whose engine alone reports that sources are missing, whatever
happened: a fetch or a lookup that has reported a source missing was told so by a run that it had
come to wait for, a fetch by a load, and a lookup by a run for the template that had been told so by
a load that it had come to wait for. That load looked for the source at a moment when it was not
there. At that moment the call had taken its first step and had not returned, or else a run by way of
which the error came was waited for when the call began: for a fetch, the load itself, which cannot
be where loads end as soon as they have looked; for a lookup, that or the run for the template. -/
theorem absent_within_call {start : Crowd} (idle : start.Idle) (unfetched : start.fetches = [])
    (discreet : start.workshop.Discreet) (events : List Event) {index : Nat} {name : String} :
    (Assoc.find? index (start.run events).fetches
        = some (name, .done (.error (.resourceNotFound name))) →
      FetchMisses start events index name)
    ∧ (Assoc.find? index (start.run events).lookups
        = some (name, .done (.error (.resourceNotFound name))) →
      LookupMisses start events index name) :=
  ⟨fetchMisses_of_missing idle unfetched discreet, lookupMisses_of_missing idle discreet⟩

/-- So it is with every engine as it is built. -/
theorem misses_of_build {blueprint : Blueprint} {providers : List Provider} {number : Nat}
    {world now : World} {engine : Engine}
    (built : blueprint.build providers number world = .ok engine)
    (compiler : blueprint.compiler = Compiler.ofSymbols) (events : List Event) {index : Nat}
    {name : String} :
    let start := ofCaches engine.workshop now engine.caches
    (Assoc.find? index (start.run events).fetches
        = some (name, .done (.error (.resourceNotFound name))) →
      FetchMisses start events index name)
    ∧ (Assoc.find? index (start.run events).lookups
        = some (name, .done (.error (.resourceNotFound name))) →
      LookupMisses start events index name) :=
  have idle := idle_of_build built now
  have discreet := Engine.discreet_of_build built compiler
  ⟨fetchMisses_of_missing idle rfl discreet, lookupMisses_of_missing idle discreet⟩

/-! ## Calls that come late -/

/-- A lookup and a fetch find that there is no source. Then one is put into the store, and another
lookup begins before the run for the template has passed the error on. -/
def lateLookup : List Event :=
  [.lookup 0 "/n", .fetch 0 "/n"]
    ++ [.lookup 0, .making 0, .fetch 0, .loading 0, .loading 0, .loading 0, .fetch 0].map .step
    ++ [put "n" "here", .lookup 1 "/n"]
    ++ [.lookup 1, .making 0, .making 0, .making 0, .lookup 1].map .step

/-- A load finds that there is no source. Then one is put into the store, and another fetch begins
before the load has ended. -/
def lateFetch : List Event :=
  [.fetch 0 "/n"] ++ [.fetch 0, .loading 0].map .step
    ++ [put "n" "here", .fetch 1 "/n"] ++ [.fetch 1, .loading 0, .loading 0, .fetch 1].map .step

theorem prompt_lateLookup : Prompt overStore lateLookup := by
  rintro part flight name event hstage ⟨rest, hrest⟩
  have hlooks : lateLookup[part.length]? = some (.step (.loading flight)) := by
    rw [← hrest]
    simp
  have hnext : lateLookup[part.length + 1]? = some event := by
    rw [← hrest]
    simp
  have hpart : part = lateLookup.take part.length := by
    rw [← hrest]
    simp
  generalize part.length = moment at hlooks hnext hpart
  have hmoment : moment < 16 := (List.getElem?_eq_some_iff.1 hlooks).1
  subst hpart
  interval_cases moment <;> cases hlooks
  · cases hnext
    rfl
  · cases hstage
  · cases hstage

/-- A lookup reports a source missing that was there from before the lookup began, although loads end
as soon as they have looked. A fetch may do so where they do not. -/
theorem present_throughout_late :
    Prompt overStore lateLookup
    ∧ Assoc.find? 1 (overStore.run lateLookup).lookups
      = some ("/n", .done (.error (.resourceNotFound "/n")))
    ∧ (∀ part, part <+: lateLookup →
        (Assoc.find? 1 (overStore.run part).lookups).isSome = true →
          overStore.workshop.source.load (overStore.run part).world "/n" ≠ .ok none)
    ∧ Assoc.find? 1 (overStore.run lateFetch).fetches
      = some ("/n", .done (.error (.resourceNotFound "/n")))
    ∧ ∀ part, part <+: lateFetch →
        (Assoc.find? 1 (overStore.run part).fetches).isSome = true →
          overStore.workshop.source.load (overStore.run part).world "/n" ≠ .ok none := by
  refine ⟨prompt_lateLookup, by rfl, ?_, by rfl, ?_⟩
  · exact forall_prefix_of_take (fun crowd => (Assoc.find? 1 crowd.lookups).isSome = true →
      overStore.workshop.source.load crowd.world "/n" ≠ .ok none) (by decide +kernel)
  · exact forall_prefix_of_take (fun crowd => (Assoc.find? 1 crowd.fetches).isSome = true →
      overStore.workshop.source.load crowd.world "/n" ≠ .ok none) (by decide +kernel)

theorem discreet_overStore : overStore.workshop.Discreet where
  leaves world name := ⟨Loader.load_ne_resourceNotFound world name name (.memory 0), nofun⟩
  marks world name := Loader.fingerprint_ne_resourceNotFound world name name (.memory 0)

theorem absent_of_lateLookup :
    (Assoc.find? 0 (overStore.run lateLookup).fetches
        = some ("/n", .done (.error (.resourceNotFound "/n")))
      ∧ FetchMisses overStore lateLookup 0 "/n")
    ∧ Assoc.find? 1 (overStore.run lateLookup).lookups
        = some ("/n", .done (.error (.resourceNotFound "/n")))
      ∧ LookupMisses overStore lateLookup 1 "/n" := by
  have fetched : Assoc.find? 0 (overStore.run lateLookup).fetches
      = some ("/n", .done (.error (.resourceNotFound "/n"))) := by rfl
  have looked : Assoc.find? 1 (overStore.run lateLookup).lookups
      = some ("/n", .done (.error (.resourceNotFound "/n"))) := by rfl
  have idle : overStore.Idle := idle_ofCaches _ _ _ _
  exact ⟨⟨fetched, (absent_within_call idle rfl discreet_overStore lateLookup).1 fetched⟩,
    looked, (absent_within_call idle rfl discreet_overStore lateLookup).2 looked⟩

end Crowd

end LiveTemplates
