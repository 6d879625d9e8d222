import LiveTemplates.Proofs.Crowd.Makings

set_option autoImplicit false

/-! # Where lookups have their templates from

A lookup asks for a template, compares its mark with that of the source and asks once more if they
differ. What it returns in the end is a template whose mark it has just been told, or one that was
given by a run launched after the lookup began (`Backed`): if someone else was quicker to take the
old template out, the run that the lookup joins was still launched after that. -/

namespace LiveTemplates

namespace Crowd

variable {start : Crowd} {part events : List Event} {index : Nat} {name : String}

/-- A lookup has taken its first step. -/
def Begun (index : Nat) (name : String) (crowd : Crowd) : Prop :=
  ∃ stage, Assoc.find? index crowd.lookups = some (name, stage) ∧ stage ≠ .start

/-- A lookup has taken its first step, and has not returned. -/
def UnderWay (index : Nat) (name : String) (crowd : Crowd) : Prop :=
  ∃ stage, Assoc.find? index crowd.lookups = some (name, stage) ∧ stage ≠ .start
    ∧ ∀ outcome, stage ≠ .done outcome

/-! ## From the beginning to the return -/

/-- No step leads back to the beginning. -/
theorem stepLookup_ne_start (crowd : Crowd) (name : String) (stage : LookupStage) :
    (crowd.stepLookup name stage).2 ≠ .start := by
  have hturn := crowd.lookupTurn name stage
  generalize (crowd.stepLookup name stage).2 = next at hturn
  cases hturn with
  | finds _ hnext => rcases hnext with rfl | rfl <;> nofun
  | asks _ _ hnext => rcases hnext with rfl | rfl <;> nofun
  | waits hstage => rcases hstage with rfl | rfl <;> nofun
  | _ => nofun

theorem Begun.run {crowd : Crowd} (begun : Begun index name crowd) (events : List Event) :
    Begun index name (crowd.run events) :=
  onward_lookups.run (fun _ => stepLookup_ne_start _ name _) begun events

/-- Between two moments at which a lookup had begun and had not returned it was under way. -/
theorem underWay_between {crowd : Crowd} (begun : Begun index name crowd)
    (under : UnderWay index name (crowd.run events)) (h : part <+: events) :
    UnderWay index name (crowd.run part) := by
  obtain ⟨stage, hstage, hbegun⟩ := begun.run part
  refine ⟨stage, hstage, hbegun, ?_⟩
  rintro outcome rfl
  -- a lookup that has returned does nothing any more
  have hstays := onward_lookups.run (P := (· = .done outcome))
    (by rintro crowd _ rfl; rfl) ⟨_, hstage, rfl⟩
  obtain ⟨rest, rfl⟩ := h
  obtain ⟨_, hdone, rfl⟩ := hstays rest
  obtain ⟨later, hlater, -, hunder⟩ := under
  rw [run_append, hdone] at hlater
  cases hlater
  exact hunder outcome rfl

/-! ## Asking for a template -/

/-- At some moment after a lookup began, no other run than one had the entry of its template. -/
def Pinned (start : Crowd) (events : List Event) (index : Nat) (name : String) (flight : Nat) :
    Prop :=
  Once start events fun crowd => Begun index name crowd
    ∧ crowd.templates.cache.Sole name flight

/-- At some moment after a lookup began, a run was still to be launched. -/
def Awaited (start : Crowd) (events : List Event) (index : Nat) (name : String) (flight : Nat) :
    Prop :=
  Once start events fun crowd => Begun index name crowd
    ∧ crowd.templates.cache.nextFlight ≤ flight

/-- A lookup that had a template was told a mark. -/
def Told (start : Crowd) (events : List Event) (index : Nat) (name : String)
    (template : LiveTemplate) (current : Option Fingerprint) : Prop :=
  Once start events fun crowd => Assoc.find? index crowd.lookups = some (name, .probe template)
    ∧ crowd.workshop.source.fingerprint crowd.world name = .ok current

/-- A lookup that had a template was told a mark, and not the one that the template bears. -/
def Stale (start : Crowd) (events : List Event) (index : Nat) (name : String)
    (template : LiveTemplate) : Prop :=
  ∃ current, Told start events index name template current
    ∧ Caches.isCurrent current template = false

/-- A lookup was about to return a template: one whose mark it had been told, or one that was given
by a run launched after the lookup began. -/
def Returns (start : Crowd) (part : List Event) (index : Nat) (name : String)
    (template : LiveTemplate) : Prop :=
  UnderWay index name (start.run part)
    ∧ ∃ flight, (start.run part).templateSide.Gave name flight template
      ∧ (Told start part index name template template.fingerprint
        ∨ Awaited start part index name flight)

/-- Where a lookup has its template from, or will have it from. -/
def Backed (start : Crowd) (events : List Event) (index : Nat) (name : String) :
    LookupStage → Prop
  | .first caller => ∃ flight, caller < (start.run events).nextCaller
      ∧ (start.run events).templateSide.Asked caller name flight
      ∧ Pinned start events index name flight
  | .probe template => ∃ flight, (start.run events).templateSide.Gave name flight template
      ∧ Pinned start events index name flight
  | .judge template current =>
      ∃ flight, (start.run events).templateSide.Gave name flight template
        ∧ Pinned start events index name flight
        ∧ Told start events index name template current
  | .evict template => ∃ flight, (start.run events).templateSide.Gave name flight template
      ∧ Pinned start events index name flight
      ∧ Stale start events index name template
  | .remove template => ∃ flight, (start.run events).templateSide.Gave name flight template
      ∧ Pinned start events index name flight
      ∧ Stale start events index name template
  | .again => ∃ template flight, (start.run events).templateSide.Gave name flight template
      ∧ Pinned start events index name flight
      ∧ (start.run events).templates.cache.belongs name flight = false
  | .second caller => ∃ flight, caller < (start.run events).nextCaller
      ∧ (start.run events).templateSide.Asked caller name flight
      ∧ Awaited start events index name flight
  | .done (.ok template) => ∃ part, part <+: events ∧ Returns start part index name template
  | _ => True

/-- An event of others changes nothing about that. -/
theorem Backed.snoc (sound : start.Sound) {stage : LookupStage}
    (backed : Backed start events index name stage) (event : Event) :
    Backed start (events ++ [event]) index name stage := by
  have hsound := sound.run events
  have hleads := hsound.leads_happen event
  rw [← run_append_singleton] at hleads
  cases stage with
  | start => trivial
  | first caller =>
      obtain ⟨flight, hcaller, hasked, hpinned⟩ := backed
      exact ⟨flight, Nat.lt_of_lt_of_le hcaller hleads.nextCaller_le,
        hleads.templates.asked hsound.templates hcaller hasked, hpinned.snoc event⟩
  | probe template =>
      obtain ⟨flight, hgave, hpinned⟩ := backed
      exact ⟨flight, hleads.templates.gave hsound.templates hgave, hpinned.snoc event⟩
  | judge template current =>
      obtain ⟨flight, hgave, hpinned, htold⟩ := backed
      exact ⟨flight, hleads.templates.gave hsound.templates hgave, hpinned.snoc event,
        htold.snoc event⟩
  | evict template =>
      obtain ⟨flight, hgave, hpinned, current, htold, hstale⟩ := backed
      exact ⟨flight, hleads.templates.gave hsound.templates hgave, hpinned.snoc event,
        current, htold.snoc event, hstale⟩
  | remove template =>
      obtain ⟨flight, hgave, hpinned, current, htold, hstale⟩ := backed
      exact ⟨flight, hleads.templates.gave hsound.templates hgave, hpinned.snoc event,
        current, htold.snoc event, hstale⟩
  | again =>
      obtain ⟨template, flight, hgave, hpinned, hgone⟩ := backed
      refine ⟨template, flight, hleads.templates.gave hsound.templates hgave, hpinned.snoc event, ?_⟩
      exact hleads.templates.gone (hsound.templates.ledger.launch_new hgave.named) hgone
  | second caller =>
      obtain ⟨flight, hcaller, hasked, hawaited⟩ := backed
      exact ⟨flight, Nat.lt_of_lt_of_le hcaller hleads.nextCaller_le,
        hleads.templates.asked hsound.templates hcaller hasked, hawaited.snoc event⟩
  | done outcome =>
      cases outcome with
      | error e => trivial
      | ok template =>
          obtain ⟨part, hpart, hreturns⟩ := backed
          exact ⟨part, hpart.trans (List.prefix_append _ _), hreturns⟩

/-- What has to do with templates after a lookup has taken a step. -/
theorem after_lookup {stage : LookupStage}
    (h : Assoc.find? index (start.run events).lookups = some (name, stage)) :
    (start.run (events ++ [.step (.lookup index)])).templateSide
        = ((start.run events).stepLookup name stage).1.templateSide
      ∧ (start.run (events ++ [.step (.lookup index)])).nextCaller
        = ((start.run events).stepLookup name stage).1.nextCaller
      ∧ Begun index name (start.run (events ++ [.step (.lookup index)])) := by
  rw [run_append_singleton, happen, step_lookup h]
  refine ⟨rfl, rfl, _, ?_, (start.run events).stepLookup_ne_start name stage⟩
  dsimp only
  rw [Assoc.find?_set, if_pos rfl]

theorem withTemplate_of_reloadable {crowd : Crowd} (reloadable : crowd.workshop.reloadable = true)
    (template : LiveTemplate) : crowd.withTemplate template = .probe template :=
  if_pos reloadable

/-- What a run gave and is not in the cache any more is not in the entry of that run. -/
theorem Sound.not_belongs_of_missing {crowd : Crowd} (sound : crowd.Sound) {flight : Nat}
    {template : LiveTemplate} (gave : crowd.templateSide.Gave name flight template)
    (missing : crowd.caches.has name template = false) :
    crowd.templates.cache.belongs name flight = false := by
  rw [Bool.eq_false_iff]
  intro hbelongs
  have hpeek : crowd.caches.templates.peek name = some template :=
    sound.templates.ledger.peek_of_belongs gave.outcome hbelongs
  rw [Caches.has, hpeek, Option.any_some, template.isSame_self] at missing
  cases missing

theorem slot?_without (crowd : Crowd) (name other : String) :
    (crowd.without name).templates.cache.slot? other
      = if other = name then none else crowd.templates.cache.slot? other :=
  SingleFlight.slot?_invalidate crowd.templates.cache name other

theorem not_belongs_without (crowd : Crowd) (name : String) (flight : Nat) :
    (crowd.without name).templates.cache.belongs name flight = false := by
  rw [SingleFlight.belongs, slot?_without, if_pos rfl]

/-- Where the template that a run gave is gone, whoever asks is led to a run that was launched after
the lookup began. -/
theorem Pinned.awaited (sound : start.Sound) {flight : Nat}
    (pinned : Pinned start events index name flight)
    (gone : (start.run events).templates.cache.belongs name flight = false) :
    Awaited start events index name ((start.run events).templates.cache.flightOf name) := by
  obtain ⟨part, hpart, hbegun, hsole⟩ := pinned
  exact ⟨part, hpart, hbegun, (sound.leads_of_prefix hpart).templates.le_flightOf hsole gone⟩

/-- The stage after a receipt: the one before if nothing is received, or else what the run comes to
that the caller was led to. -/
theorem Sound.received_template {crowd : Crowd} (sound : crowd.Sound) {caller flight : Nat}
    (asked : crowd.templateSide.Asked caller name flight) (next : LiveTemplate → LookupStage)
    {stay stage : LookupStage}
    (h : (match (crowd.templates.receive caller).answer? caller with
      | some answer => toldTemplate name next answer
      | none => stay) = stage) :
    stage = stay
      ∨ (∃ e ending, stage = .done (.error e) ∧ crowd.templateSide.Ended name flight ending
          ∧ ending.outcome name = .error e)
      ∨ ∃ template, stage = next template ∧ crowd.templateSide.Gave name flight template := by
  subst h
  cases hanswer : (crowd.templates.receive caller).answer? caller with
  | none => exact .inl rfl
  | some answer =>
      obtain ⟨ending, rfl, hended⟩ := asked.told sound.templates hanswer
      cases ending with
      | value template => exact .inr (.inr ⟨template, rfl, hended.gave⟩)
      | error e => exact .inr (.inl ⟨e, _, rfl, hended, rfl⟩)
      | broken explanation => exact .inr (.inl ⟨_, _, rfl, hended, rfl⟩)

/-- To return what is told is to return the template that is told, or the error. -/
theorem toldTemplate_done (name : String) (answer : Answer LiveTemplate TemplateError) :
    toldTemplate name (fun template => .done (.ok template)) answer
      = .done (answer.outcome name) := by
  unfold toldTemplate
  cases answer.outcome name <;> rfl

/-- A step of the lookup itself goes on from there. -/
theorem Backed.step (sound : start.Sound) (reloadable : start.workshop.reloadable = true)
    {stage : LookupStage} (h : Assoc.find? index (start.run events).lookups = some (name, stage))
    (backed : Backed start events index name stage) :
    Backed start (events ++ [.step (.lookup index)]) index name
      ((start.run events).stepLookup name stage).2 := by
  have hsound := sound.run events
  have hreloadable : (start.run events).workshop.reloadable = true := by
    rw [sound.workshop_run, reloadable]
  obtain ⟨hside, hcaller, hbegun⟩ := after_lookup h
  have hleads := hsound.leads_happen (.step (.lookup index))
  rw [← run_append_singleton] at hleads
  have hstays := backed.snoc sound (.step (.lookup index))
  have hbefore := List.prefix_append events [Event.step (.lookup index)]
  cases stage with
  | start =>
      rw [stepLookup_start] at hside hcaller ⊢
      -- once it has asked, no other run has the entry than the one that it is led to
      have hpinned : Pinned start (events ++ [.step (.lookup index)]) index name
          ((start.run events).templates.cache.flightOf name) :=
        once_now ⟨hbegun, (congrArg (fun side => side.traffic.cache) hside).symm ▸
          hsound.sole_askTemplate name⟩
      cases hfound : ((start.run events).templates.cache.lookup name).2.value? with
      | some template =>
          dsimp only
          rw [withTemplate_of_reloadable hreloadable]
          exact ⟨_, hside ▸ hsound.gave_askTemplate hfound, hpinned⟩
      | none =>
          refine ⟨_, ?_, hside ▸ hsound.asked_askTemplate hfound, hpinned⟩
          rw [hcaller, nextCaller_askTemplate]
          exact Nat.lt_succ_self _
  | first caller =>
      obtain ⟨flight, -, hasked, hpinned⟩ := backed
      generalize hnext : ((start.run events).stepLookup name (.first caller)).2 = next
      rw [stepLookup_first] at hnext
      rcases hsound.received_template hasked _ hnext with rfl | ⟨e, _, rfl, -⟩ | ⟨template, rfl, hgave⟩
      · exact hstays
      · trivial
      · rw [withTemplate_of_reloadable hreloadable]
        exact ⟨flight, hleads.templates.gave hsound.templates hgave, hpinned.snoc _⟩
  | probe template =>
      obtain ⟨flight, hgave, hpinned⟩ := hstays
      simp only [stepLookup]
      cases hmark : (start.run events).workshop.source.fingerprint (start.run events).world name with
      | error e => trivial
      | ok current => exact ⟨flight, hgave, hpinned, .snoc (once_now ⟨h, hmark⟩) _⟩
  | judge template current =>
      have hunder : UnderWay index name (start.run events) := ⟨_, h, by simp, by simp⟩
      obtain ⟨flight, hgave, hpinned, htold⟩ := backed
      cases hcurrent : Caches.isCurrent current template with
      | true =>
          -- the mark that it was told is that of the template
          obtain ⟨mark, rfl, hmark⟩ := (Caches.isCurrent_iff _ _).1 hcurrent
          rw [stepLookup, if_pos hcurrent]
          exact ⟨events, hbefore, hunder, flight, hgave, .inl (hmark ▸ htold)⟩
      | false =>
          rw [stepLookup, if_neg (by simp [hcurrent])]
          exact ⟨flight, hleads.templates.gave hsound.templates hgave, hpinned.snoc _, current,
            htold.snoc _, hcurrent⟩
  | evict template =>
      obtain ⟨flight, hgave, hpinned, -⟩ := backed
      simp only [stepLookup] at hside ⊢
      split
      · exact hstays
      · next hopened =>
          rw [if_neg hopened] at hside
          split
          · exact hstays
          · next hmissing =>
              rw [if_neg hmissing] at hside
              refine ⟨template, flight, hleads.templates.gave hsound.templates hgave,
                hpinned.snoc _, ?_⟩
              exact (congrArg (fun side => side.traffic.cache) hside).symm ▸
                hsound.not_belongs_of_missing hgave (by simpa using hmissing)
  | remove template =>
      obtain ⟨flight, hgave, hpinned, -⟩ := backed
      refine ⟨template, flight, hleads.templates.gave hsound.templates hgave, hpinned.snoc _, ?_⟩
      exact (congrArg (fun side => side.traffic.cache) hside).symm ▸
        (start.run events).not_belongs_without name flight
  | again =>
      have hunder : UnderWay index name (start.run events) := ⟨_, h, by simp, by simp⟩
      obtain ⟨_, flight, -, hpinned, hgone⟩ := backed
      rw [stepLookup_again] at hside hcaller ⊢
      -- whoever took the template out, the run that has the entry now is a later one
      have hawaited := hpinned.awaited sound hgone
      cases hfound : ((start.run events).templates.cache.lookup name).2.value? with
      | some found =>
          exact ⟨events, hbefore, hunder, _, hsound.templates.gave hfound, .inr hawaited⟩
      | none =>
          refine ⟨_, ?_, hside ▸ hsound.asked_askTemplate hfound, hawaited.snoc _⟩
          rw [hcaller, nextCaller_askTemplate]
          exact Nat.lt_succ_self _
  | second caller =>
      have hunder : UnderWay index name (start.run events) := ⟨_, h, by simp, by simp⟩
      obtain ⟨flight, -, hasked, hawaited⟩ := backed
      generalize hnext : ((start.run events).stepLookup name (.second caller)).2 = next
      rw [stepLookup_second] at hnext
      simp only [← toldTemplate_done] at hnext
      rcases hsound.received_template hasked _ hnext with rfl | ⟨e, _, rfl, -⟩ | ⟨template, rfl, hgave⟩
      · exact hstays
      · trivial
      · exact ⟨events, hbefore, hunder, flight, hgave, .inr hawaited⟩
  | done outcome => exact hstays

/-- At every moment, a lookup has its template from where it should. -/
theorem backed (idle : start.Idle) (reloadable : start.workshop.reloadable = true)
    {stage : LookupStage} (h : Assoc.find? index (start.run events).lookups = some (name, stage)) :
    Backed start events index name stage := by
  induction events using List.reverseRecOn generalizing stage with
  | nil =>
      rw [run, List.foldl_nil, idle.lookups] at h
      cases h
  | append_singleton events event ih =>
      rw [run_append_singleton] at h
      rcases lookup_of_happen h with h | rfl | ⟨earlier, rfl, hstage, rfl⟩
      · exact (ih h).snoc idle.sound event
      · trivial
      · exact (ih hstage).step idle.sound reloadable hstage

end Crowd

end LiveTemplates
