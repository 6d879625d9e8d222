import LiveTemplates.Proofs.Engine.Lookup
import LiveTemplates.Proofs.Loader.Faithful

set_option autoImplicit false

/-! # Templates as they would be without caches

Without caches a template is made afresh each time: its source is loaded and compiled
(`Workshop.afresh`). Where sources may change, a lookup that goes through the caches goes by marks
(`Workshop.GoesByMark`): whatever is in the caches was once served by the loader (`Caches.Sound`), and
an entry that does not bear the mark of its source is taken out. So where the loader tells when sources
change, what bears the mark of its source has its text, and a lookup comes to the same as without
caches (`Workshop.GoesByMark.afresh`). -/

namespace LiveTemplates

/-- What can be seen of a template: the mark of its source, and its output on data. -/
structure Sight where
  fingerprint : Option Fingerprint
  render : Json → Except TemplateError String

/-- A template as it is seen. -/
def LiveTemplate.sight (template : LiveTemplate) : Sight :=
  { fingerprint := template.fingerprint, render := template.render }

namespace Workshop

/-- What compiling a resource comes to. -/
def compiled (workshop : Workshop) (name : String) (resource : Resource) :
    Except TemplateError Sight :=
  match workshop.compiler name resource.content with
  | .program program =>
    .ok
      { fingerprint := some resource.fingerprint
        render := fun data => (program data).mapError (.render name) }
  | .rejected e => .error e
  | .broken explanation => .error (.producerAborted name (some explanation))

/-- The template of a name without caches: what its source has now is loaded and compiled. -/
def afresh (workshop : Workshop) (world : World) (name : String) : Except TemplateError Sight :=
  match workshop.source.load world name with
  | .ok (some resource) => workshop.compiled name resource
  | .ok none => .error (.resourceNotFound name)
  | .error e => .error e

variable {workshop : Workshop} {world : World} {name : String}

theorem produceResource_eq_ok_iff {resource : Resource} :
    workshop.produceResource world name = .ok resource
      ↔ workshop.source.load world name = .ok (some resource) := by
  unfold produceResource
  rcases workshop.source.load world name with e | found
  · simp
  · cases found <;> simp

theorem load_of_toOption {resource : Resource}
    (h : (workshop.produceResource world name).toOption = some resource) :
    workshop.source.load world name = .ok (some resource) := by
  rw [← produceResource_eq_ok_iff]
  cases hload : workshop.produceResource world name with
  | error e => simp [hload, Except.toOption] at h
  | ok loaded => simpa [hload, Except.toOption] using h

/-- A resource that is at hand is the cached one or is loaded now. -/
theorem cases_of_atHand {cached : Option Resource} {resource : Resource}
    (h : (workshop.atHand world name cached).toOption = some resource) :
    cached = some resource ∨ workshop.source.load world name = .ok (some resource) := by
  cases cached with
  | some held => exact .inl h
  | none => exact .inr (load_of_toOption h)

theorem produceResource_of_load_error {e : TemplateError}
    (h : workshop.source.load world name = .error e) :
    workshop.produceResource world name = .error e := by
  unfold produceResource
  rw [h]

theorem afresh_of_produceResource_error {e : TemplateError} :
    workshop.produceResource world name = .error e → workshop.afresh world name = .error e := by
  unfold produceResource afresh
  cases workshop.source.load world name with
  | error fault =>
      intro h
      cases h
      rfl
  | ok found =>
      intro h
      cases found with
      | none =>
          cases h
          rfl
      | some resource => cases h

theorem afresh_of_load {resource : Resource}
    (h : workshop.source.load world name = .ok (some resource)) :
    workshop.afresh world name = workshop.compiled name resource := by
  unfold afresh
  rw [h]

/-- Compiling goes by the mark and the text. -/
theorem compiled_congr {first second : Resource} (hmark : first.fingerprint = second.fingerprint)
    (htext : first.content = second.content) :
    workshop.compiled name first = workshop.compiled name second := by
  unfold compiled
  rw [hmark, htext]

/-- Neither the loader nor the compiler says on its own that there is no resource of a name. -/
structure LeavesMissing (workshop : Workshop) (world : World) (name : String) : Prop where
  loader : workshop.source.load world name ≠ .error (.resourceNotFound name)
  compiler : ∀ text, workshop.compiler name text ≠ .rejected (.resourceNotFound name)

theorem afresh_eq_resourceNotFound_iff (leaves : workshop.LeavesMissing world name) :
    workshop.afresh world name = .error (.resourceNotFound name)
      ↔ workshop.source.load world name = .ok none := by
  constructor
  · intro h
    unfold afresh at h
    split at h
    · next resource hload =>
        unfold compiled at h
        split at h
        · cases h
        · next hrejected =>
            cases h
            exact absurd hrejected (leaves.compiler _)
        · cases h
    · next hload => exact hload
    · next hload =>
        cases h
        exact absurd hload leaves.loader
  · intro h
    unfold afresh
    rw [h]

/-- What is compiled bears the mark of its resource. -/
theorem fingerprint_of_compiled {resource : Resource} {sight : Sight}
    (h : workshop.compiled name resource = .ok sight) :
    sight.fingerprint = some resource.fingerprint := by
  unfold compiled at h
  split at h
  · cases h
    rfl
  · cases h
  · cases h

/-- A template that is made afresh bears the mark that the loader tells. -/
theorem fingerprint_of_afresh {sight : Sight} (agrees : workshop.source.Agrees world)
    (h : workshop.afresh world name = .ok sight) :
    ∃ mark, sight.fingerprint = some mark
      ∧ workshop.source.fingerprint world name = .ok (some mark) := by
  unfold afresh at h
  split at h
  · next resource hload =>
      exact ⟨resource.fingerprint, fingerprint_of_compiled h, agrees.marked hload⟩
  · cases h
  · cases h

/-! ## Going by marks -/

/-- An outcome is what it would be without caches, or it comes of something that was served before
under the mark that the source has now. -/
def GoesByMark (workshop : Workshop) (past : List World) (world : World) (name : String)
    (outcome : Except TemplateError Sight) : Prop :=
  outcome = workshop.afresh world name
    ∨ ∃ resource, workshop.source.Served past name resource
        ∧ workshop.source.fingerprint world name = .ok (some resource.fingerprint)
        ∧ outcome = workshop.compiled name resource

variable {past : List World} {outcome : Except TemplateError Sight}

/-- Where a mark vouches for the text, going by marks is as good as having no caches. -/
theorem GoesByMark.afresh (goes : workshop.GoesByMark past world name outcome)
    (agrees : workshop.source.Agrees world)
    (vouches : ∀ {resource}, workshop.source.Served past name resource →
      workshop.source.Vouches world name resource) :
    outcome = workshop.afresh world name := by
  obtain hafresh | ⟨resource, served, hmark, rfl⟩ := goes
  · exact hafresh
  · obtain ⟨current, hload, htext⟩ := vouches served hmark
    have hsame := agrees.marked hload
    rw [hmark] at hsame
    rw [afresh_of_load hload]
    exact compiled_congr (by simpa using hsame) htext.symm

theorem GoesByMark.fingerprint {sight : Sight}
    (goes : workshop.GoesByMark past world name (.ok sight))
    (agrees : workshop.source.Agrees world) :
    ∃ mark, sight.fingerprint = some mark
      ∧ workshop.source.fingerprint world name = .ok (some mark) := by
  obtain hafresh | ⟨resource, -, hmark, hcompiled⟩ := goes
  · exact fingerprint_of_afresh agrees hafresh.symm
  · exact ⟨resource.fingerprint, fingerprint_of_compiled hcompiled.symm, hmark⟩

end Workshop

variable {workshop : Workshop} {world : World} {name : String}

theorem LiveTemplate.MadeFrom.sight_eq {template : LiveTemplate} {resource : Resource}
    (made : template.MadeFrom workshop name resource) :
    workshop.compiled name resource = .ok template.sight := by
  unfold Workshop.compiled LiveTemplate.sight LiveTemplate.render ExecutableUnit.run
  rw [made.compiled, made.fingerprint_eq, made.unit_name]

/-! ## Making a template -/

/-- A resource that is not to be had could not be loaded now either. -/
theorem Fetched.load_of_error {cached kept : Option Resource} {e : TemplateError}
    (fetched : Fetched workshop world name cached kept (.error e))
    (agrees : workshop.source.Agrees world) : workshop.produceResource world name = .error e := by
  generalize houtcome : Except.error e = outcome at fetched
  cases fetched with
  | missing outcome =>
      cases houtcome
      cases cached with
      | none => exact outcome
      | some resource => cases outcome
  | current => cases houtcome
  | unmarked outcome reloadable mark =>
      cases houtcome
      exact Workshop.produceResource_of_load_error (agrees.unmarked mark)
  | reloaded => rfl

/-- Where sources may change, a resource that is taken has been loaded now, or it was cached and bears
the mark that its source has now. -/
theorem Fetched.cases_of_ok {cached kept : Option Resource} {resource : Resource}
    (fetched : Fetched workshop world name cached kept (.ok resource))
    (reloadable : workshop.reloadable = true) :
    workshop.source.load world name = .ok (some resource)
      ∨ cached = some resource
        ∧ workshop.source.fingerprint world name = .ok (some resource.fingerprint) := by
  generalize houtcome : Except.ok resource = outcome at fetched
  cases fetched with
  | missing => cases houtcome
  | current outcome fresh =>
      cases houtcome
      obtain hcached | hload := Workshop.cases_of_atHand (by rw [outcome]; rfl)
      · exact .inr ⟨hcached, fresh reloadable⟩
      · exact .inl hload
  | unmarked => cases houtcome
  | reloaded => exact .inl (Workshop.produceResource_eq_ok_iff.1 houtcome.symm)

/-- Making a template comes to the failure to take a resource, or to what compiling the one that is
taken comes to. -/
theorem Produced.cases_of_fetched {folder : Option String} {after : World}
    {cached kept : Option Resource} {ending : Ending LiveTemplate TemplateError}
    (produced : Produced workshop folder world name cached kept after ending) :
    (∃ held e, Fetched workshop world name cached held (.error e)
        ∧ (ending.outcome name).map LiveTemplate.sight = .error e)
      ∨ ∃ resource, Fetched workshop world name cached (some resource) (.ok resource)
        ∧ (ending.outcome name).map LiveTemplate.sight = workshop.compiled name resource := by
  cases produced with
  | unfetched fetched => exact .inl ⟨_, _, fetched, rfl⟩
  | made fetched made copies =>
      refine .inr ⟨_, fetched, ?_⟩
      rw [made.sight_eq]
      rfl
  | rejected fetched fault =>
      refine .inr ⟨_, fetched, ?_⟩
      rw [Workshop.compiled, fault]
      rfl
  | broken fetched fault =>
      refine .inr ⟨_, fetched, ?_⟩
      rw [Workshop.compiled, fault]
      rfl

/-- A template that is made through the cache of resources goes by the mark of its source. -/
theorem Produced.goesByMark {folder : Option String} {after : World} {past : List World}
    {cached kept : Option Resource} {ending : Ending LiveTemplate TemplateError}
    (produced : Produced workshop folder world name cached kept after ending)
    (reloadable : workshop.reloadable = true) (agrees : workshop.source.Agrees world)
    (served : ∀ held, cached = some held → workshop.source.Served past name held) :
    workshop.GoesByMark past world name ((ending.outcome name).map LiveTemplate.sight) := by
  obtain ⟨held, e, fetched, hfailed⟩ | ⟨resource, fetched, hcompiled⟩ := produced.cases_of_fetched
  · left
    rw [hfailed, Workshop.afresh_of_produceResource_error (fetched.load_of_error agrees)]
  · rw [hcompiled]
    obtain hload | ⟨hcached, hmark⟩ := fetched.cases_of_ok reloadable
    · exact .inl (Workshop.afresh_of_load hload).symm
    · exact .inr ⟨resource, served resource hcached, hmark, rfl⟩

/-- The copy that is written of a template leaves the mark of its source as it is. -/
theorem Produced.fingerprint_after {folder : Option String} {after : World} {past : List World}
    {cached kept : Option Resource} {ending : Ending LiveTemplate TemplateError}
    (produced : Produced workshop folder world name cached kept after ending)
    (reloadable : workshop.reloadable = true) (candid : workshop.source.Candid folder past world)
    (served : ∀ held, cached = some held → workshop.source.Served past name held) :
    workshop.source.fingerprint after name = workshop.source.fingerprint world name := by
  cases produced with
  | unfetched => rfl
  | @made resource template units fetched made copies =>
      have htaken : workshop.source.Served past name resource
          ∧ workshop.source.fingerprint world name = .ok (some resource.fingerprint) := by
        obtain hload | ⟨hcached, hmark⟩ := fetched.cases_of_ok reloadable
        · exact ⟨⟨world, candid.seen, hload⟩, candid.agrees.marked hload⟩
        · exact ⟨served resource hcached, hmark⟩
      rw [← made.unit_name] at htaken ⊢
      exact candid.undisturbed units template.unit resource copies htaken.1 htaken.2
  | rejected => rfl
  | broken => rfl

/-! ## What is in the caches -/

/-- A resource that is cached after a template was made was there before, or was loaded now. -/
theorem Fetched.kept_cases {cached kept : Option Resource}
    {outcome : Except TemplateError Resource}
    (fetched : Fetched workshop world name cached kept outcome) {resource : Resource}
    (hkept : kept = some resource) :
    cached = some resource ∨ workshop.source.load world name = .ok (some resource) := by
  cases fetched with
  | missing => cases hkept
  | current outcome fresh =>
      cases hkept
      exact Workshop.cases_of_atHand (by rw [outcome]; rfl)
  | unmarked outcome reloadable mark =>
      cases hkept
      exact Workshop.cases_of_atHand (by rw [outcome]; rfl)
  | reloaded => exact .inr (Workshop.load_of_toOption hkept)

theorem Produced.kept_cases {folder : Option String} {after : World} {cached kept : Option Resource}
    {ending : Ending LiveTemplate TemplateError}
    (produced : Produced workshop folder world name cached kept after ending) {resource : Resource}
    (hkept : kept = some resource) :
    cached = some resource ∨ workshop.source.load world name = .ok (some resource) := by
  cases produced with
  | unfetched fetched => exact fetched.kept_cases hkept
  | made fetched => exact fetched.kept_cases hkept
  | rejected => cases hkept
  | broken fetched => exact fetched.kept_cases hkept

/-- A template that is made is made from the resource that is cached with it. -/
theorem Produced.made_of_value {folder : Option String} {after : World}
    {cached kept : Option Resource} {ending : Ending LiveTemplate TemplateError}
    (produced : Produced workshop folder world name cached kept after ending)
    {template : LiveTemplate} (hvalue : ending.value? = some template) :
    ∃ resource, kept = some resource ∧ template.MadeFrom workshop name resource := by
  cases produced with
  | unfetched => cases hvalue
  | made fetched made copies =>
      cases hvalue
      exact ⟨_, rfl, made⟩
  | rejected => cases hvalue
  | broken => cases hvalue

namespace Caches

/-- What is in the caches was served in one of these worlds, or made from what was. -/
structure Sound (workshop : Workshop) (past : List World) (resources : String → Option Resource)
    (templates : String → Option LiveTemplate) : Prop where
  resource : ∀ {name resource}, resources name = some resource →
    workshop.source.Served past name resource
  template : ∀ {name template}, templates name = some template →
    ∃ resource, template.MadeFrom workshop name resource
      ∧ workshop.source.Served past name resource

variable {past : List World} {resources : String → Option Resource}
  {templates : String → Option LiveTemplate}

theorem sound_empty (workshop : Workshop) (past : List World) :
    Sound workshop past (fun _ => none) fun _ => none where
  resource := nofun
  template := nofun

theorem Sound.mono (sound : Sound workshop past resources templates) (world : World) :
    Sound workshop (past ++ [world]) resources templates where
  resource h := (sound.resource h).mono world
  template h := by
    obtain ⟨resource, made, served⟩ := sound.template h
    exact ⟨resource, made, served.mono world⟩

theorem Sound.updateResource (sound : Sound workshop past resources templates)
    {kept : Option Resource}
    (hkept : ∀ resource, kept = some resource → workshop.source.Served past name resource) :
    Sound workshop past (Function.update resources name kept) templates where
  resource {other resource} h := by
    by_cases ho : other = name
    · subst ho
      rw [Function.update_self] at h
      exact hkept resource h
    · rw [Function.update_of_ne ho] at h
      exact sound.resource h
  template := sound.template

theorem Sound.updateTemplate (sound : Sound workshop past resources templates)
    {kept : Option LiveTemplate}
    (hkept : ∀ template, kept = some template → ∃ resource, template.MadeFrom workshop name resource
      ∧ workshop.source.Served past name resource) :
    Sound workshop past resources (Function.update templates name kept) where
  resource := sound.resource
  template {other template} h := by
    by_cases ho : other = name
    · subst ho
      rw [Function.update_self] at h
      exact hkept template h
    · rw [Function.update_of_ne ho] at h
      exact sound.template h

theorem Sound.discard (sound : Sound workshop past resources templates) (name : String)
    (template : LiveTemplate) :
    Sound workshop past
      (Function.update resources name ((resources name).filter fun resource =>
        !decide (some resource.fingerprint = template.fingerprint)))
      (Function.update templates name
        ((templates name).filter fun other => !template.isSame other)) := by
  refine (sound.updateResource fun resource hkept => ?_).updateTemplate fun other hkept => ?_
  · exact sound.resource (Option.filter_eq_some_iff.1 hkept).1
  · exact sound.template (Option.filter_eq_some_iff.1 hkept).1

/-! ## Lookups of templates -/

variable {caches : Caches} {folder : Option String}

/-- A template that is not cached is made by the mark of its source. -/
theorem Shows.cachedTemplate_goesByMark (h : caches.Shows folder resources templates)
    (sound : Sound workshop past resources templates)
    (candid : workshop.source.Candid folder past world)
    (reloadable : workshop.reloadable = true) (hnone : templates name = none) :
    workshop.GoesByMark past world name
        ((caches.cachedTemplate workshop world name).2.2.map LiveTemplate.sight)
      ∧ workshop.source.fingerprint (caches.cachedTemplate workshop world name).2.1 name
          = workshop.source.fingerprint world name
      ∧ ∃ resources' templates',
          (caches.cachedTemplate workshop world name).1.Shows folder resources' templates'
            ∧ Sound workshop past resources' templates' := by
  obtain ⟨template, hsome, -⟩ | ⟨-, kept, ending, produced, houtcome, hshows⟩ :=
    h.cachedTemplate workshop world name
  · rw [hnone] at hsome
    cases hsome
  have cached : ∀ held, resources name = some held → workshop.source.Served past name held :=
    fun _ => sound.resource
  have served : ∀ resource, kept = some resource →
      workshop.source.Served past name resource := by
    intro resource hkept
    obtain hcached | hload := produced.kept_cases hkept
    · exact sound.resource hcached
    · exact ⟨world, candid.seen, hload⟩
  rw [houtcome]
  refine ⟨produced.goesByMark reloadable candid.agrees cached,
    produced.fingerprint_after reloadable candid cached, _, _, hshows, ?_⟩
  refine (sound.updateResource served).updateTemplate fun template hvalue => ?_
  obtain ⟨resource, hkept, made⟩ := produced.made_of_value hvalue
  exact ⟨resource, made, served resource hkept⟩

/-- A template that is cached and current comes of something that bore the mark of its source. -/
theorem Sound.goesByMark_of_isCurrent (sound : Sound workshop past resources templates)
    {template : LiveTemplate} (hcached : templates name = some template)
    {current : Option Fingerprint} (hmark : workshop.source.fingerprint world name = .ok current)
    (hcurrent : isCurrent current template = true) :
    workshop.GoesByMark past world name (.ok template.sight) := by
  obtain ⟨resource, made, served⟩ := sound.template hcached
  obtain ⟨mark, rfl, hbears⟩ := (isCurrent_iff _ _).1 hcurrent
  rw [made.fingerprint_eq] at hbears
  cases hbears
  exact .inr ⟨resource, served, hmark, made.sight_eq.symm⟩

/-- A lookup goes by the mark of the source, and leaves the caches sound. -/
theorem Shows.template_goesByMark (h : caches.Shows folder resources templates)
    (sound : Sound workshop past resources templates)
    (candid : workshop.source.Candid folder past world)
    (reloadable : workshop.reloadable = true) (name : String) :
    workshop.GoesByMark past world name
        ((caches.template workshop world name).2.2.map LiveTemplate.sight)
      ∧ ∃ resources' templates',
          (caches.template workshop world name).1.Shows folder resources' templates'
            ∧ Sound workshop past resources' templates' := by
  unfold Caches.template
  cases hcached : templates name with
  | some template =>
      obtain ⟨found, hfound, hgiven, hshows⟩ | ⟨hnone, -⟩ := h.cachedTemplate workshop world name
      · rw [hcached] at hfound
        cases hfound
        generalize caches.cachedTemplate workshop world name = result at hgiven hshows
        obtain ⟨after, world', outcome⟩ := result
        cases hgiven
        dsimp only
        rw [if_pos reloadable]
        cases hmark : workshop.source.fingerprint world name with
        | error e =>
            have hload := Workshop.produceResource_of_load_error (candid.agrees.unmarked hmark)
            exact ⟨.inl (Workshop.afresh_of_produceResource_error hload).symm, _, _, hshows, sound⟩
        | ok current =>
            dsimp only
            split
            · next hcurrent =>
                exact ⟨sound.goesByMark_of_isCurrent hcached hmark hcurrent, _, _, hshows, sound⟩
            · -- the template is taken out, so the second lookup makes one
              have hdiscarded := hshows.discard name template
              have hsound := sound.discard name template
              have hgone : Function.update templates name
                  ((templates name).filter fun other => !template.isSame other) name = none := by
                rw [Function.update_self, hcached, Option.filter_some, template.isSame_self]
                rfl
              obtain ⟨hgoes, -, hleft⟩ :=
                hdiscarded.cachedTemplate_goesByMark hsound candid reloadable hgone
              exact ⟨hgoes, hleft⟩
      · rw [hcached] at hnone
        cases hnone
  | none =>
      obtain ⟨hgoes, hmark, resources', templates', hshows, hsound⟩ :=
        h.cachedTemplate_goesByMark sound candid reloadable hcached
      generalize caches.cachedTemplate workshop world name = result at hgoes hmark hshows
      obtain ⟨after, world', outcome⟩ := result
      cases outcome with
      | error e => exact ⟨hgoes, _, _, hshows, hsound⟩
      | ok template =>
          -- the template has just been made, and its copy has left the mark as it was
          dsimp only at hgoes hmark ⊢
          obtain ⟨mark, hbears, hnow⟩ := hgoes.fingerprint candid.agrees
          rw [if_pos reloadable, hmark, hnow]
          dsimp only
          rw [if_pos ((isCurrent_iff _ _).2 ⟨mark, rfl, hbears⟩)]
          exact ⟨hgoes, _, _, hshows, hsound⟩

end Caches

end LiveTemplates
