import LiveTemplates.Units

set_option autoImplicit false

/-! # Loaders that tell when they change

Where sources may change, an engine goes by fingerprints: as long as the mark of a source is the
same, so is its text. Nothing forces a loader to keep this, so here is said what an engine relies
on. The marks it tells are those of the resources it loads, and a mark that was on one text is never
on another later. -/

namespace LiveTemplates

namespace Source

/-- The mark that a source tells for a name is that of the resource it loads, and where it cannot
tell the mark it cannot load either. -/
structure Agrees (source : Source) (world : World) : Prop where
  marked : ∀ {name found}, source.load world name = .ok found →
    source.fingerprint world name = .ok (found.map Resource.fingerprint)
  unmarked : ∀ {name e}, source.fingerprint world name = .error e →
    source.load world name = .error e

/-- If a source bears the mark of a resource, it has its text. -/
def Vouches (source : Source) (world : World) (name : String) (resource : Resource) : Prop :=
  source.fingerprint world name = .ok (some resource.fingerprint) →
    ∃ current, source.load world name = .ok (some current) ∧ current.content = resource.content

/-- What was served under a mark in one world is not something else in a later one. -/
def Keeps (source : Source) (earlier later : World) : Prop :=
  ∀ name resource, source.load earlier name = .ok (some resource) →
    source.Vouches later name resource

/-- Writing a copy of what is served under a name leaves the mark of that name as it is. -/
def Undisturbed (source : Source) (folder : Option String) (world : World) : Prop :=
  ∀ (units : Units) (unit : ExecutableUnit) (resource : Resource), units.directory = folder →
    source.load world unit.name = .ok (some resource) →
      source.fingerprint (units.persist unit resource.content world) unit.name
        = source.fingerprint world unit.name

/-- What an engine relies on in a course of worlds. -/
structure Faithful (source : Source) (folder : Option String) (worlds : List World) : Prop where
  agrees : ∀ world ∈ worlds, source.Agrees world
  undisturbed : ∀ world ∈ worlds, source.Undisturbed folder world
  keeps : worlds.Pairwise source.Keeps

/-- A resource was served under a name. -/
def Served (source : Source) (past : List World) (name : String) (resource : Resource) : Prop :=
  ∃ world ∈ past, source.load world name = .ok (some resource)

theorem Served.mono {source : Source} {past : List World} {name : String} {resource : Resource}
    (served : source.Served past name resource) (world : World) :
    source.Served (past ++ [world]) name resource := by
  obtain ⟨earlier, hmem, hload⟩ := served
  exact ⟨earlier, List.mem_append_left _ hmem, hload⟩

theorem keeps_self (source : Source) (world : World) : source.Keeps world world :=
  fun _ resource hload _ => ⟨resource, hload, rfl⟩

/-- What an engine relies on in the last of the worlds it has seen. -/
structure Reliable (source : Source) (folder : Option String) (past : List World) (world : World) :
    Prop where
  seen : world ∈ past
  agrees : source.Agrees world
  undisturbed : source.Undisturbed folder world
  vouches : ∀ {name resource}, source.Served past name resource → source.Vouches world name resource

theorem Faithful.reliable {source : Source} {folder : Option String} {past : List World}
    {world : World} (faithful : source.Faithful folder (past ++ [world])) :
    source.Reliable folder (past ++ [world]) world where
  seen := List.mem_append_right _ (List.mem_singleton_self _)
  agrees := faithful.agrees world (List.mem_append_right _ (List.mem_singleton_self _))
  undisturbed := faithful.undisturbed world (List.mem_append_right _ (List.mem_singleton_self _))
  vouches {name resource} served := by
    obtain ⟨earlier, hmem, hload⟩ := served
    rcases List.mem_append.1 hmem with hpast | hlast
    · exact (List.pairwise_append.1 faithful.keeps).2.2 earlier hpast world
        (List.mem_singleton_self _) name resource hload
    · rw [List.mem_singleton] at hlast
      subst hlast
      exact keeps_self source earlier name resource hload

/-- An engine relies on no less in the worlds up to any of them. -/
theorem Faithful.of_prefix {source : Source} {folder : Option String} {past worlds : List World}
    (faithful : source.Faithful folder worlds) (earlier : past <+: worlds) :
    source.Faithful folder past where
  agrees world hmem := faithful.agrees world (earlier.subset hmem)
  undisturbed world hmem := faithful.undisturbed world (earlier.subset hmem)
  keeps := faithful.keeps.sublist earlier.sublist

/-- The marks that a source tells in the last of the worlds so far are those of what it loads, and
writing a copy of what bears the mark of its name leaves the mark as it is. This says nothing of the
texts. -/
structure Candid (source : Source) (folder : Option String) (past : List World) (world : World) :
    Prop where
  seen : world ∈ past
  agrees : source.Agrees world
  undisturbed : ∀ (units : Units) (unit : ExecutableUnit) (resource : Resource),
    units.directory = folder → source.Served past unit.name resource →
      source.fingerprint world unit.name = .ok (some resource.fingerprint) →
        source.fingerprint (units.persist unit resource.content world) unit.name
          = source.fingerprint world unit.name

theorem Reliable.candid {source : Source} {folder : Option String} {past : List World}
    {world : World} (reliable : source.Reliable folder past world) :
    source.Candid folder past world where
  seen := reliable.seen
  agrees := reliable.agrees
  undisturbed units unit resource hfolder served hmark := by
    obtain ⟨current, hload, htext⟩ := reliable.vouches served hmark
    rw [← htext]
    exact reliable.undisturbed units unit current hfolder hload

end Source

end LiveTemplates
