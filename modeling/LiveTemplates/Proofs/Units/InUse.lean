import LiveTemplates.Units.Operation
import Mathlib.Data.List.Sort

set_option autoImplicit false

/-! # The units in use

A registry answers with exactly the units that are held (`knows_units_in_use`). Between two
operations its roster also lists units that nobody holds any more, but whatever it answers, it
answers from the roster as it is pruned: and this lists exactly the units that are held, in the
order in which they were made (`UnitSession.Tracks`). A unit that is struck out is held by nobody
and can be held by nobody later, so it does not matter how often the roster is pruned
(`run_answers`). -/

namespace LiveTemplates

namespace Units

/-! ## Generations in order -/

theorem mem_withoutRepeats {n : Nat} (numbers : List Nat) :
    n ∈ withoutRepeats numbers ↔ n ∈ numbers := by
  induction numbers using withoutRepeats.induct with
  | case1 => rfl
  | case2 a => rfl
  | case3 a rest ih => rw [withoutRepeats, if_pos rfl, ih]; simp
  | case4 a b rest hne ih =>
      rw [withoutRepeats, if_neg hne, List.mem_cons, ih, ← List.mem_cons]

theorem pairwise_withoutRepeats {numbers : List Nat} (ordered : numbers.Pairwise (· ≤ ·)) :
    (withoutRepeats numbers).Pairwise (· < ·) := by
  induction numbers using withoutRepeats.induct with
  | case1 => exact .nil
  | case2 a => exact List.pairwise_singleton _ a
  | case3 a rest ih =>
      rw [withoutRepeats, if_pos rfl]
      exact ih ordered.of_cons
  | case4 a b rest hne ih =>
      rw [withoutRepeats, if_neg hne]
      refine .cons (fun n hn => ?_) (ih ordered.of_cons)
      rw [mem_withoutRepeats] at hn
      have hab : a < b := lt_of_le_of_ne (List.rel_of_pairwise_cons ordered List.mem_cons_self) hne
      rcases List.mem_cons.1 hn with rfl | hn
      · exact hab
      · exact hab.trans_le (List.rel_of_pairwise_cons ordered.of_cons hn)

/-- The generations that are on a roster, the oldest first. -/
def generationsOf (roster : List (Nat × Generation)) : List Generation :=
  (withoutRepeats ((roster.map fun entry => entry.2.value).mergeSort fun a b =>
    decide (a ≤ b))).map Generation.mk

theorem mem_generationsOf {generation : Generation} {roster : List (Nat × Generation)} :
    generation ∈ generationsOf roster ↔ ∃ entry ∈ roster, entry.2 = generation := by
  obtain ⟨value⟩ := generation
  simp only [generationsOf, List.mem_map, mem_withoutRepeats, List.mem_mergeSort,
    Generation.mk.injEq, exists_eq_right]
  refine exists_congr fun entry => and_congr_right fun _ => ?_
  rw [← Generation.mk.injEq]

theorem pairwise_generationsOf (roster : List (Nat × Generation)) :
    (generationsOf roster).Pairwise (·.value < ·.value) := by
  refine List.pairwise_map.2 (pairwise_withoutRepeats ?_)
  exact List.sortedLE_mergeSort.pairwise

end Units

/-- A unit as it stands on a roster. -/
def ExecutableUnit.entry (unit : ExecutableUnit) : Nat × Generation :=
  (unit.id, unit.generation)

namespace UnitSession

variable {session other : UnitSession} {made : List ExecutableUnit}

theorem holds_eq_true_iff {id : Nat} :
    session.holds id = true ↔ ∃ entry ∈ session.handles, entry.2.id = id := by
  simp [holds]

theorem holds_of_mem {entry : String × ExecutableUnit} (h : entry ∈ session.handles) :
    session.holds entry.2.id = true :=
  holds_eq_true_iff.2 ⟨entry, h, rfl⟩

theorem perform_liveCount (session : UnitSession) :
    session.perform .liveCount = (session.prune, .count session.prune.units.roster.length) :=
  rfl

theorem perform_liveGenerations (session : UnitSession) :
    session.perform .liveGenerations
      = (session.prune, .generations (Units.generationsOf session.prune.units.roster)) :=
  rfl

/-! ## Pruning -/

theorem prune_prune (session : UnitSession) : session.prune.prune = session.prune := by
  simp [prune, Units.prune, holds]

/-- If no unit is held that was not held before, it does not matter whether the roster was pruned
before. -/
theorem prune_withHandles (handles : List (String × ExecutableUnit))
    (fewer : ∀ entry ∈ handles, session.holds entry.2.id = true) :
    ({ session.prune with handles } : UnitSession).prune
      = ({ session with handles } : UnitSession).prune := by
  have hroster : (session.units.roster.filter fun entry => session.holds entry.1).filter
      (fun entry => handles.any fun handle => handle.2.id = entry.1)
      = session.units.roster.filter
        fun entry => handles.any fun handle => handle.2.id = entry.1 := by
    rw [List.filter_filter]
    refine List.filter_congr fun entry _ => ?_
    by_cases hheld : (handles.any fun handle => handle.2.id = entry.1) = true
    · obtain ⟨handle, hmem, hid⟩ := List.any_eq_true.1 hheld
      rw [hheld, ← of_decide_eq_true hid, fewer handle hmem]
      rfl
    · rw [Bool.not_eq_true] at hheld
      rw [hheld, Bool.false_and]
  simp only [prune, Units.prune, holds] at hroster ⊢
  rw [hroster]

/-! ## What a session knows of the units that were made -/

/-- The session knows the units that were made so far, the oldest first. -/
structure Tracks (session : UnitSession) (made : List ExecutableUnit) : Prop where
  /-- Once it is pruned, the roster lists the units that are held, in the order of their making. -/
  roster : session.prune.units.roster
    = (made.filter fun unit => session.holds unit.id).map ExecutableUnit.entry
  handles : ∀ entry ∈ session.handles, entry.2 ∈ made
  ascending : made.Pairwise fun unit later => unit.id < later.id
  below : ∀ unit ∈ made, unit.id < session.units.nextId

theorem Tracks.fresh (reloadable : Bool) (directory : Option String) :
    Tracks { units := { reloadable, directory } } [] where
  roster := rfl
  handles _ h := by cases h
  ascending := .nil
  below _ h := by cases h

/-- The entries of the units that are held, struck out again where fewer units are held. -/
theorem filter_entries {fewer : Nat → Bool}
    (h : ∀ unit ∈ made, fewer unit.id = true → session.holds unit.id = true) :
    ((made.filter fun unit => session.holds unit.id).map ExecutableUnit.entry).filter
        (fun entry => fewer entry.1)
      = (made.filter fun unit => fewer unit.id).map ExecutableUnit.entry := by
  rw [List.filter_map, List.filter_filter]
  refine congrArg (List.map ExecutableUnit.entry) (List.filter_congr fun unit hunit => ?_)
  show (fewer unit.id && session.holds unit.id) = fewer unit.id
  by_cases hfewer : fewer unit.id = true
  · rw [h unit hunit hfewer, Bool.and_true]
  · rw [Bool.not_eq_true] at hfewer
    rw [hfewer, Bool.false_and]

namespace Tracks

theorem withHandles (h : session.Tracks made) (handles : List (String × ExecutableUnit))
    (known : ∀ entry ∈ handles, ∃ earlier ∈ session.handles, earlier.2 = entry.2) :
    Tracks { session with handles } made where
  roster := by
    have fewer : ∀ entry ∈ handles, session.holds entry.2.id = true := fun entry hentry => by
      obtain ⟨earlier, hmem, heq⟩ := known entry hentry
      exact heq ▸ holds_of_mem hmem
    rw [← prune_withHandles handles fewer]
    show session.prune.units.roster.filter
      (fun entry => UnitSession.holds { session with handles } entry.1) = _
    rw [h.roster]
    refine filter_entries fun unit _ hheld => ?_
    obtain ⟨entry, hentry, hid⟩ := holds_eq_true_iff.1 hheld
    exact hid ▸ fewer entry hentry
  handles entry hentry := by
    obtain ⟨earlier, hmem, heq⟩ := known entry hentry
    exact heq ▸ h.handles earlier hmem
  ascending := h.ascending
  below := h.below

theorem hold (h : session.Tracks made) {handle other : String} {unit : ExecutableUnit}
    (hunit : (handle, unit) ∈ session.handles) : (session.hold other unit).Tracks made := by
  refine h.withHandles _ fun entry hentry => ?_
  rcases Assoc.mem_set hentry with rfl | hmem
  · exact ⟨_, hunit, rfl⟩
  · exact ⟨entry, hmem, rfl⟩

theorem prune (h : session.Tracks made) : session.prune.Tracks made where
  roster := by
    rw [prune_prune]
    exact h.roster
  handles := h.handles
  ascending := h.ascending
  below := h.below

theorem advance (h : session.Tracks made) :
    Tracks { session with units := session.units.advance } made := by
  unfold Units.advance
  split
  · exact ⟨h.roster, h.handles, h.ascending, h.below⟩
  · exact h

/-- A new unit, whoever holds it. -/
theorem define (h : session.Tracks made) (name : String) (program : Runnable)
    (handles : List (String × ExecutableUnit))
    (known : ∀ entry ∈ handles, entry ∈ session.handles
      ∨ entry.2 = (session.prune.units.define name program).2) :
    Tracks { units := (session.prune.units.define name program).1, handles }
      (made ++ [(session.prune.units.define name program).2]) := by
  set unit := (session.prune.units.define name program).2 with hunit
  have hid : unit.id = session.units.nextId := rfl
  set after : UnitSession :=
    { units := (session.prune.units.define name program).1, handles } with hafter
  have fewer : ∀ old ∈ made, after.holds old.id = true → session.holds old.id = true := by
    intro old hold hheld
    obtain ⟨entry, hentry, heq⟩ := holds_eq_true_iff.1 hheld
    rcases known entry hentry with hmem | hnew
    · exact heq ▸ holds_of_mem hmem
    · rw [hnew, hid] at heq
      exact absurd heq.symm (Nat.ne_of_lt (h.below old hold))
  constructor
  · show (session.prune.units.roster ++ [unit.entry]).filter (fun entry => after.holds entry.1) = _
    rw [List.filter_append, h.roster, filter_entries fewer, List.filter_append, List.map_append]
    congr 1
    by_cases hheld : after.holds unit.id = true
    · simp [ExecutableUnit.entry, hheld]
    · simp [ExecutableUnit.entry, hheld]
  · intro entry hentry
    rcases known entry hentry with hmem | hnew
    · exact List.mem_append_left _ (h.handles entry hmem)
    · rw [hnew]
      exact List.mem_append_right _ (List.mem_singleton_self unit)
  · refine List.pairwise_append.2 ⟨h.ascending, List.pairwise_singleton _ _, ?_⟩
    intro old hold new hnew
    rw [List.mem_singleton.1 hnew, hid]
    exact h.below old hold
  · intro old hold
    show old.id < session.units.nextId + 1
    rcases List.mem_append.1 hold with hmem | hmem
    · exact Nat.lt_succ_of_lt (h.below old hmem)
    · rw [List.mem_singleton.1 hmem, hid]
      exact Nat.lt_succ_self _

/-- One operation: a unit that it makes comes after those made before. -/
theorem perform (h : session.Tracks made) (operation : UnitOperation) :
    (session.perform operation).1.Tracks
      (made ++ (session.perform operation).2.unit?.toList) := by
  cases operation with
  | define handle name program =>
      cases handle with
      | none => exact h.define name program session.handles fun entry hentry => .inl hentry
      | some handle =>
          refine h.define name program _ fun entry hentry => ?_
          rcases Assoc.mem_set hentry with rfl | hmem
          · exact .inr rfl
          · exact .inl hmem
  | share handle other =>
      cases hfind : Assoc.find? handle session.handles with
      | some unit =>
          rw [perform_share_of_some hfind]
          exact (List.append_nil made).symm ▸ h.hold (Assoc.mem_of_find? hfind)
      | none =>
          rw [perform_share_of_none hfind]
          exact (List.append_nil made).symm ▸ h
  | release handle =>
      refine (List.append_nil made).symm ▸ h.withHandles _ fun entry hentry => ?_
      exact ⟨entry, List.mem_of_mem_filter hentry, rfl⟩
  | advance => exact (List.append_nil made).symm ▸ h.advance
  | liveCount => exact (List.append_nil made).symm ▸ h.prune
  | liveGenerations => exact (List.append_nil made).symm ▸ h.prune

end Tracks

theorem defined_cons (answer : UnitAnswer) (answers : List UnitAnswer) :
    defined (answer :: answers) = answer.unit?.toList ++ defined answers := by
  unfold defined
  cases hunit : answer.unit? with
  | none =>
      rw [List.filterMap_cons_none hunit]
      rfl
  | some unit =>
      rw [List.filterMap_cons_some hunit]
      rfl

theorem Tracks.run (h : session.Tracks made) (operations : List UnitOperation) :
    (session.run operations).1.Tracks (made ++ defined (session.run operations).2) := by
  induction operations generalizing session made with
  | nil => exact (List.append_nil made).symm ▸ h
  | cons operation rest ih =>
      rw [run_cons, defined_cons, ← List.append_assoc]
      exact ih (h.perform operation)

/-! ## What a query leaves behind -/

/-- An operation gives the same, and leaves the same behind up to pruning, whether or not the roster
was pruned before. -/
theorem perform_prune (session : UnitSession) (operation : UnitOperation) :
    (session.prune.perform operation).2 = (session.perform operation).2
      ∧ (session.prune.perform operation).1.prune = (session.perform operation).1.prune := by
  cases operation with
  | define handle name program =>
      have hsame : session.prune.perform (.define handle name program)
          = session.perform (.define handle name program) := by
        unfold perform
        rw [prune_prune]
        rfl
      rw [hsame]
      exact ⟨rfl, rfl⟩
  | share handle other =>
      cases hfind : Assoc.find? handle session.handles with
      | none =>
          have hfind' : Assoc.find? handle session.prune.handles = none := hfind
          rw [perform_share_of_none hfind, perform_share_of_none hfind']
          exact ⟨rfl, session.prune_prune⟩
      | some unit =>
          have hfind' : Assoc.find? handle session.prune.handles = some unit := hfind
          rw [perform_share_of_some hfind, perform_share_of_some hfind']
          refine ⟨rfl, prune_withHandles _ fun entry hentry => ?_⟩
          rcases Assoc.mem_set hentry with rfl | hmem
          · exact holds_eq_true_iff.2 ⟨_, Assoc.mem_of_find? hfind, rfl⟩
          · exact holds_of_mem hmem
  | release handle =>
      refine ⟨rfl, prune_withHandles _ fun entry hentry => ?_⟩
      exact holds_of_mem (List.mem_of_mem_filter hentry)
  | advance =>
      have hadvance : (session.units.prune session.holds).advance
          = session.units.advance.prune session.holds := by
        unfold Units.advance Units.prune
        split <;> rfl
      have hgeneration : (session.units.advance.prune session.holds).generation
          = session.units.advance.generation := rfl
      constructor
      · exact congrArg UnitAnswer.generation (hadvance ▸ hgeneration)
      · show UnitSession.prune
          { session with units := (session.units.prune session.holds).advance } = _
        rw [hadvance]
        exact prune_prune { session with units := session.units.advance }
  | liveCount =>
      rw [perform_liveCount, perform_liveCount, prune_prune]
      exact ⟨rfl, session.prune_prune⟩
  | liveGenerations =>
      rw [perform_liveGenerations, perform_liveGenerations, prune_prune]
      exact ⟨rfl, session.prune_prune⟩

/-- Sessions that are the same when pruned give the same answers from there on. -/
theorem run_answers (hsame : session.prune = other.prune) (operations : List UnitOperation) :
    (session.run operations).2 = (other.run operations).2 := by
  induction operations generalizing session other with
  | nil => rfl
  | cons operation rest ih =>
      obtain ⟨hanswer, hafter⟩ := session.perform_prune operation
      obtain ⟨hanswer', hafter'⟩ := other.perform_prune operation
      rw [hsame] at hanswer hafter
      rw [run_cons, run_cons, ← hanswer, ← hanswer', ih (hafter.symm.trans hafter')]

theorem prune_perform_of_isQuery {query : UnitOperation} (hquery : query.isQuery = true) :
    (session.perform query).1.prune = session.prune := by
  cases query with
  | liveCount => exact session.prune_prune
  | liveGenerations => exact session.prune_prune
  | _ => cases hquery

/-! ## The generation of a unit -/

/-- Only the beginning of a generation changes the generation, and only if there may be several. -/
theorem perform_generation (session : UnitSession) (operation : UnitOperation) :
    (session.perform operation).1.units.reloadable = session.units.reloadable
      ∧ (session.perform operation).1.units.generation.value
        = session.units.generation.value
          + if operation.isAdvance && session.units.reloadable then 1 else 0 := by
  cases operation with
  | define handle name program => cases handle <;> exact ⟨rfl, rfl⟩
  | share handle other =>
      cases hfind : Assoc.find? handle session.handles with
      | none =>
          rw [perform_share_of_none hfind]
          exact ⟨rfl, rfl⟩
      | some unit =>
          rw [perform_share_of_some hfind]
          exact ⟨rfl, rfl⟩
  | advance =>
      cases hreloadable : session.units.reloadable <;>
        simp [perform, Units.advance, hreloadable, UnitOperation.isAdvance]
  | release handle => exact ⟨rfl, rfl⟩
  | liveCount => exact ⟨rfl, rfl⟩
  | liveGenerations => exact ⟨rfl, rfl⟩

theorem run_generation (session : UnitSession) (operations : List UnitOperation) :
    (session.run operations).1.units.generation.value
      = session.units.generation.value
        + if session.units.reloadable then operations.countP UnitOperation.isAdvance else 0 := by
  induction operations generalizing session with
  | nil => simp [run]
  | cons operation rest ih =>
      obtain ⟨hreloadable, hgeneration⟩ := session.perform_generation operation
      rw [run_cons, ih, hreloadable, hgeneration, List.countP_cons]
      cases session.units.reloadable with
      | false => simp
      | true =>
          simp only [Bool.and_true, if_true]
          omega

/-! ## The main result -/

namespace Tracks

/-- A unit is held exactly if there is a handle on it: no other unit has its number. -/
theorem holds_iff (h : session.Tracks made) {unit : ExecutableUnit} (hunit : unit ∈ made) :
    session.holds unit.id = true ↔ ∃ handle, (handle, unit) ∈ session.handles := by
  rw [holds_eq_true_iff]
  constructor
  · rintro ⟨⟨handle, found⟩, hmem, hid⟩
    have hnodup : (made.map ExecutableUnit.id).Nodup :=
      List.pairwise_map.2 (h.ascending.imp fun hlt => Nat.ne_of_lt hlt)
    have hsame : found = unit := List.inj_on_of_nodup_map hnodup (h.handles _ hmem) hunit hid
    exact ⟨handle, hsame ▸ hmem⟩
  · rintro ⟨handle, hmem⟩
    exact ⟨(handle, unit), hmem, rfl⟩

theorem liveCount (h : session.Tracks made) :
    (session.perform .liveCount).2 = .count (made.countP fun unit => session.holds unit.id) := by
  rw [perform_liveCount, h.roster, List.length_map, List.countP_eq_length_filter]

theorem mem_generationsOf (h : session.Tracks made) (generation : Generation) :
    generation ∈ Units.generationsOf session.prune.units.roster
      ↔ ∃ unit ∈ made, session.holds unit.id = true ∧ unit.generation = generation := by
  rw [Units.mem_generationsOf, h.roster]
  simp [ExecutableUnit.entry, and_assoc]

end Tracks

/-- After any operations on a new registry: the registry answers with the number of the units that
are held under some handle, and with exactly their generations, each once, in ascending order. The
numbers of units ascend in the order in which they are made, and the generation of a unit is one
more than generations were begun before, or always the first if there is only one. No query changes
an answer to come. -/
theorem knows_units_in_use (reloadable : Bool) (directory : Option String)
    (operations : List UnitOperation) :
    let begun : UnitSession := { units := { reloadable, directory } }
    let session := (begun.run operations).1
    let made := defined (begun.run operations).2
    (∀ unit ∈ made, session.holds unit.id = true ↔ ∃ handle, (handle, unit) ∈ session.handles)
      ∧ (session.perform .liveCount).2 = .count (made.countP fun unit => session.holds unit.id)
      ∧ (∃ generations, (session.perform .liveGenerations).2 = .generations generations
        ∧ generations.Pairwise (fun generation later => generation.value < later.value)
        ∧ ∀ generation, generation ∈ generations ↔
          ∃ unit ∈ made, session.holds unit.id = true ∧ unit.generation = generation)
      ∧ made.Pairwise (fun unit later => unit.id < later.id)
      ∧ (∀ handle name program, ∃ unit,
        (session.perform (.define handle name program)).2 = .unit unit
          ∧ (∀ earlier ∈ made, earlier.id < unit.id)
          ∧ unit.generation.value
            = if reloadable then 1 + operations.countP UnitOperation.isAdvance else 1)
      ∧ ∀ query later, query.isQuery = true →
        ((session.perform query).1.run later).2 = (session.run later).2 := by
  intro begun session made
  have h : session.Tracks made := (Tracks.fresh reloadable directory).run operations
  have hgeneration := run_generation begun operations
  refine ⟨fun unit => h.holds_iff, h.liveCount, ?_, h.ascending, ?_, ?_⟩
  · exact ⟨_, congrArg Prod.snd session.perform_liveGenerations, Units.pairwise_generationsOf _,
      h.mem_generationsOf⟩
  · intro handle name program
    refine ⟨(session.prune.units.define name program).2, by cases handle <;> rfl, h.below, ?_⟩
    show session.units.generation.value = _
    rw [hgeneration]
    cases reloadable <;> rfl
  · intro query later hquery
    exact run_answers (prune_perform_of_isQuery hquery) later

/-- A unit that is held twice is in use as long as one of its handles is there; one that nobody has
taken is not. -/
theorem knows_units_in_use_shared :
    let begun : UnitSession := { units := { reloadable := true, directory := none } }
    let program : Runnable := fun _ => .ok ""
    let session := (begun.run [.define (some "old") "/a.hbs" program, .share "old" "kept", .advance,
      .define (some "new") "/a.hbs" program, .release "old", .define none "/b.hbs" program]).1
    UnitOperation.liveCount.isQuery = true
      ∧ (session.perform .liveCount).2 = .count 2
      ∧ (∃ unit, (session.perform (.define none "/c.hbs" program)).2 = .unit unit
        ∧ unit.generation.value = 2)
      ∧ ((session.perform .liveCount).1.run [.release "kept", .liveCount]).2
        = (session.run [.release "kept", .liveCount]).2 := by
  intro begun program session
  obtain ⟨-, hcount, -, -, hdefine, hquery⟩ := knows_units_in_use true none
    [.define (some "old") "/a.hbs" program, .share "old" "kept", .advance,
      .define (some "new") "/a.hbs" program, .release "old", .define none "/b.hbs" program]
  obtain ⟨unit, hunit, -, hgeneration⟩ := hdefine none "/c.hbs" program
  exact ⟨rfl, hcount, ⟨unit, hunit, hgeneration⟩, hquery .liveCount _ rfl⟩

end UnitSession

end LiveTemplates
