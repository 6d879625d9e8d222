import LiveTemplates.Engine.Caches
import LiveTemplates.Proofs.Loader.Probe
import LiveTemplates.Proofs.Loader.Rooted

set_option autoImplicit false

/-! # Times of modification as marks

The mark of a file is its time of modification: the nanoseconds since the epoch, none of them before
it, and of their number the last 64 bits. So a later time gives a greater mark after the epoch, and
no smaller one before it, as long as the marks do not begin anew at zero between the two
(`ofModified_lt`). The first time after the epoch that they do is in the year 2554. Where they do,
two times that are less than `2 ^ 64` nanoseconds apart have their marks the wrong way round
(`ofModified_lt_of_turn`).

A file that is touched has its new time under every path that leads to it, and any other path
shows what it showed before (`look_touch`, `look_touch_cases`). So a probe that ends at a file, be
it through several loaders, ends there again and tells the new time (`Reads.touch`). -/

namespace LiveTemplates

/-- How many times the marks of files have begun anew at zero since the epoch. -/
def Moment.turn (time : Moment) : Nat :=
  time.nanoseconds.toNat / 2 ^ 64

theorem Moment.turn_eq_zero {time : Moment} (h : time.nanoseconds.toNat < 2 ^ 64) :
    time.turn = 0 :=
  Nat.div_eq_of_lt h

/-! ## Marks of times -/

namespace Fingerprint

variable {earlier later : Moment}

theorem toNat_ofModified (time : Moment) :
    (ofModified time).value.toNat = time.nanoseconds.toNat % 2 ^ 64 := by
  simp [ofModified]

theorem ofModified_le (before : earlier.nanoseconds ≤ later.nanoseconds)
    (turn : earlier.turn = later.turn) :
    (ofModified earlier).value ≤ (ofModified later).value := by
  rw [UInt64.le_iff_toNat_le, toNat_ofModified, toNat_ofModified]
  unfold Moment.turn at turn
  omega

theorem ofModified_lt (before : earlier.nanoseconds < later.nanoseconds)
    (after : 0 < later.nanoseconds) (turn : earlier.turn = later.turn) :
    (ofModified earlier).value < (ofModified later).value := by
  rw [UInt64.lt_iff_toNat_lt, toNat_ofModified, toNat_ofModified]
  unfold Moment.turn at turn
  omega

/-- Where the marks begin anew between two times, the later one has the smaller mark, unless so much
time has passed that the marks have caught up again. -/
theorem ofModified_lt_of_turn (before : earlier.nanoseconds < later.nanoseconds)
    (turn : earlier.turn ≠ later.turn)
    (near : later.nanoseconds.toNat < earlier.nanoseconds.toNat + 2 ^ 64) :
    (ofModified later).value < (ofModified earlier).value := by
  rw [UInt64.lt_iff_toNat_lt, toNat_ofModified, toNat_ofModified]
  unfold Moment.turn at turn
  omega

end Fingerprint

/-! ## Files that are touched -/

namespace Tree

variable {tree : Tree} {path touched : String} {place : Location} {content : ByteArray}
  {earlier : Moment}

/-- At the root there is no file. -/
theorem ne_nil_of_file (file : tree.node? place = some (.file content earlier)) : place ≠ [] := by
  intro hroot
  simp [hroot, node?] at file

/-- A path is followed through folders only. -/
theorem follow_congr {before after : Tree}
    (same : ∀ location, after.requireFolder location = before.requireFolder location)
    (location : Location) (parts : List String) :
    after.follow location parts = before.follow location parts := by
  induction parts generalizing location with
  | nil => rfl
  | cons part rest ih => simp only [follow, same, ih]

/-- Every path leads where it led before a file was put in place of another one. -/
theorem locate_put_file (file : tree.node? place = some (.file content earlier)) (later : Moment)
    (path : String) :
    (tree.put place (.file content later)).locate path = tree.locate path := by
  have hsame : ∀ location, (tree.put place (.file content later)).requireFolder location
      = tree.requireFolder location := by
    intro location
    rw [requireFolder, requireFolder, node?_put (ne_nil_of_file file)]
    by_cases hplace : location = place
    · simp [hplace, file]
    · simp [hplace]
  rw [locate, locate, follow_congr hsame]
  rfl

theorem touch_eq_put (located : tree.locate touched = .ok place)
    (file : tree.node? place = some (.file content earlier)) (later : Moment) :
    tree.touch touched later = tree.put place (.file content later) := by
  simp [touch, located, file]

/-- A file that is touched is there with its new time, under every path that led to it. -/
theorem look_touch (found : tree.look path = .ok (.file content earlier))
    (same : tree.locate touched = tree.locate path) (later : Moment) :
    (tree.touch touched later).look path = .ok (.file content later) := by
  obtain ⟨place, located, file⟩ := look_eq_ok_iff.1 found
  rw [touch_eq_put (same.trans located) file, look_eq_ok_iff]
  refine ⟨place, (locate_put_file file later path).trans located, ?_⟩
  rw [node?_put (ne_nil_of_file file), if_pos rfl]

/-- Whatever is touched, a path shows what it showed before, unless it leads to the same file. -/
theorem look_touch_cases (tree : Tree) (touched path : String) (later : Moment) :
    (tree.touch touched later).look path = tree.look path
      ∨ tree.locate touched = tree.locate path
        ∧ ∃ content earlier, tree.look path = .ok (.file content earlier) := by
  by_cases hfile : ∃ place content earlier, tree.locate touched = .ok place
      ∧ tree.node? place = some (.file content earlier)
  · obtain ⟨place, content, earlier, located, file⟩ := hfile
    rw [touch_eq_put located file, located, look, look, locate_put_file file]
    cases tree.locate path with
    | error fault => exact .inl rfl
    | ok other =>
        dsimp only
        rw [node?_put (ne_nil_of_file file)]
        by_cases hplace : other = place
        · exact .inr ⟨by rw [hplace], content, earlier, by rw [hplace, file]⟩
        · exact .inl (by rw [if_neg hplace])
  · -- where there is no file, nothing is touched
    refine .inl (congrArg (look · path) ?_)
    unfold touch
    split
    · rfl
    · next place located =>
        split
        · next content earlier file => exact absurd ⟨place, content, earlier, located, file⟩ hfile
        · rfl

end Tree

/-- Change the time of modification of a file. -/
def World.touch (world : World) (path : String) (time : Moment) : World :=
  { world with files := world.files.touch path time }

namespace Loader

variable {world : World} {name path : String} {content : ByteArray} {time : Moment}

theorem fileFingerprint_of_look (found : world.files.look path = .ok (.file content time))
    (name : String) : fileFingerprint world name path = .ok (some (.ofModified time)) := by
  rw [fileFingerprint, Tree.source?, found]
  rfl

/-- Where there is no file, none is made by a touch. -/
theorem fileFingerprint_touch_of_none (h : fileFingerprint world name path = .ok none)
    (touched : String) (later : Moment) :
    fileFingerprint (world.touch touched later) name path = .ok none := by
  rcases world.files.look_touch_cases touched path later
    with hsame | ⟨-, content, time, hfile⟩
  · rw [fileFingerprint, Tree.source?, World.touch, hsame]
    exact h
  · rw [fileFingerprint_of_look hfile] at h
    cases h

variable (world : World) (name touched : String) (later : Moment)

mutual

/-- What a loader lacks it lacks whatever is touched. -/
theorem lacks_touch : (loader : Loader) → loader.fingerprint world name = .ok none →
    loader.fingerprint (world.touch touched later) name = .ok none
  | memory store, h => by
      rw [fingerprint] at h ⊢
      exact h
  | rooted root, h => by
      rw [fingerprint] at h ⊢
      cases hpath : resolve "filesystem" root name with
      | ok path =>
          rw [hpath] at h
          exact fileFingerprint_touch_of_none h touched later
      | error e =>
          rw [hpath] at h
          exact h
  | external root, h => by
      rw [fingerprint] at h ⊢
      cases hpath : resolve "external" root name with
      | ok path =>
          rw [hpath] at h
          exact fileFingerprint_touch_of_none h touched later
      | error e =>
          rw [hpath] at h
          exact h
  | composite loaders, h => by
      rw [fingerprint] at h ⊢
      exact lacksFirst_touch loaders h
  | wholly kind loader, h => by
      rw [fingerprint] at h ⊢
      have hload : loader.load world name = .ok none := by
        cases hload : loader.load world name with
        | error e =>
            rw [hload] at h
            cases h
        | ok found =>
            cases found with
            | none => rfl
            | some resource =>
                rw [hload] at h
                cases h
      have hlacks := lacks_touch loader ((tells world name loader).marked hload)
      rw [(tells _ name loader).absent_of_unmarked hlacks]
      rfl

/-- What several loaders lack they lack whatever is touched. -/
theorem lacksFirst_touch : (loaders : List Loader) →
    fingerprintFirst world name loaders = .ok none →
    fingerprintFirst (world.touch touched later) name loaders = .ok none
  | [], h => h
  | loader :: rest, h => by
      rw [fingerprintFirst] at h ⊢
      cases hhead : loader.fingerprint world name with
      | error e =>
          rw [hhead] at h
          cases h
      | ok found =>
          cases found with
          | none =>
              rw [hhead] at h
              rw [lacks_touch loader hhead]
              exact lacksFirst_touch rest h
          | some mark =>
              rw [hhead] at h
              cases h

end

/-- A probe of a name ends at the file to which a path leads: with a loader that has its root, or
with the first of several that does not lack the name. -/
inductive Reads (world : World) (name : String) : String → Loader → Prop where
  | rooted (root : String) : Reads world name (Path.below root name) (rooted (some root))
  | external (root : String) : Reads world name (Path.below root name) (external (some root))
  | first {path : String} {loader : Loader} (rest : List Loader)
      (reads : Reads world name path loader) : Reads world name path (composite (loader :: rest))
  | further {path : String} {loader : Loader} {rest : List Loader}
      (lacks : loader.fingerprint world name = .ok none)
      (reads : Reads world name path (composite rest)) :
      Reads world name path (composite (loader :: rest))

namespace Reads

variable {world : World} {name path : String} {loader : Loader} {content : ByteArray}
  {time : Moment}

/-- The probe tells the time of the file. -/
theorem fingerprint (reads : Reads world name path loader)
    (found : world.files.look path = .ok (.file content time)) :
    loader.fingerprint world name = .ok (some (.ofModified time)) := by
  induction reads with
  | rooted root =>
      rw [Loader.fingerprint]
      exact fileFingerprint_of_look found name
  | external root =>
      rw [Loader.fingerprint]
      exact fileFingerprint_of_look found name
  | first rest reads ih =>
      rw [Loader.fingerprint, fingerprintFirst, ih found]
  | further lacks reads ih =>
      rw [Loader.fingerprint, fingerprintFirst, lacks]
      have hrest := ih found
      rwa [Loader.fingerprint] at hrest

/-- The probe ends at the same file whatever is touched. -/
theorem touch (reads : Reads world name path loader) (touched : String) (later : Moment) :
    Reads (world.touch touched later) name path loader := by
  induction reads with
  | rooted root => exact .rooted root
  | external root => exact .external root
  | first rest reads ih => exact .first rest ih
  | further lacks reads ih => exact .further (lacks_touch world name touched later _ lacks) ih

end Reads

end Loader

namespace Fingerprint

/-- Of two times in the same turn the later one gives no smaller mark, and after the epoch a greater
one. If a file is touched then, under whatever path, every probe that ends at it tells that it is
newer, and no template that bears the mark of the file as it was is current any more. Where the
marks begin anew between the two times, and these are less than a turn apart, the mark of the later
one is the smaller. -/
theorem later_is_newer {earlier later : Moment} (before : earlier.nanoseconds < later.nanoseconds) :
    (earlier.turn = later.turn →
        (ofModified earlier).value ≤ (ofModified later).value
          ∧ (0 < later.nanoseconds →
              (ofModified earlier).value < (ofModified later).value
                ∧ ∀ (loader : Loader) (world : World) (name path touched : String)
                    (content : ByteArray), Loader.Reads world name path loader →
                    world.files.look path = .ok (.file content earlier) →
                    world.files.locate touched = world.files.locate path →
                    ∃ old new, loader.fingerprint world name = .ok (some old)
                      ∧ loader.fingerprint (world.touch touched later) name = .ok (some new)
                      ∧ old.value < new.value
                      ∧ ∀ template : LiveTemplate, template.fingerprint = some old →
                          Caches.isCurrent (some new) template = false))
      ∧ (earlier.turn ≠ later.turn →
          later.nanoseconds.toNat < earlier.nanoseconds.toNat + 2 ^ 64 →
          (ofModified later).value < (ofModified earlier).value) := by
  refine ⟨fun turn => ⟨ofModified_le (Int.le_of_lt before) turn, fun after => ?_⟩,
    ofModified_lt_of_turn before⟩
  have hnewer := ofModified_lt before after turn
  refine ⟨hnewer, ?_⟩
  intro loader world name path touched content reads found same
  refine ⟨_, _, reads.fingerprint found,
    (reads.touch touched later).fingerprint (Tree.look_touch found same later), hnewer, ?_⟩
  intro template hold
  rw [Bool.eq_false_iff]
  intro hcurrent
  obtain ⟨mark, hnew, hmark⟩ := (Caches.isCurrent_iff _ _).1 hcurrent
  -- the marks would be the same
  rw [hold, ← hnew] at hmark
  simp only [Option.some.injEq] at hmark
  rw [hmark] at hnewer
  exact UInt64.lt_irrefl _ hnewer

/-- The last moment but one before the marks begin anew for the first time. -/
def nearTurn : Moment :=
  .ofSeconds 18446744073 709551614

/-- The moment at which the marks begin anew for the first time. -/
def firstTurn : Moment :=
  .ofSeconds 18446744073 709551616

/-- A folder with one file. -/
def shelf (modified : Moment) : World where
  files := { nodes := [(["t"], .folder), (["t", "a"], .file "in".toUTF8 modified)] }

theorem look_shelf (modified : Moment) :
    (shelf modified).files.look "t/a" = .ok (.file "in".toUTF8 modified)
      ∧ (shelf modified).files.locate "t//./a" = (shelf modified).files.locate "t/a" := by
  have hplain : (shelf modified).files.locate "t/a" = .ok ["t", "a"] :=
    Tree.locate_eq_ok_iff.2 ⟨Tree.checkPath_of_short (by simp) rfl (by decide), rfl⟩
  have hdotted : (shelf modified).files.locate "t//./a" = .ok ["t", "a"] :=
    Tree.locate_eq_ok_iff.2 ⟨Tree.checkPath_of_short (by simp) rfl (by decide), rfl⟩
  exact ⟨Tree.look_eq_ok_iff.2 ⟨_, hplain, rfl⟩, hdotted.trans hplain.symm⟩

/-- A store that lacks the file, and a loader for the folder. -/
def shelfLoader : Loader :=
  .composite [.memory 0, .rooted (some "t")]

/-- A file that is touched five seconds later is newer. At the first turn the later time has the
smaller mark. -/
theorem later_is_newer_shelf :
    (Moment.ofSeconds 1000000 0).nanoseconds < (Moment.ofSeconds 1000005 0).nanoseconds
      ∧ (Moment.ofSeconds 1000000 0).turn = (Moment.ofSeconds 1000005 0).turn
      ∧ 0 < (Moment.ofSeconds 1000005 0).nanoseconds
      ∧ (∃ old new, shelfLoader.fingerprint (shelf (.ofSeconds 1000000 0)) "/a" = .ok (some old)
          ∧ shelfLoader.fingerprint
              ((shelf (.ofSeconds 1000000 0)).touch "t//./a" (.ofSeconds 1000005 0)) "/a"
            = .ok (some new)
          ∧ old.value < new.value)
      ∧ nearTurn.turn ≠ firstTurn.turn
      ∧ (ofModified firstTurn).value < (ofModified nearTurn).value := by
  have hturn : (Moment.ofSeconds 1000000 0).turn = (Moment.ofSeconds 1000005 0).turn := by
    rw [Moment.turn_eq_zero (by decide), Moment.turn_eq_zero (by decide)]
  have hafter : 0 < (Moment.ofSeconds 1000005 0).nanoseconds := by decide
  obtain ⟨hlook, hlocate⟩ := look_shelf (.ofSeconds 1000000 0)
  have hreads : Loader.Reads (shelf (.ofSeconds 1000000 0)) "/a" "t/a" shelfLoader := by
    refine .further ?_ (.first [] (.rooted "t"))
    rw [Loader.fingerprint]
    rfl
  obtain ⟨old, new, hold, hnew, hless, -⟩ :=
    (((later_is_newer (by decide)).1 hturn).2 hafter).2 _ _ "/a" _ "t//./a" _ hreads hlook hlocate
  have hturned : nearTurn.turn ≠ firstTurn.turn := by decide
  exact ⟨by decide, hturn, hafter, ⟨old, new, hold, hnew, hless⟩, hturned,
    (later_is_newer (by decide)).2 hturned (by decide)⟩

/-- A later time after the epoch need not have a mark that is greater, nor one as great. -/
theorem smaller_at_firstTurn :
    nearTurn.nanoseconds < firstTurn.nanoseconds ∧ 0 < firstTurn.nanoseconds
      ∧ ¬ (ofModified nearTurn).value < (ofModified firstTurn).value
      ∧ ¬ (ofModified nearTurn).value ≤ (ofModified firstTurn).value := by
  decide

end Fingerprint

end LiveTemplates
