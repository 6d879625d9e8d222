import LiveTemplates.Proofs.Name.Canonical
import Mathlib.Data.List.Infix

set_option autoImplicit false

/-! # Which segments a name keeps

A segment and a later `..` belong together like brackets: between them everything that is entered is
left again. The walk along the segments of a spelling, which keeps a stack of them, comes to what
this matching says (`walk_eq`): it climbs above the root exactly if some front of the segments has
more `..` than ordinary segments, and otherwise it keeps the segments that no later `..` takes back.
So the canonical names are the texts of a plain form, and each of them stands for itself
(`names_stay_below_root`). -/

namespace LiveTemplates

namespace Name

variable {segment : List Char} {kept parts rest : List (List Char)} {n : Nat}

/-! ## Counting `..` against ordinary segments -/

/-- Whether a segment counts: it is neither empty nor `.`. -/
def counts (segment : List Char) : Bool :=
  segment ≠ [] && segment ≠ ['.']

/-- Whether a segment leads back. -/
def isUp (segment : List Char) : Bool :=
  segment = ['.', '.']

/-- The segments of a spelling that count. -/
def steps (spelling : String) : List (List Char) :=
  (segments spelling).filter counts

/-- How many of the segments are `..`. -/
def ups (parts : List (List Char)) : Nat :=
  parts.countP isUp

/-- How many of the segments are ordinary. -/
def downs (parts : List (List Char)) : Nat :=
  parts.countP (!isUp ·)

/-- No front of the segments has more `..` than ordinary segments. -/
def StaysBelow (parts : List (List Char)) : Prop :=
  ∀ front, front <+: parts → ups front ≤ downs front

/-- Every segment that is entered is left again, and no other one. -/
structure Balanced (parts : List (List Char)) : Prop where
  below : StaysBelow parts
  level : ups parts = downs parts

/-- A segment is taken back by the `..` that matches it among those that come after it. -/
def TakenBack (rest : List (List Char)) : Prop :=
  ∃ inner, Balanced inner ∧ inner ++ [['.', '.']] <+: rest

/-- How far segments climb above where they begin. -/
def climb : List (List Char) → Nat
  | [] => 0
  | segment :: rest => if isUp segment then climb rest + 1 else climb rest - 1

@[simp] theorem ups_cons (segment : List Char) (rest : List (List Char)) :
    ups (segment :: rest) = ups rest + if isUp segment then 1 else 0 :=
  List.countP_cons

@[simp] theorem downs_cons (segment : List Char) (rest : List (List Char)) :
    downs (segment :: rest) = downs rest + if isUp segment then 0 else 1 := by
  unfold downs
  rw [List.countP_cons]
  cases isUp segment <;> rfl

/-- Segments climb as far as the front of them in which `..` is most ahead. -/
theorem climb_le_iff : climb parts ≤ n ↔ ∀ front, front <+: parts → ups front ≤ downs front + n := by
  induction parts generalizing n with
  | nil => simp [climb, ups]
  | cons segment rest ih =>
      have hfronts : (∀ front, front <+: segment :: rest → ups front ≤ downs front + n)
          ↔ ∀ front, front <+: rest → ups (segment :: front) ≤ downs (segment :: front) + n := by
        constructor
        · intro h front hfront
          exact h _ (List.cons_prefix_cons.2 ⟨rfl, hfront⟩)
        · intro h front hfront
          rcases List.prefix_cons_iff.1 hfront with rfl | ⟨front, rfl, hrest⟩
          · exact Nat.zero_le _
          · exact h front hrest
      rw [hfronts, climb]
      cases hup : isUp segment with
      | false =>
          simp only [ups_cons, downs_cons, hup, Bool.false_eq_true, if_false]
          rw [Nat.sub_le_iff_le_add, ih]
          refine forall₂_congr fun front _ => ?_
          omega
      | true =>
          simp only [ups_cons, downs_cons, hup, if_true]
          cases n with
          | zero =>
              -- the `..` at the start is already one too many
              refine iff_of_false (by omega) fun h => ?_
              have hnow := h [] List.nil_prefix
              simp [ups, downs] at hnow
          | succ n =>
              rw [Nat.add_le_add_iff_right, ih]
              refine forall₂_congr fun front _ => ?_
              omega

theorem staysBelow_iff : StaysBelow parts ↔ climb parts = 0 := by
  rw [← Nat.le_zero, climb_le_iff]
  rfl

/-- The first `..` that leads further up than `n` comes after as many more `..`. -/
theorem exists_of_lt_climb (h : n < climb rest) :
    ∃ inner, inner ++ [['.', '.']] <+: rest ∧ ups inner = downs inner + n
      ∧ ∀ front, front <+: inner → ups front ≤ downs front + n := by
  induction rest generalizing n with
  | nil => exact absurd h (Nat.not_lt_zero n)
  | cons segment rest ih =>
      rw [climb] at h
      cases hup : isUp segment with
      | false =>
          simp only [hup, Bool.false_eq_true, if_false] at h
          obtain ⟨inner, hinner, hlevel, hbelow⟩ := ih (Nat.add_lt_of_lt_sub h)
          refine ⟨segment :: inner, List.cons_prefix_cons.2 ⟨rfl, hinner⟩, ?_, ?_⟩
          · simp only [ups_cons, downs_cons, hup, Bool.false_eq_true, if_false]
            omega
          · intro front hfront
            rcases List.prefix_cons_iff.1 hfront with rfl | ⟨front, rfl, hrest⟩
            · exact Nat.zero_le _
            · have := hbelow front hrest
              simp only [ups_cons, downs_cons, hup, Bool.false_eq_true, if_false]
              omega
      | true =>
          cases n with
          | zero =>
              have hsegment : segment = ['.', '.'] := by simpa [isUp] using hup
              subst hsegment
              refine ⟨[], List.cons_prefix_cons.2 ⟨rfl, List.nil_prefix⟩, rfl, ?_⟩
              intro front hfront
              rw [List.prefix_nil.1 hfront]
              exact Nat.zero_le _
          | succ n =>
              simp only [hup, if_true] at h
              obtain ⟨inner, hinner, hlevel, hbelow⟩ := ih (Nat.lt_of_add_lt_add_right h)
              refine ⟨segment :: inner, List.cons_prefix_cons.2 ⟨rfl, hinner⟩, ?_, ?_⟩
              · simp only [ups_cons, downs_cons, hup, if_true]
                omega
              · intro front hfront
                rcases List.prefix_cons_iff.1 hfront with rfl | ⟨front, rfl, hrest⟩
                · exact Nat.zero_le _
                · have := hbelow front hrest
                  simp only [ups_cons, downs_cons, hup, if_true]
                  omega

/-- A segment is taken back exactly if what comes after it climbs. -/
theorem takenBack_iff : TakenBack rest ↔ 0 < climb rest := by
  constructor
  · rintro ⟨inner, ⟨-, hlevel⟩, hfront⟩
    by_contra hnone
    have hbelow := climb_le_iff.1 (Nat.not_lt.1 hnone) _ hfront
    have hups : ups (inner ++ [['.', '.']]) = ups inner + 1 := by simp [ups, isUp]
    have hdowns : downs (inner ++ [['.', '.']]) = downs inner := by simp [downs, isUp]
    omega
  · intro h
    obtain ⟨inner, hfront, hlevel, hbelow⟩ := exists_of_lt_climb h
    exact ⟨inner, ⟨hbelow, hlevel⟩, hfront⟩

instance (rest : List (List Char)) : Decidable (TakenBack rest) :=
  decidable_of_iff _ takenBack_iff.symm

instance (parts : List (List Char)) : Decidable (StaysBelow parts) :=
  decidable_of_iff _ staysBelow_iff.symm

/-! ## The walk -/

/-- The ordinary segments that no later `..` takes back, in order. -/
def remaining : List (List Char) → List (List Char)
  | [] => []
  | segment :: rest =>
    if isUp segment ∨ TakenBack rest then remaining rest else segment :: remaining rest

/-- A segment that does not count is passed over. -/
theorem walk_of_not_counts (h : counts segment = false) (kept rest : List (List Char)) :
    walk kept (segment :: rest) = walk kept rest := by
  have hpasses : segment = [] ∨ segment = ['.'] := by
    simpa [counts, or_iff_not_imp_left] using h
  rw [walk.eq_def]
  exact if_pos hpasses

/-- An ordinary segment is kept. -/
theorem walk_of_counts (hcounts : counts segment = true) (hdown : isUp segment = false)
    (kept rest : List (List Char)) : walk kept (segment :: rest) = walk (segment :: kept) rest := by
  have hpasses : ¬ (segment = [] ∨ segment = ['.']) := by simpa [counts] using hcounts
  have hordinary : segment ≠ ['.', '.'] := by simpa [isUp] using hdown
  rw [walk.eq_def]
  exact (if_neg hpasses).trans (if_neg hordinary)

/-- The walk sees none of the segments that do not count. -/
theorem walk_filter (kept parts : List (List Char)) :
    walk kept (parts.filter counts) = walk kept parts := by
  induction parts generalizing kept with
  | nil => rfl
  | cons segment rest ih =>
      cases hcounts : counts segment with
      | false =>
          rw [List.filter_cons_of_neg (by simp [hcounts]), walk_of_not_counts hcounts, ih]
      | true =>
          rw [List.filter_cons_of_pos hcounts]
          cases hup : isUp segment with
          | false => rw [walk_of_counts hcounts hup, walk_of_counts hcounts hup, ih]
          | true =>
              obtain rfl : segment = ['.', '.'] := by simpa [isUp] using hup
              cases kept with
              | nil => rfl
              | cons last kept => exact ih kept

/-- What a walk comes to: the stack loses as many segments as the walk climbs, and gets those that
are not taken back. -/
theorem walk_eq (counting : ∀ segment ∈ parts, counts segment = true)
    (kept : List (List Char)) :
    walk kept parts
      = if climb parts ≤ kept.length then
          .ok ((remaining parts).reverse ++ kept.drop (climb parts))
        else .error .climbs := by
  induction parts generalizing kept with
  | nil => rfl
  | cons segment rest ih =>
      have hrest := ih fun other hmem => counting other (List.mem_cons_of_mem _ hmem)
      have hcounts := counting segment List.mem_cons_self
      rw [climb, remaining]
      cases hup : isUp segment with
      | true =>
          obtain rfl : segment = ['.', '.'] := by simpa [isUp] using hup
          simp only [if_true, true_or]
          cases kept with
          | nil => rfl
          | cons last kept =>
              show walk kept rest = _
              rw [hrest]
              simp
      | false =>
          rw [walk_of_counts hcounts hup, hrest, List.length_cons]
          simp only [Bool.false_eq_true, if_false, false_or, takenBack_iff]
          cases hclimb : climb rest with
          | zero => simp
          | succ m => simp

/-- The canonical spelling of a name, by the matching of its segments. -/
theorem canonical_eq (spelling : String) :
    canonical spelling
      = if ¬ StaysBelow (steps spelling) then .error .climbs
        else if remaining (steps spelling) = [] then .error .empty
        else .ok (join (remaining (steps spelling))) := by
  have hwalk : walk [] (segments spelling)
      = if climb (steps spelling) ≤ 0 then .ok (remaining (steps spelling)).reverse
        else .error .climbs := by
    have hcounting : ∀ segment ∈ steps spelling, counts segment = true :=
      fun segment hmem => (List.mem_filter.1 hmem).2
    rw [← walk_filter]
    exact (walk_eq hcounting []).trans (by simp)
  unfold canonical
  by_cases hbelow : StaysBelow (steps spelling)
  · rw [hwalk, if_pos (staysBelow_iff.1 hbelow).le]
    simp [hbelow]
  · rw [hwalk, if_neg (by rwa [Nat.le_zero, ← staysBelow_iff])]
    simp [hbelow]

/-! ## Canonical texts -/

/-- A text in canonical form: it begins with a slash, has no backslash, and of the segments after
its slashes there is at least one and none is empty, `.` or `..`. -/
structure IsCanonical (name : String) : Prop where
  rooted : name.toList.head? = some '/'
  unmixed : '\\' ∉ name.toList
  occupied : (Text.splitAtChars (· = '/') name.toList).tail ≠ []
  plain : ∀ segment ∈ (Text.splitAtChars (· = '/') name.toList).tail,
    segment ≠ [] ∧ segment ≠ ['.'] ∧ segment ≠ ['.', '.']

/-- Texts in canonical form are those of plain segments. -/
theorem isCanonical_iff {name : String} :
    IsCanonical name ↔ ∃ parts, parts ≠ [] ∧ (∀ segment ∈ parts, Plain segment)
      ∧ name = join parts := by
  constructor
  · rintro ⟨rooted, unmixed, occupied, plain⟩
    obtain ⟨rest, hname⟩ := List.head?_eq_some_iff.1 rooted
    have hsplit : Text.splitAtChars (· = '/') name.toList
        = [] :: Text.splitAtChars (· = '/') rest := by
      rw [hname]
      exact Text.splitAtChars_cons_of_separator rfl rest
    rw [hsplit, List.tail_cons] at occupied plain
    refine ⟨_, occupied, ?_, ?_⟩
    · intro segment hmem
      obtain ⟨hoccupied, hhere, hup⟩ := plain segment hmem
      refine ⟨hoccupied, hhere, hup, fun c hc => ?_⟩
      have hslash := Text.unbroken_of_mem_splitAtChars hmem c hc
      have hback : c ≠ '\\' := by
        rintro rfl
        refine unmixed ?_
        rw [hname, ← Text.flatMap_splitAtChars '/', List.mem_flatMap]
        exact ⟨segment, hmem, List.mem_cons_of_mem _ hc⟩
      simpa [isSeparator, hback] using hslash
    · rw [join, Text.flatMap_splitAtChars '/', ← hname, String.ofList_toList]
  · rintro ⟨parts, occupied, plain, rfl⟩
    have hsplit := splitAtChars_join plain
    refine ⟨?_, ?_, ?_, ?_⟩
    · obtain ⟨first, rest, rfl⟩ := List.exists_cons_of_ne_nil occupied
      simp [join]
    · rw [join, String.toList_ofList, List.mem_flatMap]
      rintro ⟨segment, hmem, hback⟩
      rcases List.mem_cons.1 hback with hback | hback
      · cases hback
      · cases (plain segment hmem).unbroken _ hback
    · rwa [hsplit]
    · rw [hsplit, List.tail_cons]
      intro segment hmem
      exact ⟨(plain segment hmem).occupied, (plain segment hmem).not_here,
        (plain segment hmem).not_up⟩

/-- The text of segments has a slash at the start and one between any two of them. -/
theorem join_eq_intercalate (occupied : parts ≠ []) :
    join parts = "/" ++ "/".intercalate (parts.map String.ofList) := by
  rw [← String.toList_inj, join, String.toList_ofList]
  induction parts with
  | nil => exact absurd rfl occupied
  | cons first rest ih =>
      cases rest with
      | nil => simp
      | cons second rest =>
          rw [List.flatMap_cons, ih (List.cons_ne_nil second rest)]
          simp

/-! ## Names that stay below the root -/

/-- What the engine makes of a spelling, by the matching of its segments. -/
theorem canonicalOrError_eq (spelling : String) :
    canonicalOrError spelling
      = if ¬ StaysBelow (steps spelling) then .error (.invalidName spelling .climbs)
        else if remaining (steps spelling) = [] then .error (.invalidName spelling .empty)
        else .ok ("/" ++ "/".intercalate ((remaining (steps spelling)).map String.ofList)) := by
  rw [canonicalOrError, canonical_eq]
  by_cases hbelow : StaysBelow (steps spelling)
  · by_cases hnone : remaining (steps spelling) = []
    · simp only [hbelow, hnone, not_true_eq_false, if_true, if_false]
      rfl
    · simp only [hbelow, hnone, not_true_eq_false, if_false]
      rw [join_eq_intercalate hnone]
      rfl
  · simp only [hbelow, not_false_eq_true, if_true]
    rfl

theorem isCanonical_of_canonicalOrError {spelling name : String}
    (h : canonicalOrError spelling = .ok name) : IsCanonical name := by
  obtain ⟨parts, occupied, plain, is, -⟩ :=
    exists_plain_of_canonical (canonicalOrError_eq_ok_iff.1 h)
  exact isCanonical_iff.2 ⟨parts, occupied, plain, is⟩

theorem IsCanonical.canonicalOrError {name : String} (h : IsCanonical name) :
    canonicalOrError name = .ok name := by
  obtain ⟨parts, occupied, plain, rfl⟩ := isCanonical_iff.1 h
  exact canonicalOrError_eq_ok_iff.2 (canonical_join occupied plain)

/-- A spelling names something exactly if, of its segments that count, no front has more `..` than
ordinary segments, and an ordinary segment is left that no later `..` takes back; its canonical
spelling is then that of the segments that are left. Whether it climbs or names nothing is told by
different reasons. What is a canonical spelling at all, and what is its own, are the texts in
canonical form. -/
theorem names_stay_below_root (spelling : String) :
    ((∃ name, canonicalOrError spelling = .ok name)
        ↔ StaysBelow (steps spelling) ∧ remaining (steps spelling) ≠ [])
      ∧ canonicalOrError spelling
          = (if ¬ StaysBelow (steps spelling) then .error (.invalidName spelling .climbs)
            else if remaining (steps spelling) = [] then .error (.invalidName spelling .empty)
            else .ok ("/" ++ "/".intercalate ((remaining (steps spelling)).map String.ofList)))
      ∧ Fault.climbs.message = "climbs above the template root"
      ∧ Fault.empty.message = "does not name a resource"
      ∧ (canonicalOrError spelling = .ok spelling ↔ IsCanonical spelling)
      ∧ ((∃ other, canonicalOrError other = .ok spelling) ↔ IsCanonical spelling) := by
  have hequation := canonicalOrError_eq spelling
  refine ⟨?_, hequation, rfl, rfl, ?_, ?_⟩
  · rw [hequation]
    by_cases hbelow : StaysBelow (steps spelling)
    · by_cases hnone : remaining (steps spelling) = []
      · simp [hbelow, hnone]
      · simp [hbelow, hnone]
    · simp [hbelow]
  · exact ⟨isCanonical_of_canonicalOrError, IsCanonical.canonicalOrError⟩
  · constructor
    · rintro ⟨other, h⟩
      exact isCanonical_of_canonicalOrError h
    · intro h
      exact ⟨spelling, h.canonicalOrError⟩

/-- Both separators, segments that do not count, and `..` after what they take back. -/
example : canonicalOrError "a\\.\\b//c/../../d" = .ok "/a/d" := by rfl

end Name

end LiveTemplates
