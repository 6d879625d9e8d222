import LiveTemplates.Proofs.Name.Matching
import Mathlib.Logic.Relation

set_option autoImplicit false

/-! # Spellings of one name

A spelling may be changed wherever one of its segments begins or ends: by an empty segment, by `.`,
by a segment and a `..` right after it, or by the other separator. None of this makes a difference to
the name, nor to whether there is one and why not (`canonical_of_respells`). The walk along segments
is the walk along the first of them and then along the others from what it kept (`walk_append`), so
whatever a walk passes over from every stack can stand anywhere. For the same reason a spelling can
be replaced by its name where another one follows it. -/

namespace LiveTemplates

namespace Name

/-- A separator as a text. -/
def Slash (text : String) : Prop :=
  text = "/" ∨ text = "\\"

/-- Text that leads nowhere: nothing, `.`, or a segment that is entered and left again. -/
inductive Detour : String → Prop
  | nothing : Detour ""
  | here : Detour "."
  | around {segment slash : String} (plain : Plain segment.toList) (is : Slash slash) :
      Detour (segment ++ slash ++ "..")

/-- One spelling comes from another by one change at a place where a segment begins or ends. -/
inductive Respells : String → String → Prop
  | slash (front back : String) {old new : String} (was : Slash old) (is : Slash new) :
      Respells (front ++ old ++ back) (front ++ new ++ back)
  | start (back : String) {detour slash : String} (leads : Detour detour) (is : Slash slash) :
      Respells back (detour ++ slash ++ back)
  | finish (front : String) {slash detour : String} (is : Slash slash) (leads : Detour detour) :
      Respells front (front ++ slash ++ detour)
  | between (front back : String) {old new detour : String} (was : Slash old) (leads : Detour detour)
      (is : Slash new) :
      Respells (front ++ old ++ back) (front ++ old ++ detour ++ new ++ back)

/-- The segments of two spellings with a separator between them. -/
theorem segments_append {slash : String} (is : Slash slash) (first second : String) :
    segments (first ++ slash ++ second) = segments first ++ segments second := by
  unfold segments
  rcases is with rfl | rfl
  · have hlist : (first ++ "/" ++ second).toList = first.toList ++ '/' :: second.toList := by simp
    rw [hlist]
    exact Text.splitAtChars_append_separator rfl _ _
  · have hlist : (first ++ "\\" ++ second).toList = first.toList ++ '\\' :: second.toList := by simp
    rw [hlist]
    exact Text.splitAtChars_append_separator rfl _ _

/-- The walk along segments goes on from what it kept of the first of them. -/
theorem walk_append (kept first second : List (List Char)) :
    walk kept (first ++ second) = (walk kept first).bind fun kept => walk kept second := by
  induction first generalizing kept with
  | nil => rfl
  | cons segment rest ih =>
      rw [List.cons_append]
      cases hcounts : counts segment with
      | false => rw [walk_of_not_counts hcounts, walk_of_not_counts hcounts, ih]
      | true =>
          cases hup : isUp segment with
          | false => rw [walk_of_counts hcounts hup, walk_of_counts hcounts hup, ih]
          | true =>
              obtain rfl : segment = ['.', '.'] := by simpa [isUp] using hup
              cases kept with
              | nil => rfl
              | cons last kept => exact ih kept

/-- The walk comes back from a detour with what it had. -/
theorem walk_detour {detour : String} (leads : Detour detour) (kept : List (List Char)) :
    walk kept (segments detour) = .ok kept := by
  cases leads with
  | nothing => exact walk_of_not_counts rfl kept []
  | here => exact walk_of_not_counts rfl kept []
  | @around segment slash plain is =>
      have hsegment : segments segment = [segment.toList] :=
        Text.splitAtChars_of_unbroken plain.unbroken
      have hcounts : counts segment.toList = true := by
        simp [counts, plain.occupied, plain.not_here]
      have hdown : isUp segment.toList = false := by simp [isUp, plain.not_up]
      rw [segments_append is, hsegment, List.singleton_append, walk_of_counts hcounts hdown]
      rfl

/-- Spellings along which the walk keeps the same have the same name, or none for one reason. -/
theorem canonical_congr {first second : String}
    (h : walk [] (segments first) = walk [] (segments second)) :
    canonical first = canonical second := by
  unfold canonical
  rw [h]

theorem canonical_of_respells {first second : String} (h : Respells first second) :
    canonical first = canonical second := by
  refine canonical_congr ?_
  cases h with
  | slash front back was is => rw [segments_append was, segments_append is]
  | start back leads is =>
      rw [segments_append is, walk_append, walk_detour leads]
      rfl
  | finish front is leads =>
      rw [segments_append is, walk_append]
      cases walk [] (segments first) with
      | error fault => rfl
      | ok kept => exact (walk_detour leads kept).symm
  | between front back was leads is =>
      rw [segments_append is, segments_append was, segments_append was, List.append_assoc,
        walk_append, walk_append]
      congr 1
      funext kept
      rw [walk_append, walk_detour leads]
      rfl

/-- The walk keeps of a name what it keeps of its spellings. -/
theorem walk_of_canonical {spelling name : String} (h : canonical spelling = .ok name) :
    walk [] (segments name) = walk [] (segments spelling) := by
  obtain ⟨parts, -, plain, rfl, hwalk⟩ := exists_plain_of_canonical h
  rw [walk_join plain, hwalk]

/-- A spelling of a name may be replaced by the name where another spelling comes after it. And
whatever number of changes are made to a spelling where its segments begin and end, in whatever
order and direction, it stays a spelling of the same name, or remains none for the same reason. -/
theorem equivalent_spellings_share_name :
    (∀ spelling name other : String, canonical spelling = .ok name →
        canonical (spelling ++ "/" ++ other) = canonical (name ++ "/" ++ other))
      ∧ ∀ first second : String, Relation.EqvGen Respells first second →
        canonical first = canonical second := by
  constructor
  · intro spelling name other h
    refine canonical_congr ?_
    rw [segments_append (.inl rfl), segments_append (.inl rfl), walk_append, walk_append,
      walk_of_canonical h]
  · intro first second h
    induction h with
    | rel first second respells => exact canonical_of_respells respells
    | refl spelling => rfl
    | symm first second _ ih => exact ih.symm
    | trans first second third _ _ ih ih' => exact ih.trans ih'

/-- A spelling of `/docs` before one that leads out of it, and two spellings that climb. -/
theorem share_name_of_mixedSpellings :
    canonical "site\\..//docs" = .ok "/docs"
      ∧ canonical ("site\\..//docs" ++ "/" ++ "../b") = canonical ("/docs" ++ "/" ++ "../b")
      ∧ canonical ("/docs" ++ "/" ++ "../b") = .ok "/b"
      ∧ Relation.EqvGen Respells "a/../../b" "a\\c/../..\\../b"
      ∧ canonical "a/../../b" = canonical "a\\c/../..\\../b"
      ∧ canonical "a/../../b" = .error .climbs := by
  have hname : canonical "site\\..//docs" = .ok "/docs" := by rfl
  have hplain : Plain "c".toList := by constructor <;> simp [isSeparator]
  have hdetour : Respells "a/../../b" "a/c/../../../b" :=
    .between "a" "../../b" (.inl rfl) (.around hplain (.inl rfl)) (.inl rfl)
  have hfirst : Respells "a/c/../../../b" "a\\c/../../../b" :=
    .slash "a" "c/../../../b" (.inl rfl) (.inr rfl)
  have hsecond : Respells "a\\c/../..\\../b" "a\\c/../../../b" :=
    .slash "a\\c/../.." "../b" (.inr rfl) (.inl rfl)
  have hspellings : Relation.EqvGen Respells "a/../../b" "a\\c/../..\\../b" :=
    ((Relation.EqvGen.rel _ _ hdetour).trans _ _ _ (.rel _ _ hfirst)).trans _ _ _
      ((Relation.EqvGen.rel _ _ hsecond).symm _ _)
  exact ⟨hname, equivalent_spellings_share_name.1 _ _ _ hname, by rfl, hspellings,
    equivalent_spellings_share_name.2 _ _ hspellings, by rfl⟩

end Name

end LiveTemplates
