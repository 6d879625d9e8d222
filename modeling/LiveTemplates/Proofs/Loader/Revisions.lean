import LiveTemplates.Proofs.Loader.Marks
import Mathlib.Data.List.Induction

set_option autoImplicit false

/-! # A history of one store

All that is ever done to a store is to put sources in and to take them out. The number of its last
revision is no less than any mark under which a source was put in (`le_revision_of_put`), since a
mark from outside moves it up, so the next number is greater than all of them. What the argument
needs is that the number only grows (`Call.le_revision`), and it stops growing where an insert finds
the last number used up: that insert breaks down, and those that come after it are numbered from one
again, below marks that were given before. -/

namespace LiveTemplates

namespace MemoryStore

/-- Something that is done to a store. All handles of a store do it to the same one. -/
inductive Call where
  | insert (spelling content : String)
  | insertMarked (spelling content : String) (mark : Fingerprint)
  | remove (spelling : String)

namespace Call

/-- The name in a call, as it is spelled. -/
def spelling : Call → String
  | insert spelling _ => spelling
  | insertMarked spelling _ _ => spelling
  | remove spelling => spelling

/-- The store after a call. -/
def apply (store : MemoryStore) : Call → MemoryStore
  | insert spelling content => (store.insert spelling content).1
  | insertMarked spelling content mark => (store.insertMarked spelling content mark).1
  | remove spelling => (store.remove spelling).1

/-- The mark under which a call puts a source in, if it does. -/
def stamp? (store : MemoryStore) : Call → Option Fingerprint
  | insert spelling content => (store.insert spelling content).2.bind Except.toOption
  | insertMarked spelling content mark =>
    ((store.insertMarked spelling content mark).2.map fun _ => mark).toOption
  | remove _ => none

/-- A number is left for the call if it uses one. -/
def HasRoom (store : MemoryStore) : Call → Prop
  | insert _ _ => store.HasNext
  | insertMarked _ _ _ => True
  | remove _ => True

instance (store : MemoryStore) : (call : Call) → Decidable (call.HasRoom store)
  | insert _ _ => inferInstanceAs (Decidable store.HasNext)
  | insertMarked _ _ _ => isTrue trivial
  | remove _ => isTrue trivial

end Call

/-- A store that was empty, after some calls. -/
def after (calls : List Call) : MemoryStore :=
  calls.foldl Call.apply {}

/-- One of the calls has put a source in under a mark. The source may be gone since. -/
def Put (calls : List Call) (mark : Fingerprint) : Prop :=
  ∃ past call, past ++ [call] <+: calls ∧ call.stamp? (after past) = some mark

/-- No call that uses a number has found the last one used up. -/
def Lasts (calls : List Call) : Prop :=
  ∀ past call, past ++ [call] <+: calls → call.HasRoom (after past)

/-! ## One call -/

variable {store : MemoryStore} {spelling content : String} {mark : Fingerprint}

theorem entries_remove_of_error {e : TemplateError}
    (h : Name.canonicalOrError spelling = .error e) :
    (store.remove spelling).1.entries = store.entries := by
  unfold remove
  unfold Name.canonicalOrError at h
  cases hname : Name.canonical spelling with
  | ok name =>
      rw [hname] at h
      cases h
  | error fault => rfl

theorem le_revision_put (store : MemoryStore) (name content : String) (mark : Fingerprint) :
    store.revision ≤ (store.put name content mark).revision
      ∧ mark.value ≤ (store.put name content mark).revision := by
  show store.revision ≤ (if store.revision ≤ mark.value then mark.value else store.revision)
    ∧ mark.value ≤ (if store.revision ≤ mark.value then mark.value else store.revision)
  by_cases hle : store.revision ≤ mark.value
  · rw [if_pos hle]
    exact ⟨hle, UInt64.le_refl _⟩
  · rw [if_neg hle]
    exact ⟨UInt64.le_refl _, (UInt64.le_total mark.value store.revision).resolve_right hle⟩

namespace Call

variable {call : Call}

/-- The number only grows, as long as there is a next one. -/
theorem le_revision (room : call.HasRoom store) :
    store.revision ≤ (call.apply store).revision := by
  cases call with
  | insert spelling content =>
      have hrevision := toNat_revision_insert room spelling content
      rw [UInt64.le_iff_toNat_le]
      show store.revision.toNat ≤ (store.insert spelling content).1.revision.toNat
      omega
  | insertMarked spelling content mark =>
      show store.revision ≤ (store.insertMarked spelling content mark).1.revision
      cases h : Name.canonicalOrError spelling with
      | ok name =>
          rw [insertMarked_of_ok content mark h]
          exact (le_revision_put store name content mark).1
      | error e =>
          rw [insertMarked_of_error content mark h]
          exact UInt64.le_refl _
  | remove spelling =>
      show store.revision ≤ (store.remove spelling).1.revision
      rw [revision_remove]
      exact UInt64.le_refl _

/-- The number is moved up to the mark under which a source is put in. -/
theorem stamp_le_revision (h : call.stamp? store = some mark) :
    mark.value ≤ (call.apply store).revision := by
  cases call with
  | insert spelling content =>
      show mark.value ≤ (store.insert spelling content).1.revision
      replace h : (store.insert spelling content).2.bind Except.toOption = some mark := h
      by_cases next : store.HasNext
      · cases hname : Name.canonicalOrError spelling with
        | ok name =>
            rw [insert_of_ok content next hname] at h ⊢
            cases h
            exact (le_revision_put _ name content _).2
        | error e =>
            rw [insert_of_error content next hname] at h
            cases h
      · rw [insert_of_last spelling content next] at h
        cases h
  | insertMarked spelling content given =>
      show mark.value ≤ (store.insertMarked spelling content given).1.revision
      replace h :
        ((store.insertMarked spelling content given).2.map fun _ => given).toOption = some mark := h
      cases hname : Name.canonicalOrError spelling with
      | ok name =>
          rw [insertMarked_of_ok content given hname] at h ⊢
          cases h
          exact (le_revision_put store name content given).2
      | error e =>
          rw [insertMarked_of_error content given hname] at h
          cases h
  | remove spelling => cases h

/-- A call that is refused for its name puts nothing in and takes nothing out. -/
theorem refused {e : TemplateError} (h : Name.canonicalOrError call.spelling = .error e) :
    call.stamp? store = none ∧ (call.apply store).entries = store.entries := by
  cases call with
  | insert name content =>
      replace h : Name.canonicalOrError name = .error e := h
      by_cases next : store.HasNext
      · rw [stamp?, apply, insert_of_error content next h]
        exact ⟨rfl, rfl⟩
      · rw [stamp?, apply, insert_of_last name content next]
        exact ⟨rfl, rfl⟩
  | insertMarked name content mark =>
      replace h : Name.canonicalOrError name = .error e := h
      rw [stamp?, apply, insertMarked_of_error content mark h]
      exact ⟨rfl, rfl⟩
  | remove spelling => exact ⟨rfl, entries_remove_of_error h⟩

end Call

/-! ## A history -/

variable {calls : List Call} {call : Call}

theorem after_append_singleton (calls : List Call) (call : Call) :
    after (calls ++ [call]) = call.apply (after calls) := by
  unfold after
  rw [List.foldl_append]
  rfl

theorem lasts_nil : Lasts [] := by
  intro past call hpast
  simp at hpast

/-- A call of a longer history is the last one, or one of those before it. -/
theorem append_singleton_prefix_iff {past : List Call} {other : Call} :
    past ++ [other] <+: calls ++ [call]
      ↔ (past = calls ∧ other = call) ∨ past ++ [other] <+: calls := by
  rw [List.prefix_concat_iff]
  refine or_congr_left ⟨fun hwhole => ?_, ?_⟩
  · obtain ⟨rfl, hlast⟩ := List.append_inj' hwhole rfl
    cases hlast
    exact ⟨rfl, rfl⟩
  · rintro ⟨rfl, rfl⟩
    rfl

theorem lasts_append_singleton :
    Lasts (calls ++ [call]) ↔ Lasts calls ∧ call.HasRoom (after calls) := by
  constructor
  · intro lasts
    refine ⟨fun past other hpast => ?_, lasts calls call (List.prefix_refl _)⟩
    exact lasts past other (hpast.trans (List.prefix_append _ _))
  · rintro ⟨lasts, room⟩ past other hpast
    rcases append_singleton_prefix_iff.1 hpast with ⟨rfl, rfl⟩ | hearlier
    · exact room
    · exact lasts past other hearlier

theorem put_append_singleton :
    Put (calls ++ [call]) mark ↔ Put calls mark ∨ call.stamp? (after calls) = some mark := by
  constructor
  · rintro ⟨past, other, hpast, hstamp⟩
    rcases append_singleton_prefix_iff.1 hpast with ⟨rfl, rfl⟩ | hearlier
    · exact .inr hstamp
    · exact .inl ⟨past, other, hearlier, hstamp⟩
  · rintro (⟨past, other, hpast, hstamp⟩ | hstamp)
    · exact ⟨past, other, hpast.trans (List.prefix_append _ _), hstamp⟩
    · exact ⟨calls, call, List.prefix_refl _, hstamp⟩

/-- The number of a store is no less than the marks under which sources were put in. -/
theorem le_revision_of_put (lasts : Lasts calls) (put : Put calls mark) :
    mark.value ≤ (after calls).revision := by
  induction calls using List.reverseRecOn with
  | nil =>
      obtain ⟨past, call, hpast, -⟩ := put
      simp at hpast
  | append_singleton calls call ih =>
      obtain ⟨hbefore, room⟩ := lasts_append_singleton.1 lasts
      rw [after_append_singleton]
      rcases put_append_singleton.1 put with hearlier | hnow
      · exact UInt64.le_trans (ih hbefore hearlier) (Call.le_revision room)
      · exact Call.stamp_le_revision hnow

/-- A source that is put in without a mark bears one that is greater than all marks under which
sources were ever put in, as long as the numbers last. Without a next number the call breaks down:
it puts nothing in, and the numbers begin anew. A call that is refused for its name puts nothing in
and takes nothing out. -/
theorem inserts_rise (calls : List Call) :
    (∀ spelling content name, Name.canonicalOrError spelling = .ok name →
        (after calls).HasNext →
        ∃ mark, ((after calls).insert spelling content).2 = some (.ok mark)
          ∧ (after (calls ++ [.insert spelling content])).find? name = some ⟨content, mark⟩
          ∧ (Lasts calls → ∀ earlier, Put calls earlier → earlier.value < mark.value))
      ∧ (∀ spelling content, ¬ (after calls).HasNext →
          ((after calls).insert spelling content).2 = none
            ∧ (after (calls ++ [.insert spelling content])).entries = (after calls).entries
            ∧ (after (calls ++ [.insert spelling content])).revision = 0)
      ∧ ∀ (call : Call) (e : TemplateError), Name.canonicalOrError call.spelling = .error e →
          call.stamp? (after calls) = none
            ∧ (call.apply (after calls)).entries = (after calls).entries := by
  refine ⟨?_, ?_, fun call e h => Call.refused h⟩
  · intro spelling content name hname next
    refine ⟨⟨(after calls).revision + 1⟩, ?_, ?_, ?_⟩
    · rw [insert_of_ok content next hname]
    · rw [after_append_singleton, Call.apply, insert_of_ok content next hname, find?_put,
        if_pos rfl]
    · intro lasts earlier put
      have hle := UInt64.le_iff_toNat_le.1 (le_revision_of_put lasts put)
      have hnext := toNat_revision_insert next spelling content
      rw [revision_insert] at hnext
      show earlier.value < (after calls).revision + 1
      rw [UInt64.lt_iff_toNat_lt]
      omega
  · intro spelling content last
    have hinsert := insert_of_last spelling content last
    refine ⟨by rw [hinsert], ?_, ?_⟩
    · rw [after_append_singleton, Call.apply, hinsert]
      rfl
    · rw [after_append_singleton, Call.apply, hinsert]
      have hlast : (after calls).revision.toNat + 1 = UInt64.size :=
        Nat.le_antisymm (after calls).revision.toNat_lt (Nat.le_of_not_lt last)
      show (after calls).revision + 1 = 0
      rw [← UInt64.toNat_inj, UInt64.toNat_add, UInt64.toNat_one, hlast]
      rfl

/-- A source under a mark close to the last number, a call that is refused and uses the next number
up, and the source taken out again. -/
def nearlySpent : List Call :=
  [.insertMarked "a" "x" ⟨0xfffffffffffffffd⟩, .insert "../x" "y", .remove "a"]

/-- The last number is still greater than the mark of the source that is gone. The call after that
breaks down. -/
theorem rise_of_nearlySpent :
    Lasts nearlySpent
      ∧ Put nearlySpent ⟨0xfffffffffffffffd⟩
      ∧ (∃ mark, ((after nearlySpent).insert "b" "z").2 = some (.ok mark)
          ∧ 0xfffffffffffffffd < mark.value)
      ∧ ((after nearlySpent).insert "../x" "z").1.entries = (after nearlySpent).entries
      ∧ ((after (nearlySpent ++ [.insert "b" "z"])).insert "b" "z").2 = none := by
  have hlasts : Lasts nearlySpent := by
    show Lasts ([] ++ [_] ++ [_] ++ [_])
    simp only [lasts_append_singleton]
    exact ⟨⟨⟨lasts_nil, trivial⟩, by decide⟩, trivial⟩
  have hput : Put nearlySpent ⟨0xfffffffffffffffd⟩ :=
    ⟨[], .insertMarked "a" "x" ⟨0xfffffffffffffffd⟩, ⟨_, rfl⟩, rfl⟩
  obtain ⟨haccepted, -, hrefused⟩ := inserts_rise nearlySpent
  obtain ⟨mark, hmark, -, hgreater⟩ := haccepted "b" "z" "/b" rfl (by decide)
  refine ⟨hlasts, hput, ⟨mark, hmark, hgreater hlasts _ hput⟩,
    (hrefused (.insert "../x" "z") _ rfl).2, ?_⟩
  exact ((inserts_rise (nearlySpent ++ [.insert "b" "z"])).2.1 "b" "z" (by decide)).1

/-- A source under the last number but one, a call that is refused and uses the last one, and one
that breaks down. -/
def spent : List Call :=
  [.insertMarked "a" "x" ⟨0xfffffffffffffffe⟩, .insert "../x" "y", .insert "b" "z"]

/-- Where the numbers were used up, a source is put in under a mark that is less than one that was
given before. -/
theorem one_of_spent :
    Put spent ⟨0xfffffffffffffffe⟩
      ∧ ((after (spent.take 2)).insert "b" "z").2 = none
      ∧ ((after spent).insert "b" "z").2 = some (.ok ⟨1⟩)
      ∧ ¬ ((0xfffffffffffffffe : UInt64) < 1) := by
  refine ⟨⟨[], .insertMarked "a" "x" ⟨0xfffffffffffffffe⟩, ⟨_, rfl⟩, rfl⟩, rfl, rfl, by decide⟩

end MemoryStore

end LiveTemplates
