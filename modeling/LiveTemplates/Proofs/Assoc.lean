import LiveTemplates.Assoc
import Mathlib.Data.List.Nodup

set_option autoImplicit false

/-! # Entries and their keys

What `set` and `erase` do to the entries of a list as a whole. In a list where every entry has a key
of its own, every entry counts, and both leave it so. -/

namespace LiveTemplates

namespace Assoc

variable {κ α β : Type} [DecidableEq κ]

/-! ## Entries that are set -/

/-- What is the same of the old entry of a key and of the new one shows no difference. -/
theorem map_set (view : κ × α → β) {key : κ} {old : α} (value : α) {entries : List (κ × α)}
    (h : find? key entries = some old) (same : view (key, value) = view (key, old)) :
    (set key value entries).map view = entries.map view := by
  induction entries with
  | nil => cases h
  | cons entry rest ih =>
      obtain ⟨k, v⟩ := entry
      unfold find? at h
      unfold set
      split at h
      · next hk =>
          subst hk
          cases h
          simp [same]
      · next hk => simp [hk, ih h]

/-- Of the entries that pass a test there is one more if the new entry of a key passes it, and one
less if the old one did. -/
theorem countP_set (test : κ × α → Bool) {key : κ} {old : α} (value : α) {entries : List (κ × α)}
    (h : find? key entries = some old) :
    (set key value entries).countP test + (test (key, old)).toNat
      = entries.countP test + (test (key, value)).toNat := by
  induction entries with
  | nil => cases h
  | cons entry rest ih =>
      obtain ⟨k, v⟩ := entry
      unfold find? at h
      unfold set
      split at h
      · next hk =>
          subst hk
          cases h
          rw [if_pos rfl, List.countP_cons, List.countP_cons]
          cases test (k, old) <;> cases test (k, value) <;> simp
      · next hk =>
          rw [if_neg hk, List.countP_cons, List.countP_cons]
          have hrest := ih h
          omega

/-! ## Keys -/

theorem mem_keys_of_find? {key : κ} {value : α} {entries : List (κ × α)}
    (h : find? key entries = some value) : key ∈ entries.map Prod.fst := by
  induction entries with
  | nil => cases h
  | cons entry rest ih =>
      obtain ⟨k, v⟩ := entry
      by_cases hk : k = key
      · simp [hk]
      · rw [find?, if_neg hk] at h
        exact List.mem_cons_of_mem _ (ih h)

theorem find?_isSome_of_mem {key : κ} {entries : List (κ × α)}
    (h : key ∈ entries.map Prod.fst) : (find? key entries).isSome = true := by
  induction entries with
  | nil => cases h
  | cons entry rest ih =>
      obtain ⟨k, v⟩ := entry
      by_cases hk : k = key
      · simp [find?, hk]
      · rw [find?, if_neg hk]
        rcases List.mem_cons.1 h with heq | hmem
        · exact absurd heq.symm hk
        · exact ih hmem

theorem erase_of_not_mem {key : κ} {entries : List (κ × α)} (h : key ∉ entries.map Prod.fst) :
    erase key entries = entries := by
  refine List.filter_eq_self.2 fun entry hmem => ?_
  simp only [decide_eq_true_eq]
  exact fun he => h (he ▸ List.mem_map_of_mem hmem)

/-- Of entries with keys of their own one goes with its key. -/
theorem length_erase {key : κ} {entries : List (κ × α)} (own : (entries.map Prod.fst).Nodup)
    (h : key ∈ entries.map Prod.fst) : (erase key entries).length + 1 = entries.length := by
  induction entries with
  | nil => cases h
  | cons entry rest ih =>
      obtain ⟨k, v⟩ := entry
      rw [List.map_cons, List.nodup_cons] at own
      by_cases hk : k = key
      · have hrest : erase key ((k, v) :: rest) = erase key rest :=
          List.filter_cons_of_neg (by simpa using hk)
        rw [hrest, erase_of_not_mem (hk ▸ own.1), List.length_cons]
      · have hmem : key ∈ rest.map Prod.fst := by
          rcases List.mem_cons.1 h with heq | hmem
          · exact absurd heq.symm hk
          · exact hmem
        have hrest : erase key ((k, v) :: rest) = (k, v) :: erase key rest :=
          List.filter_cons_of_pos (by simpa using hk)
        rw [hrest, List.length_cons, List.length_cons, ih own.2 hmem]

theorem nodup_erase {key : κ} {entries : List (κ × α)} (own : (entries.map Prod.fst).Nodup) :
    ((erase key entries).map Prod.fst).Nodup :=
  own.sublist (List.filter_sublist.map Prod.fst)

theorem nodup_set (key : κ) (value : α) {entries : List (κ × α)}
    (own : (entries.map Prod.fst).Nodup) : ((set key value entries).map Prod.fst).Nodup := by
  induction entries with
  | nil => exact List.nodup_singleton key
  | cons entry rest ih =>
      obtain ⟨k, v⟩ := entry
      rw [List.map_cons, List.nodup_cons] at own
      unfold set
      split
      · next hk => exact List.nodup_cons.2 ⟨hk ▸ own.1, own.2⟩
      · next hk =>
          refine List.nodup_cons.2 ⟨fun hmem => ?_, ih own.2⟩
          obtain ⟨other, hother, heq⟩ := List.mem_map.1 hmem
          rcases mem_set hother with rfl | hrest
          · exact hk heq.symm
          · exact own.1 (List.mem_map.2 ⟨other, hrest, heq⟩)

/-- An entry with a key of its own is the one that counts. -/
theorem find?_of_mem {key : κ} {value : α} {entries : List (κ × α)}
    (own : (entries.map Prod.fst).Nodup) (h : (key, value) ∈ entries) :
    find? key entries = some value := by
  induction entries with
  | nil => cases h
  | cons entry rest ih =>
      obtain ⟨k, v⟩ := entry
      rw [List.map_cons, List.nodup_cons] at own
      rcases List.mem_cons.1 h with heq | hmem
      · cases heq
        exact if_pos rfl
      · have hk : k ≠ key := by
          rintro rfl
          exact own.1 (List.mem_map.2 ⟨_, hmem, rfl⟩)
        exact (if_neg hk).trans (ih own.2 hmem)

end Assoc

end LiveTemplates
