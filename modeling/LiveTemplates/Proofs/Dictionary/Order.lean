import LiveTemplates.Dictionary
import Mathlib.Data.List.Pairwise

set_option autoImplicit false

/-! # Dictionaries are in key order

Storing an entry keeps the keys strictly ascending (`ordered_insert`), so a dictionary that was put
together from entries has at most one of a key, and looking a key up is asking whether an entry is there
(`Ordered.find?_eq_some_iff`). Entries that are in order already stay as they are
(`ofList_of_ordered`). -/

namespace LiveTemplates

namespace Dictionary

variable {α : Type} {key : String} {value : α} {entry : String × α}
  {table entries : List (String × α)}

/-! ## What is stored -/

theorem mem_of_mem_insert (h : entry ∈ insert key value table) :
    entry = (key, value) ∨ entry ∈ table := by
  induction table with
  | nil => exact .inl (List.mem_singleton.1 h)
  | cons first rest ih =>
      simp only [insert] at h
      split at h
      · exact (List.mem_cons.1 h).imp_right (List.mem_cons_of_mem _)
      · split at h
        · exact List.mem_cons.1 h
        · rcases List.mem_cons.1 h with rfl | hrest
          · exact .inr List.mem_cons_self
          · exact (ih hrest).imp_right (List.mem_cons_of_mem _)

theorem mem_keys_insert (asked : String) :
    asked ∈ keys (insert key value table) ↔ asked = key ∨ asked ∈ keys table := by
  induction table with
  | nil => simp [insert, keys]
  | cons first rest ih =>
      simp only [keys] at ih ⊢
      simp only [insert]
      split
      · next hkey => simp [hkey]
      · split
        · simp
        · simp [ih, or_left_comm]

theorem mem_of_mem_merge (h : entry ∈ merge entries table) : entry ∈ entries ∨ entry ∈ table := by
  induction entries generalizing table with
  | nil => exact .inr h
  | cons first rest ih =>
      rcases ih h with hrest | htable
      · exact .inl (List.mem_cons_of_mem _ hrest)
      · rcases mem_of_mem_insert htable with rfl | hbefore
        · exact .inl List.mem_cons_self
        · exact .inr hbefore

theorem mem_keys_merge (asked : String) :
    asked ∈ keys (merge entries table) ↔ asked ∈ keys entries ∨ asked ∈ keys table := by
  induction entries generalizing table with
  | nil => simp [merge, keys]
  | cons first rest ih =>
      show asked ∈ keys (merge rest (insert first.1 first.2 table)) ↔ _
      rw [ih, mem_keys_insert]
      simp only [keys, List.map_cons, List.mem_cons]
      exact or_left_comm.trans or_assoc.symm

theorem mem_of_mem_ofList (h : entry ∈ ofList entries) : entry ∈ entries :=
  (mem_of_mem_merge h).resolve_right (by simp)

theorem mem_keys_ofList (asked : String) : asked ∈ keys (ofList entries) ↔ asked ∈ keys entries :=
  (mem_keys_merge asked).trans (by simp [keys])

/-! ## Order -/

/-- The keys are strictly ascending. -/
def Ordered (table : List (String × α)) : Prop :=
  table.Pairwise fun one other => one.1 < other.1

theorem ordered_insert (ordered : Ordered table) : Ordered (insert key value table) := by
  induction table with
  | nil => exact List.pairwise_singleton _ _
  | cons first rest ih =>
      obtain ⟨hfirst, hrest⟩ := List.pairwise_cons.1 ordered
      simp only [insert]
      split
      · next hkey => exact List.pairwise_cons.2 ⟨hkey ▸ hfirst, hrest⟩
      · next hkey =>
          split
          · next hbefore =>
              refine List.pairwise_cons.2 ⟨?_, ordered⟩
              intro other hother
              rcases List.mem_cons.1 hother with rfl | hother
              · exact hbefore
              · exact String.lt_trans hbefore (hfirst other hother)
          · next hbefore =>
              refine List.pairwise_cons.2 ⟨?_, ih hrest⟩
              intro other hother
              rcases mem_of_mem_insert hother with rfl | hother
              · exact Std.lt_of_le_of_ne (String.not_lt.1 hbefore) (Ne.symm hkey)
              · exact hfirst other hother

theorem ordered_merge (ordered : Ordered table) : Ordered (merge entries table) := by
  induction entries generalizing table with
  | nil => exact ordered
  | cons first rest ih => exact ih (ordered_insert ordered)

theorem ordered_ofList (entries : List (String × α)) : Ordered (ofList entries) :=
  ordered_merge List.Pairwise.nil

theorem insert_of_last (h : ∀ entry ∈ table, entry.1 < key) :
    insert key value table = table ++ [(key, value)] := by
  induction table with
  | nil => rfl
  | cons first rest ih =>
      obtain ⟨hfirst, hrest⟩ := List.forall_mem_cons.1 h
      have hkey : key ≠ first.1 := by
        rintro rfl
        exact String.lt_irrefl _ hfirst
      simp only [insert]
      rw [if_neg hkey, if_neg (String.lt_asymm hfirst), ih hrest, List.cons_append]

theorem merge_of_ordered (ordered : Ordered (table ++ entries)) :
    merge entries table = table ++ entries := by
  induction entries generalizing table with
  | nil => exact (List.append_nil table).symm
  | cons first rest ih =>
      have hsplit : table ++ first :: rest = table ++ [first] ++ rest := by simp
      have hlast : ∀ entry ∈ table, entry.1 < first.1 := fun entry hmem =>
        (List.pairwise_append.1 ordered).2.2 entry hmem first List.mem_cons_self
      show merge rest (insert first.1 first.2 table) = _
      rw [hsplit] at ordered ⊢
      rw [insert_of_last hlast]
      exact ih ordered

/-- Entries in key order are a dictionary already. -/
theorem ofList_of_ordered (ordered : Ordered entries) : ofList entries = entries :=
  merge_of_ordered (List.nil_append entries ▸ ordered)

theorem Ordered.find?_eq_some_iff (ordered : Ordered table) :
    find? key table = some value ↔ (key, value) ∈ table := by
  induction table with
  | nil => simp [find?]
  | cons first rest ih =>
      obtain ⟨hfirst, hrest⟩ := List.pairwise_cons.1 ordered
      obtain ⟨name, stored⟩ := first
      rw [find?, List.mem_cons]
      by_cases hname : name = key
      · subst hname
        have hlater : (name, value) ∉ rest := fun hmem =>
          String.lt_irrefl _ (hfirst (name, value) hmem)
        simp [hlater, eq_comm]
      · rw [if_neg hname, ih hrest]
        simp [Ne.symm hname]

end Dictionary

end LiveTemplates
