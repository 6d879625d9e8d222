set_option autoImplicit false

/-! # Association lists

An unordered finite map from keys to values as a list of entries. The first entry of a key
counts; `set` keeps one entry per key, `erase` removes every entry of a key. -/

namespace LiveTemplates

namespace Assoc

variable {κ α : Type} [DecidableEq κ]

/-- The value stored under a key. -/
def find? (key : κ) : List (κ × α) → Option α
  | [] => none
  | (k, v) :: rest => if k = key then some v else find? key rest

/-- Store a value under a key, in place of an earlier one. -/
def set (key : κ) (value : α) : List (κ × α) → List (κ × α)
  | [] => [(key, value)]
  | (k, v) :: rest => if k = key then (key, value) :: rest else (k, v) :: set key value rest

/-- Remove a key. -/
def erase (key : κ) (entries : List (κ × α)) : List (κ × α) :=
  entries.filter fun entry => decide (entry.1 ≠ key)

theorem mem_of_find? {key : κ} {value : α} {entries : List (κ × α)}
    (h : find? key entries = some value) : (key, value) ∈ entries := by
  induction entries with
  | nil => cases h
  | cons entry rest ih =>
      obtain ⟨k, v⟩ := entry
      unfold find? at h
      split at h
      · next hk =>
          cases h
          exact hk ▸ List.mem_cons_self
      · exact List.mem_cons_of_mem _ (ih h)

/-- An entry is the one that was set, or was there before. -/
theorem mem_set {key : κ} {value : α} {entries : List (κ × α)} {entry : κ × α}
    (h : entry ∈ set key value entries) : entry = (key, value) ∨ entry ∈ entries := by
  induction entries with
  | nil => exact .inl (List.mem_singleton.1 h)
  | cons first rest ih =>
      unfold set at h
      split at h
      · rcases List.mem_cons.1 h with h | h
        · exact .inl h
        · exact .inr (List.mem_cons_of_mem _ h)
      · rcases List.mem_cons.1 h with h | h
        · exact .inr (h ▸ List.mem_cons_self)
        · exact (ih h).imp_right (List.mem_cons_of_mem _)

theorem find?_set (key other : κ) (value : α) (entries : List (κ × α)) :
    find? other (set key value entries)
      = if other = key then some value else find? other entries := by
  induction entries with
  | nil => by_cases h : key = other <;> grind [set, find?]
  | cons entry rest ih => grind [set, find?]

theorem find?_erase (key other : κ) (entries : List (κ × α)) :
    find? other (erase key entries) = if other = key then none else find? other entries := by
  induction entries with
  | nil => simp [erase, find?]
  | cons entry rest ih => grind [erase, find?]

theorem find?_append (key : κ) (first second : List (κ × α)) :
    find? key (first ++ second) = (find? key first).or (find? key second) := by
  induction first with
  | nil => simp [find?]
  | cons entry rest ih => grind [find?]

theorem find?_filter (test : κ → Bool) (key : κ) (entries : List (κ × α)) :
    find? key (entries.filter fun entry => test entry.1)
      = if test key then find? key entries else none := by
  induction entries with
  | nil => simp [find?]
  | cons entry rest ih => grind [find?]

end Assoc

end LiveTemplates
