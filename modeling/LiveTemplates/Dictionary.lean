set_option autoImplicit false

/-! # Dictionaries

A dictionary is a list of entries with text keys, kept in key order with one entry per key. Two
dictionaries with the same entries are therefore equal, whatever the order in which the entries
were put in. The functions below are on the bare list, so that a type may hold dictionaries of
itself. -/

namespace LiveTemplates

/-- Entries in key order, one per key. -/
abbrev Dictionary (α : Type) := List (String × α)

namespace Dictionary

variable {α : Type}

/-- The value stored under a key. -/
def find? (key : String) : List (String × α) → Option α
  | [] => none
  | (k, v) :: rest => if k = key then some v else find? key rest

/-- Store a value under a key, in place of an earlier one. -/
def insert (key : String) (value : α) : List (String × α) → List (String × α)
  | [] => [(key, value)]
  | (k, v) :: rest =>
    if key = k then (key, value) :: rest
    else if key < k then (key, value) :: (k, v) :: rest
    else (k, v) :: insert key value rest

/-- The dictionary of a list of entries; of two entries with one key the later counts. -/
def ofList (entries : List (String × α)) : List (String × α) :=
  entries.foldl (fun table entry => insert entry.1 entry.2 table) []

/-- Put all entries of one dictionary into another. -/
def merge (entries table : List (String × α)) : List (String × α) :=
  entries.foldl (fun result entry => insert entry.1 entry.2 result) table

/-- The keys, in order. -/
def keys (table : List (String × α)) : List String :=
  table.map Prod.fst

theorem find?_insert (key other : String) (value : α) (table : List (String × α)) :
    find? other (insert key value table)
      = if other = key then some value else find? other table := by
  induction table with
  | nil => by_cases h : other = key <;> simp [insert, find?, h, Ne.symm]
  | cons entry rest ih =>
    obtain ⟨k, v⟩ := entry
    simp only [insert]
    grind [find?]

end Dictionary

end LiveTemplates
