import LiveTemplates.Assoc
import LiveTemplates.Error
import LiveTemplates.Resource

set_option autoImplicit false

/-! # Sources kept in memory

A store keeps sources under canonical names. It numbers its revisions, and a source that is put in
is marked with the next number, so of two sources under one name the later has the greater mark.
A mark given from outside moves the number up to it. The numbers have 64 bits, and a call that finds
the last one used up breaks down. -/

namespace LiveTemplates

/-- A source in a store. -/
structure Stored where
  content : String
  fingerprint : Fingerprint
  deriving DecidableEq, Inhabited

/-- Sources under canonical names, and the number of the last revision. -/
structure MemoryStore where
  entries : List (String × Stored) := []
  revision : UInt64 := 0
  deriving DecidableEq, Inhabited

namespace MemoryStore

/-- The source under a name, which must be spelled as it is kept. -/
def find? (store : MemoryStore) (name : String) : Option Stored :=
  Assoc.find? name store.entries

/-- Put a source in under a canonical name with a mark. -/
def put (store : MemoryStore) (name content : String) (fingerprint : Fingerprint) : MemoryStore :=
  { entries := Assoc.set name ⟨content, fingerprint⟩ store.entries
    revision := max store.revision fingerprint.value }

/-- Put a source in with a mark. A name that cannot be used leaves the store as it is. -/
def insertMarked (store : MemoryStore) (spelling content : String) (fingerprint : Fingerprint) :
    MemoryStore × Except TemplateError Unit :=
  match Name.canonicalOrError spelling with
  | .ok name => (store.put name content fingerprint, .ok ())
  | .error e => (store, .error e)

/-- Whether there is a number after the last one that was used. -/
def HasNext (store : MemoryStore) : Prop :=
  store.revision.toNat + 1 < UInt64.size

instance (store : MemoryStore) : Decidable store.HasNext :=
  inferInstanceAs (Decidable (_ < _))

/-- A store that has used the next number up. After the last number it counts from zero again. -/
def count (store : MemoryStore) : MemoryStore :=
  { store with revision := store.revision + 1 }

/-- Put a source in and mark it with the next number, which is used up in any case. Without a next
number the call breaks down: it has no outcome, and puts nothing in. -/
def insert (store : MemoryStore) (spelling content : String) :
    MemoryStore × Option (Except TemplateError Fingerprint) :=
  if store.HasNext then
    let fingerprint : Fingerprint := ⟨store.count.revision⟩
    let (store, outcome) := store.count.insertMarked spelling content fingerprint
    (store, some (outcome.map fun _ => fingerprint))
  else (store.count, none)

/-- Take a source out, and whether it was there. -/
def remove (store : MemoryStore) (spelling : String) : MemoryStore × Bool :=
  match Name.canonical spelling with
  | .ok name =>
    ({ store with entries := Assoc.erase name store.entries }, (store.find? name).isSome)
  | .error _ => (store, false)

theorem find?_put (store : MemoryStore) (name content : String) (fingerprint : Fingerprint)
    (other : String) :
    (store.put name content fingerprint).find? other
      = if other = name then some ⟨content, fingerprint⟩ else store.find? other :=
  Assoc.find?_set ..

theorem insertMarked_of_ok {store : MemoryStore} {spelling name : String} (content : String)
    (mark : Fingerprint) (h : Name.canonicalOrError spelling = .ok name) :
    store.insertMarked spelling content mark = (store.put name content mark, .ok ()) := by
  rw [insertMarked, h]

theorem insertMarked_of_error {store : MemoryStore} {spelling : String} {e : TemplateError}
    (content : String) (mark : Fingerprint) (h : Name.canonicalOrError spelling = .error e) :
    store.insertMarked spelling content mark = (store, .error e) := by
  rw [insertMarked, h]

theorem insert_of_ok {store : MemoryStore} {spelling name : String} (content : String)
    (next : store.HasNext) (h : Name.canonicalOrError spelling = .ok name) :
    store.insert spelling content
      = (store.count.put name content ⟨store.revision + 1⟩, some (.ok ⟨store.revision + 1⟩)) := by
  rw [insert, if_pos next]
  dsimp only
  rw [insertMarked_of_ok content _ h]
  rfl

theorem insert_of_error {store : MemoryStore} {spelling : String} {e : TemplateError}
    (content : String) (next : store.HasNext) (h : Name.canonicalOrError spelling = .error e) :
    store.insert spelling content = (store.count, some (.error e)) := by
  rw [insert, if_pos next]
  dsimp only
  rw [insertMarked_of_error content _ h]
  rfl

theorem insert_of_last {store : MemoryStore} (spelling content : String)
    (last : ¬ store.HasNext) : store.insert spelling content = (store.count, none) := by
  rw [insert, if_neg last]

/-- What an insert leaves behind: the number is used up, and the source is in the store, with that
number for a mark, if there was a number and the name could be used. -/
theorem insert_fst_cases (store : MemoryStore) (spelling content : String) :
    (store.insert spelling content).1 = store.count
      ∨ ∃ name, Name.canonicalOrError spelling = .ok name
        ∧ (store.insert spelling content).1
            = store.count.put name content ⟨store.revision + 1⟩ := by
  by_cases next : store.HasNext
  · cases h : Name.canonicalOrError spelling with
    | ok name => exact .inr ⟨name, rfl, by rw [insert_of_ok content next h]⟩
    | error e => exact .inl (by rw [insert_of_error content next h])
  · exact .inl (by rw [insert_of_last spelling content next])

theorem revision_insert (store : MemoryStore) (spelling content : String) :
    (store.insert spelling content).1.revision = store.revision + 1 := by
  obtain h | ⟨name, -, h⟩ := store.insert_fst_cases spelling content
  · rw [h]
    rfl
  · rw [h]
    exact ite_self _

/-- A source that is put in bears the next number, and the others stay. -/
theorem find?_insert (store : MemoryStore) (spelling content other : String) :
    (store.insert spelling content).1.find? other = store.find? other
      ∨ Name.canonicalOrError spelling = .ok other
        ∧ (store.insert spelling content).1.find? other
            = some ⟨content, ⟨store.revision + 1⟩⟩ := by
  obtain h | ⟨name, hname, h⟩ := store.insert_fst_cases spelling content
  · exact .inl (by rw [h]; rfl)
  · rw [h]
    by_cases ho : other = name
    · subst ho
      exact .inr ⟨hname, (find?_put ..).trans (if_pos rfl)⟩
    · exact .inl ((find?_put ..).trans (if_neg ho))

theorem revision_remove (store : MemoryStore) (spelling : String) :
    (store.remove spelling).1.revision = store.revision := by
  unfold remove
  cases Name.canonical spelling <;> rfl

/-- The sources that are not taken out stay. -/
theorem find?_remove (store : MemoryStore) (spelling other : String) :
    (store.remove spelling).1.find? other = store.find? other
      ∨ Name.canonical spelling = .ok other
        ∧ (store.remove spelling).1.find? other = none := by
  unfold remove
  cases Name.canonical spelling with
  | ok name =>
      by_cases ho : other = name
      · subst ho
        exact .inr ⟨rfl, (Assoc.find?_erase ..).trans (if_pos rfl)⟩
      · exact .inl ((Assoc.find?_erase ..).trans (if_neg ho))
  | error fault => exact .inl rfl

/-- How many sources there are. -/
def size (store : MemoryStore) : Nat :=
  store.entries.length

/-- The source under a name as a resource. -/
def load (store : MemoryStore) (name : String) : Option Resource :=
  (store.find? name).map fun stored =>
    { name, content := stored.content, fingerprint := stored.fingerprint, origin := .memory }

/-- The mark of the source under a name. -/
def fingerprint (store : MemoryStore) (name : String) : Option Fingerprint :=
  (store.find? name).map Stored.fingerprint

end MemoryStore

end LiveTemplates
