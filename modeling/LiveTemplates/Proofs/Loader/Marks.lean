import LiveTemplates.Loader.Memory
import Mathlib.Algebra.Group.Nat.Defs

set_option autoImplicit false

/-! # Marks of sources in memory

A store gives each source that is put in a mark greater than all before, as long as its numbers do
not run out. So of two states of a store, whatever the later one has under a mark that the earlier
one had given out was there already (`MemoryStore.Follows`). -/

namespace LiveTemplates

namespace MemoryStore

/-- No source bears a mark that has not been given out. -/
def Bounded (store : MemoryStore) : Prop :=
  ∀ name stored, store.find? name = some stored → stored.fingerprint.value ≤ store.revision

/-- One state of a store comes after another: it has given out no fewer marks, and of those that
the other had given out it knows nothing new. -/
structure Follows (later earlier : MemoryStore) : Prop where
  revision_le : earlier.revision ≤ later.revision
  kept : ∀ {name stored}, later.find? name = some stored →
    stored.fingerprint.value ≤ earlier.revision → earlier.find? name = some stored

variable {store : MemoryStore}

theorem bounded_empty : ({} : MemoryStore).Bounded := nofun

theorem Follows.refl (store : MemoryStore) : store.Follows store where
  revision_le := UInt64.le_refl _
  kept h _ := h

theorem Follows.trans {first second third : MemoryStore} (h₂ : third.Follows second)
    (h₁ : second.Follows first) : third.Follows first where
  revision_le := UInt64.le_trans h₁.revision_le h₂.revision_le
  kept h hle := h₁.kept (h₂.kept h (UInt64.le_trans hle h₁.revision_le)) hle

/-- As long as the numbers do not run out, the next one is greater. -/
theorem toNat_revision_insert (room : store.revision.toNat + 1 < 2 ^ 64)
    (spelling content : String) :
    (store.insert spelling content).1.revision.toNat = store.revision.toNat + 1 := by
  rw [revision_insert, UInt64.toNat_add, UInt64.toNat_one]
  exact Nat.mod_eq_of_lt room

theorem Bounded.insert (bounded : store.Bounded) (room : store.revision.toNat + 1 < 2 ^ 64)
    (spelling content : String) : (store.insert spelling content).1.Bounded := by
  intro name stored h
  have hrevision := toNat_revision_insert room spelling content
  obtain hkept | ⟨-, hnew⟩ := store.find?_insert spelling content name
  · rw [hkept] at h
    have hle := UInt64.le_iff_toNat_le.1 (bounded name stored h)
    exact UInt64.le_iff_toNat_le.2 (by omega)
  · rw [hnew] at h
    cases h
    rw [revision_insert]
    exact UInt64.le_refl _

theorem follows_insert (room : store.revision.toNat + 1 < 2 ^ 64) (spelling content : String) :
    (store.insert spelling content).1.Follows store where
  revision_le := by
    have hrevision := toNat_revision_insert room spelling content
    exact UInt64.le_iff_toNat_le.2 (by omega)
  kept {name stored} h hle := by
    obtain hkept | ⟨-, hnew⟩ := store.find?_insert spelling content name
    · rwa [hkept] at h
    · -- a mark that has just been given out was not given out before
      rw [hnew] at h
      cases h
      have hrevision := toNat_revision_insert room spelling content
      rw [revision_insert] at hrevision
      have hle : (store.revision + 1).toNat ≤ store.revision.toNat :=
        UInt64.le_iff_toNat_le.1 hle
      omega

theorem Bounded.remove (bounded : store.Bounded) (spelling : String) :
    (store.remove spelling).1.Bounded := by
  intro name stored h
  rw [revision_remove]
  obtain hkept | ⟨-, hgone⟩ := store.find?_remove spelling name
  · rw [hkept] at h
    exact bounded name stored h
  · rw [hgone] at h
    cases h

theorem follows_remove (store : MemoryStore) (spelling : String) :
    (store.remove spelling).1.Follows store where
  revision_le := by
    rw [revision_remove]
    exact UInt64.le_refl _
  kept {name stored} h _ := by
    obtain hkept | ⟨-, hgone⟩ := store.find?_remove spelling name
    · rwa [hkept] at h
    · rw [hgone] at h
      cases h

/-! ## Stores as loaders -/

theorem load_eq_some_iff (name : String) (resource : Resource) :
    store.load name = some resource ↔ ∃ stored, store.find? name = some stored
      ∧ { name, content := stored.content, fingerprint := stored.fingerprint, origin := .memory }
        = resource := by
  unfold load
  exact Option.map_eq_some_iff

theorem fingerprint_eq_map_load (store : MemoryStore) (name : String) :
    store.fingerprint name = (store.load name).map Resource.fingerprint := by
  unfold fingerprint load
  rw [Option.map_map]
  rfl

/-- What a later state serves under a mark that an earlier one served has the same text. -/
theorem Follows.load {later earlier : MemoryStore} (follows : later.Follows earlier)
    (bounded : earlier.Bounded) {name : String} {resource : Resource}
    (hload : earlier.load name = some resource)
    (hmark : later.fingerprint name = some resource.fingerprint) :
    later.load name = some resource := by
  obtain ⟨stored, hfind, rfl⟩ := (load_eq_some_iff _ _).1 hload
  obtain ⟨found, hfound, hsame⟩ := Option.map_eq_some_iff.1 hmark
  have hle := bounded name stored hfind
  have hkept := follows.kept hfound (hsame ▸ hle)
  rw [hfind] at hkept
  cases hkept
  exact (load_eq_some_iff _ _).2 ⟨stored, hfound, rfl⟩

/-- Where two states of a store serve a name under one mark, they serve the same text. -/
def Alike (first second : MemoryStore) : Prop :=
  ∀ name resource other, first.load name = some resource → second.load name = some other →
    resource.fingerprint = other.fingerprint → resource.content = other.content

theorem Alike.refl (store : MemoryStore) : store.Alike store := by
  intro name resource other hload hother _
  rw [hload] at hother
  cases hother
  rfl

theorem Alike.symm {first second : MemoryStore} (alike : first.Alike second) :
    second.Alike first := by
  intro name resource other hload hother hmark
  exact (alike name other resource hother hload hmark.symm).symm

theorem Follows.alike {later earlier : MemoryStore} (follows : later.Follows earlier)
    (bounded : earlier.Bounded) : earlier.Alike later := by
  intro name resource other hload hother hmark
  have htold : later.fingerprint name = some resource.fingerprint := by
    rw [fingerprint_eq_map_load, hother, hmark]
    rfl
  have hkept := follows.load bounded hload htold
  rw [hother] at hkept
  cases hkept
  rfl

end MemoryStore

end LiveTemplates
