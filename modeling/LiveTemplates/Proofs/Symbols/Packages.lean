import LiveTemplates.Proofs.Name.Canonical
import LiveTemplates.Symbols.Provider
import Mathlib.Data.List.Basic

set_option autoImplicit false

/-! # Packages by their segments

The segments of a package stand between its dots. A scan asks of two texts whether one package is
the other or below it: whether they are the same, or the one begins with the other and a dot. That
is a matter of segments (`inPackage_iff`), wherever the dots stand and however many of them follow
each other. So of two scans the one with the wider packages finds no less (`scan_sublist`), and that
it is wider can be told from the segments alone. -/

namespace LiveTemplates

namespace Text

/-- The pieces of one text begin with those of another exactly if the texts are the same, or the one
begins with the other and a separator. -/
theorem splitAtChars_prefix_iff {separator : Char} {first second : List Char} :
    splitAtChars (· = separator) first <+: splitAtChars (· = separator) second
      ↔ second = first ∨ first ++ [separator] <+: second := by
  constructor
  · rintro ⟨pieces, hpieces⟩
    -- a text is its pieces again, so what comes after the common ones comes after the first text
    have hsecond : second = first ++ pieces.flatMap (separator :: ·) := by
      have htext := flatMap_splitAtChars separator second
      rw [← hpieces, List.flatMap_append, flatMap_splitAtChars, List.cons_append] at htext
      exact (List.tail_eq_of_cons_eq htext).symm
    cases pieces with
    | nil => exact .inl (by simpa using hsecond)
    | cons piece pieces =>
        refine .inr ⟨piece ++ pieces.flatMap (separator :: ·), ?_⟩
        simp [hsecond]
  · rintro (rfl | ⟨rest, rfl⟩)
    · exact List.prefix_refl _
    · refine ⟨splitAtChars (· = separator) rest, ?_⟩
      rw [List.append_assoc, List.singleton_append, splitAtChars_append_separator (by simp)]

end Text

namespace Provider

/-- The segments of a package: what stands between its dots, empty ones included. -/
def segments (package : String) : List (List Char) :=
  Text.splitAtChars (· = '.') package.toList

variable {provider : Provider} {providers : List Provider} {packages more : List String}

/-- A provider is in a package exactly if the segments of its own package begin with those of that
one. -/
theorem inPackage_iff {package : String} :
    provider.inPackage package = true ↔ segments package <+: segments provider.package := by
  rw [inPackage, isWithin, Bool.or_eq_true, beq_iff_eq, List.isPrefixOf_iff_prefix]
  exact Text.splitAtChars_prefix_iff.symm

theorem mem_scan_iff (given : packages ≠ []) :
    provider ∈ scan providers packages
      ↔ provider ∈ providers
        ∧ ∃ package ∈ packages, segments package <+: segments provider.package := by
  have hgiven : packages.isEmpty = false := by simpa using given
  simp only [scan, List.mem_filter, hgiven, Bool.false_or, List.any_eq_true, inPackage_iff]

/-- A scan finds no less if each package is one of those given then, or below one of them. -/
theorem scan_sublist (given : packages ≠ [])
    (wider : ∀ package ∈ packages, ∃ other ∈ more, segments other <+: segments package) :
    (scan providers packages).Sublist (scan providers more) := by
  have hgiven : packages.isEmpty = false := by simpa using given
  refine List.monotone_filter_right providers fun provider hfound => ?_
  rw [hgiven, Bool.false_or, List.any_eq_true] at hfound
  obtain ⟨package, hmem, hwithin⟩ := hfound
  obtain ⟨other, hother, hsegments⟩ := wider package hmem
  rw [Bool.or_eq_true, List.any_eq_true]
  exact .inr ⟨other, hother, inPackage_iff.2 (hsegments.trans (inPackage_iff.1 hwithin))⟩

/-- A scan of some packages finds the providers whose segments begin with those of one of them. With
more packages it finds no less, in the same order, and neither does it with a package in place of
one that has further segments. -/
theorem scan_by_segments (providers : List Provider) :
    (∀ packages provider, packages ≠ [] →
        (provider ∈ scan providers packages
          ↔ provider ∈ providers
            ∧ ∃ package ∈ packages, segments package <+: segments provider.package))
      ∧ (∀ packages more : List String, packages ≠ [] → packages ⊆ more →
          (scan providers packages).Sublist (scan providers more))
      ∧ ∀ (wide narrow : String) (others : List String), segments wide <+: segments narrow →
          (scan providers (narrow :: others)).Sublist (scan providers (wide :: others)) := by
  refine ⟨fun packages provider given => mem_scan_iff given, ?_, ?_⟩
  · intro packages more given hmore
    exact scan_sublist given fun package hmem => ⟨package, hmore hmem, List.prefix_refl _⟩
  · intro wide narrow others hsegments
    refine scan_sublist (List.cons_ne_nil narrow others) fun package hmem => ?_
    rcases List.mem_cons.1 hmem with rfl | hmem
    · exact ⟨wide, List.mem_cons_self, hsegments⟩
    · exact ⟨package, List.mem_cons_of_mem _ hmem, List.prefix_refl _⟩

/-- Providers whose packages begin alike as texts, some of them with empty segments. -/
def neighbours : List Provider :=
  [⟨"acme.text", "words", .functions, []⟩, ⟨"acmetext", "words", .tags, []⟩,
    ⟨"acme..text", "words", .methods, []⟩, ⟨".acme", "words", .functions, []⟩]

/-- A dot at the end of a package stands for an empty segment after it, which only one provider
has. -/
theorem scan_by_segments_neighbours :
    ["acme."] ≠ [] ∧ ["acme."] ⊆ ["", "acme."] ∧ segments "acme" <+: segments "acme."
      ∧ ∃ provider ∈ scan neighbours ["acme."], provider.package = "acme..text"
          ∧ provider ∈ scan neighbours ["", "acme."] ∧ provider ∈ scan neighbours ["acme"] := by
  obtain ⟨hscan, hmore, hwider⟩ := scan_by_segments neighbours
  have hgiven : ["acme."] ≠ [] := List.cons_ne_nil _ _
  have hadded : ["acme."] ⊆ ["", "acme."] := List.subset_cons_self _ _
  have hsegments : segments "acme" <+: segments "acme." := ⟨[[]], rfl⟩
  have hfound : ⟨"acme..text", "words", .methods, []⟩ ∈ scan neighbours ["acme."] := by
    refine (hscan _ _ hgiven).2 ⟨by simp [neighbours], "acme.", by simp, ?_⟩
    exact ⟨["text".toList], rfl⟩
  exact ⟨hgiven, hadded, hsegments, _, hfound, rfl, (hmore _ _ hgiven hadded).subset hfound,
    (hwider _ _ _ hsegments).subset hfound⟩

end Provider

end LiveTemplates
