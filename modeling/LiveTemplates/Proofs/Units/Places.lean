import LiveTemplates.Proofs.Loader.Rooted
import LiveTemplates.Proofs.Units.Copies

set_option autoImplicit false

/-! # Paths of copies

Two texts are the same path if they have the same components (`Path.elements`). The path of a copy
for a name has the components of the folder and then one for each segment of the name, of which none
leads back and the last bears the generation (`elements_artifactPath`). Names may end like copies
themselves, but the generation is always what stands between the last two dots, so copies for
different names or of different generations have different paths (`artifactPath_eq_iff`). -/

namespace LiveTemplates

namespace Path

/-- A component of a path. -/
inductive Element where
  /-- The root of the file system. -/
  | root
  /-- The folder that is open, where a path begins with a dot. -/
  | here
  | up
  | ordinary (name : String)
  deriving DecidableEq

/-- The component that a part stands for, if it leads somewhere. -/
def Element.ofPart (part : String) : Element :=
  if part = ".." then up else ordinary part

/-- A path by its components: slashes that follow one another or end the path do not count, and
neither do dots, unless the path begins with one. -/
def elements (path : String) : List Element :=
  (if isAbsolute path then [.root] else if (parts path).head? = some "." then [.here] else [])
    ++ (components path).map .ofPart

variable {path : String}

theorem map_ofPart_of_leads {names : List String} (leads : ∀ name ∈ names, Leads name) :
    names.map Element.ofPart = names.map .ordinary := by
  refine List.map_congr_left fun name hmem => ?_
  simp [Element.ofPart, (leads name hmem).2]

/-- A path of ordinary names adds them to the components of what it is joined to. -/
theorem elements_join (directory : String) (leads : ∀ part ∈ parts path, Leads part) :
    elements (join directory path) = elements directory ++ (parts path).map .ordinary := by
  have hrelative := isAbsolute_of_leads leads
  have hcomponents := components_of_leads leads
  rw [← map_ofPart_of_leads leads, ← hcomponents]
  by_cases hdirectory : directory = ""
  · subst hdirectory
    have hdot : (parts path).head? ≠ some "." := by
      intro hhead
      have hstep := (leads "." (List.mem_of_mem_head? hhead)).1
      simp [isStep] at hstep
    have hjoin : join "" path = path := by simp [join, hrelative]
    rw [hjoin, elements, hrelative]
    simp [hdot, elements, isAbsolute, components, isStep]
  · obtain ⟨lead, hlead, hjoined, hroot⟩ := parts_join hdirectory hrelative
    have hhead : (parts (join directory path)).head? = (parts directory).head? := by
      obtain ⟨first, rest, rfl⟩ := List.exists_cons_of_ne_nil hlead
      rcases hroot with hroot | hroot
      · simp [hjoined, hroot]
      · simp [hjoined, hroot]
    rw [elements, isAbsolute_join hdirectory hrelative, hhead, components_join hdirectory hrelative,
      List.map_append, ← List.append_assoc, elements]

/-- The dot at the start counts, and the one in the middle and the slashes do not. -/
example : elements (join ".//x/./" "a/b")
    = [.here, .ordinary "x", .ordinary "a", .ordinary "b"] := by
  rfl

end Path

open Name

namespace Units

variable {name : String} {front : List (List Char)} {last : List Char}

/-- The components of the path of a copy. -/
theorem elements_artifactPath (segmented : Segmented name front last) (directory : String)
    (generation : Generation) :
    Path.elements (artifactPath directory name generation)
      = Path.elements directory ++ (copyPlace name generation).map .ordinary :=
  Path.elements_join directory (leads_copyPlace segmented generation)

/-- The segments of a name are the parts of its text after the first slash. -/
theorem parts_segmented (segmented : Segmented name front last) :
    Path.parts name = "" :: (front.map String.ofList ++ [String.ofList last]) := by
  rw [Path.parts, Text.splitAt, segmented.is, splitAtChars_join segmented.plain]
  simp

/-- The last part of a name with what is added to it for a generation. -/
theorem ofList_append_mark (last : List Char) (generation : Generation) :
    String.ofList (last ++ generation.mark)
      = String.ofList last ++ ".g" ++ toString generation.value ++ ".hbs" := by
  rw [← String.toList_inj]
  simp [Generation.mark]

/-- Paths of copies for canonical names in one folder are the same, be it as texts or as paths, only
for the same name and the same generation. They lead on from the folder by ordinary names, as many
as the name has segments: by those segments, the last one with the generation in decimal. -/
theorem artifactPath_eq_iff {spelling spelling' other : String}
    (is : canonicalOrError spelling = .ok name) (is' : canonicalOrError spelling' = .ok other)
    (directory : String) (generation later : Generation) :
    (Path.elements (artifactPath directory name generation)
          = Path.elements (artifactPath directory other later)
        ↔ name = other ∧ generation = later)
      ∧ (artifactPath directory name generation = artifactPath directory other later
        ↔ name = other ∧ generation = later)
      ∧ ∃ front last, Path.parts name = "" :: (front ++ [last])
          ∧ Path.elements (artifactPath directory name generation)
            = Path.elements directory
              ++ (front ++ [last ++ ".g" ++ toString generation.value ++ ".hbs"]).map .ordinary
          ∧ ∀ part ∈ front ++ [last ++ ".g" ++ toString generation.value ++ ".hbs"],
              part ≠ "" ∧ part ≠ "." ∧ part ≠ ".." ∧ '/' ∉ part.toList := by
  obtain ⟨front, last, segmented⟩ := exists_segmented (canonical_of_canonicalOrError is)
  obtain ⟨front', last', segmented'⟩ := exists_segmented (canonical_of_canonicalOrError is')
  have hpath : Path.elements (artifactPath directory name generation)
        = Path.elements (artifactPath directory other later)
      ↔ name = other ∧ generation = later := by
    constructor
    · intro h
      rw [elements_artifactPath segmented, elements_artifactPath segmented'] at h
      have hplaces := List.append_cancel_left h
      refine copyPlace_injective segmented segmented' (List.map_injective_iff.2 ?_ hplaces)
      intro first second hsame
      exact Path.Element.ordinary.inj hsame
    · rintro ⟨rfl, rfl⟩
      rfl
  have hplace := copyPlace_segmented segmented generation
  rw [List.map_append, List.map_singleton, ofList_append_mark] at hplace
  refine ⟨hpath, ?_, front.map String.ofList, String.ofList last, parts_segmented segmented, ?_, ?_⟩
  · constructor
    · intro h
      exact hpath.1 (congrArg Path.elements h)
    · rintro ⟨rfl, rfl⟩
      rfl
  · rw [elements_artifactPath segmented, hplace]
  · intro part hmem
    rw [← hplace] at hmem
    obtain ⟨hstep, hup⟩ := leads_copyPlace segmented generation part hmem
    simp only [Path.isStep, Bool.and_eq_true, decide_eq_true_eq] at hstep
    exact ⟨hstep.1, hstep.2, hup, Path.slash_notMem_of_mem_parts hmem⟩

/-- A name that ends like a copy, and the name that it looks like a copy for. -/
theorem artifactPath_ne_of_dressed :
    canonicalOrError "a\\b.g12.hbs" = .ok "/a/b.g12.hbs" ∧ canonicalOrError "./a/b" = .ok "/a/b"
      ∧ artifactPath "art" "/a/b.g12.hbs" ⟨2⟩ ≠ artifactPath "art" "/a/b" ⟨12⟩
      ∧ ∃ names, names.length = 2
          ∧ Path.elements (artifactPath "art" "/a/b" ⟨12⟩) = .ordinary "art" :: names := by
  have hdressed : canonicalOrError "a\\b.g12.hbs" = .ok "/a/b.g12.hbs" := rfl
  have hplain : canonicalOrError "./a/b" = .ok "/a/b" := rfl
  obtain ⟨-, htexts, -⟩ := artifactPath_eq_iff hdressed hplain "art" ⟨2⟩ ⟨12⟩
  obtain ⟨-, -, front, last, hparts, helements, -⟩ :=
    artifactPath_eq_iff hplain hplain "art" ⟨12⟩ ⟨12⟩
  refine ⟨hdressed, hplain, fun h => ?_, _, ?_, helements⟩
  · cases (htexts.1 h).2
  · have hlength := congrArg List.length hparts
    rw [show Path.parts "/a/b" = ["", "a", "b"] from rfl] at hlength
    simpa using hlength.symm

end Units

end LiveTemplates
