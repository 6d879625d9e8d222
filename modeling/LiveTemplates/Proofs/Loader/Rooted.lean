import LiveTemplates.Loader.Basic
import LiveTemplates.Proofs.Files.Writing
import LiveTemplates.Proofs.Name.Matching

set_option autoImplicit false

/-! # Where a loader looks for a name

A loader for the files below a root looks for a name at one path: that of the root, followed by the
segments of the name (`continues_below`). None of them leads back or starts again, since the name is
canonical, and different names have different paths (`below_injective`). All that the loader sees of
the files is what a look at that path comes to, so its source is a function of what a file system
shows at paths (`source_rooted`). -/

namespace LiveTemplates

open Name

namespace Path

/-- The path at which a name is found below a root. -/
def below (root name : String) : String :=
  join root (relative name)

/-- A path leads on from another one by one or more ordinary names: it is the text of the other path
with the names after it, and it starts where the other one starts. -/
structure Continues (root path : String) (names : List String) : Prop where
  occupied : names ≠ []
  ordinary : ∀ name ∈ names, Leads name ∧ '/' ∉ name.toList
  text : path
    = root ++ (if root.toList.getLast? = some '/' then "" else "/") ++ "/".intercalate names
  components : components path = components root ++ names
  isAbsolute : isAbsolute path = isAbsolute root

theorem isAbsolute_relative (path : String) : isAbsolute (relative path) = false := by
  unfold isAbsolute relative
  rw [String.toList_ofList]
  have hhead := List.head?_dropWhile_not (· = '/') path.toList
  cases hfirst : (path.toList.dropWhile (· = '/')).head? with
  | none => rfl
  | some c => simpa [hfirst] using hhead

variable {parts parts' : List (List Char)} {root : String}

theorem relative_join (occupied : parts ≠ []) (plain : ∀ segment ∈ parts, Plain segment) :
    relative (Name.join parts) = "/".intercalate (parts.map String.ofList) := by
  have htext := congrArg String.toList (join_eq_intercalate occupied)
  rw [← toList_relative_join occupied plain, String.toList_append] at htext
  exact String.toList_inj.1 (List.tail_eq_of_cons_eq htext)

/-- The parts of a path of plain segments are the segments. -/
theorem parts_relative_join (occupied : parts ≠ []) (plain : ∀ segment ∈ parts, Plain segment) :
    Path.parts (relative (Name.join parts)) = parts.map String.ofList := by
  have hcut := splitAtChars_join plain
  rw [← toList_relative_join occupied plain,
    Text.splitAtChars_cons_of_separator (by simp)] at hcut
  rw [Path.parts, Text.splitAt, List.tail_eq_of_cons_eq hcut]

/-- The path of a name below a root is the root with the segments of the name after it. -/
theorem below_join (rooted : root ≠ "") (occupied : parts ≠ [])
    (plain : ∀ segment ∈ parts, Plain segment) :
    below root (Name.join parts)
      = root ++ (if root.toList.getLast? = some '/' then "" else "/")
        ++ "/".intercalate (parts.map String.ofList) := by
  rw [below, join, isAbsolute_relative, if_neg (by simp), relative_join occupied plain]
  by_cases hslash : root.toList.getLast? = some '/'
  · simp [hslash]
  · simp [rooted, hslash]

theorem components_join {path : String} (rooted : root ≠ "") (relative : isAbsolute path = false) :
    components (join root path) = components root ++ components path := by
  obtain ⟨lead, -, hparts, hroot⟩ := parts_join rooted relative
  have hlead : components root = lead.filter isStep := by
    rcases hroot with hroot | hroot
    · rw [components, hroot]
    · rw [components, hroot, List.filter_append]
      simp [isStep]
  rw [components, hparts, List.filter_append, hlead]
  rfl

theorem leads_of_plain (plain : ∀ segment ∈ parts, Plain segment) :
    ∀ name ∈ parts.map String.ofList, Leads name := by
  intro name hmem
  obtain ⟨segment, hsegment, rfl⟩ := List.mem_map.1 hmem
  have hplain := plain segment hsegment
  exact leads_ofList hplain.occupied hplain.not_here hplain.not_up

/-- The path of a canonical name leads on from the root by the segments of the name. -/
theorem continues_below (rooted : root ≠ "") (occupied : parts ≠ [])
    (plain : ∀ segment ∈ parts, Plain segment) :
    Continues root (below root (Name.join parts)) (parts.map String.ofList) := by
  have hleads := leads_of_plain plain
  have hcomponents : components (relative (Name.join parts)) = parts.map String.ofList := by
    rw [← parts_relative_join occupied plain] at hleads ⊢
    exact components_of_leads hleads
  refine ⟨by simpa using occupied, fun name hmem => ⟨hleads name hmem, ?_⟩, ?_, ?_, ?_⟩
  · obtain ⟨segment, hsegment, rfl⟩ := List.mem_map.1 hmem
    rw [String.toList_ofList]
    exact (plain segment hsegment).slash_notMem
  · exact below_join rooted occupied plain
  · rw [below, components_join rooted (isAbsolute_relative _), hcomponents]
  · exact isAbsolute_join rooted (isAbsolute_relative _)

/-- The names at the end of a path tell it from the other paths that continue the same one. -/
theorem Continues.eq_of_eq {path path' : String} {names names' : List String}
    (continues : Continues root path names) (continues' : Continues root path' names')
    (h : path = path') : names = names' := by
  have hcomponents := continues.components
  rw [h, continues'.components] at hcomponents
  exact (List.append_cancel_left hcomponents).symm

/-- Names have the same path only if they are the same. -/
theorem below_injective {name name' : String} (rooted : root ≠ "")
    (canonical : Name.canonical name = .ok name) (canonical' : Name.canonical name' = .ok name')
    (h : below root name = below root name') : name = name' := by
  obtain ⟨parts, occupied, plain, rfl, -⟩ := exists_plain_of_canonical canonical
  obtain ⟨parts', occupied', plain', rfl, -⟩ := exists_plain_of_canonical canonical'
  have hnames := (continues_below rooted occupied plain).eq_of_eq
    (continues_below rooted occupied' plain') h
  rw [List.map_injective_iff.2 (fun _ _ => String.ofList_injective) hnames]

end Path

/-- What is found at the path of a name below a folder stands below the folder. -/
theorem Tree.node?_of_look_below {tree : Tree} {root : String} {place : Location} {node : Node}
    {parts : List (List Char)} (located : tree.locate root = .ok place)
    (folder : tree.node? place = some .folder) (occupied : parts ≠ [])
    (plain : ∀ segment ∈ parts, Plain segment)
    (h : tree.look (Path.below root (Name.join parts)) = .ok node) :
    tree.node? (place ++ parts.map String.ofList) = some node := by
  have hbelow : LeadsBelow tree root (Path.relative (Name.join parts)) place
      (parts.map String.ofList) :=
    ⟨located, folder, Path.parts_relative_join occupied plain, Path.leads_of_plain plain⟩
  obtain ⟨location, hlocate, hnode⟩ := look_eq_ok_iff.1 h
  have hfollow := hbelow.follow_iff.1 (locate_eq_ok_iff.1 hlocate).2
  rwa [eq_of_follow_names hbelow.leads hfollow] at hnode

/-! ## What a loader sees of the files -/

namespace Loader

/-- What a look at the path of a name tells: the content and the time of a file. -/
def found (name : String) :
    Except FileFault Node → Except TemplateError (Option (ByteArray × Moment))
  | .ok (.file content modified) => .ok (some (content, modified))
  | .ok .folder => .ok none
  | .error .notFound => .ok none
  | .error fault => .error (.io name fault)

end Loader

/-- The sources below a root, as far as they can be told from what there is at paths. -/
def Source.rootedIn (root : String) (view : World → String → Except FileFault Node) : Source where
  load world name :=
    match Loader.found name (view world (Path.below root name)) with
    | .error e => .error e
    | .ok none => .ok none
    | .ok (some found) =>
      (Loader.resourceOfFile name (.filesystem (Path.below root name)) found).map some
  fingerprint world name :=
    (Loader.found name (view world (Path.below root name))).map fun found =>
      found.map fun (_, modified) => .ofModified modified

/-- A loader with a root sees of the files what a look at paths tells. -/
theorem Loader.source_rooted (root : String) :
    (Loader.rooted (some root)).source = Source.rootedIn root fun world => world.files.look :=
  rfl

/-- Two sources have the same under a name in every world. -/
structure Source.AgreeAt (source other : Source) (name : String) : Prop where
  load (world : World) : source.load world name = other.load world name
  fingerprint (world : World) : source.fingerprint world name = other.fingerprint world name

/-- What there is under a name is told by what there is at its path. -/
theorem Source.rootedIn_agreeAt {root name : String}
    {view view' : World → String → Except FileFault Node}
    (same : ∀ world, view world (Path.below root name) = view' world (Path.below root name)) :
    (Source.rootedIn root view).AgreeAt (.rootedIn root view') name := by
  constructor
  · intro world
    simp only [Source.rootedIn, same]
  · intro world
    simp only [Source.rootedIn, same]

end LiveTemplates
