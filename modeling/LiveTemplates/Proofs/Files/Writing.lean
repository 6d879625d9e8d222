import LiveTemplates.Files.Tree
import LiveTemplates.Proofs.Name.Canonical
import Mathlib.Data.List.Basic

set_option autoImplicit false

/-! # Writing a file below a folder

A path that is joined to the path of a folder leads below that folder. To write a file there makes
the folders that are missing on the way, and puts the file at the end (`LeadsBelow.written`):
nothing else changes, and no folder goes away. If no file is in the way and no folder at the end,
the file can be read afterwards under the same path (`stands_writeBelow`, `read_of_stands`). -/

namespace LiveTemplates

namespace Text

variable {separator : Char → Bool}

theorem eq_of_splitAtChars_eq_singleton {cs last : List Char}
    (h : splitAtChars separator cs = [last]) : cs = last := by
  induction cs generalizing last with
  | nil => simpa [splitAtChars] using h
  | cons c rest ih =>
      rw [splitAtChars] at h
      cases hrest : splitAtChars separator rest with
      | nil => exact absurd hrest (splitAtChars_ne_nil separator rest)
      | cons piece pieces =>
          rw [hrest] at h
          dsimp only at h
          split at h
          · cases h
          · cases h
            rw [ih hrest]

/-- The last piece stands after a separator, and what is before that is cut into the others. -/
theorem exists_of_splitAtChars {cs last : List Char} {others : List (List Char)}
    (h : splitAtChars separator cs = others ++ [last]) (several : others ≠ []) :
    ∃ before c, separator c = true ∧ cs = before ++ c :: last
      ∧ splitAtChars separator before = others := by
  induction cs generalizing others with
  | nil =>
      cases others with
      | nil => exact absurd rfl several
      | cons first others => simp [splitAtChars] at h
  | cons c rest ih =>
      obtain ⟨first, others, rfl⟩ := List.exists_cons_of_ne_nil several
      cases hrest : splitAtChars separator rest with
      | nil => exact absurd hrest (splitAtChars_ne_nil separator rest)
      | cons piece pieces =>
          rw [splitAtChars, hrest] at h
          dsimp only at h
          split at h
          · next hc =>
              simp only [List.cons_append, List.cons.injEq] at h
              obtain ⟨rfl, h⟩ := h
              cases others with
              | nil =>
                  rw [List.nil_append] at h
                  rw [h] at hrest
                  exact ⟨[], c, hc, by rw [eq_of_splitAtChars_eq_singleton hrest]; rfl, rfl⟩
              | cons second others =>
                  obtain ⟨before, d, hd, rfl, hbefore⟩ := ih (hrest.trans h) (by simp)
                  refine ⟨c :: before, d, hd, rfl, ?_⟩
                  rw [splitAtChars_cons_of_separator hc, hbefore]
          · next hc =>
              simp only [List.cons_append, List.cons.injEq] at h
              obtain ⟨rfl, rfl⟩ := h
              obtain ⟨before, d, hd, rfl, hbefore⟩ :=
                ih (hrest.trans (List.cons_append ..).symm) (by simp)
              refine ⟨c :: before, d, hd, rfl, ?_⟩
              rw [splitAtChars, hbefore]
              simp [hc]

end Text

/-! ## Paths -/

namespace Path

/-- A part leads to something in the folder that it stands in. -/
def Leads (part : String) : Prop :=
  isStep part = true ∧ part ≠ ".."

theorem leads_ofList {part : List Char} (occupied : part ≠ []) (not_here : part ≠ ['.'])
    (not_up : part ≠ ['.', '.']) : Leads (String.ofList part) := by
  have hlist : ∀ cs : List Char, String.ofList part = String.ofList cs → part = cs := by
    intro cs h
    simpa using congrArg String.toList h
  constructor
  · simp only [isStep, Bool.and_eq_true, decide_eq_true_eq]
    exact ⟨fun h => occupied (hlist [] h), fun h => not_here (hlist ['.'] h)⟩
  · exact fun h => not_up (hlist ['.', '.'] h)

/-- The text of plain segments begins with one slash only. -/
theorem toList_relative_join {parts : List (List Char)} (occupied : parts ≠ [])
    (plain : ∀ segment ∈ parts, Name.Plain segment) :
    '/' :: (relative (Name.join parts)).toList = (Name.join parts).toList := by
  obtain ⟨first, rest, rfl⟩ := List.exists_cons_of_ne_nil occupied
  have hfirst := plain first List.mem_cons_self
  obtain ⟨c, more, rfl⟩ := List.exists_cons_of_ne_nil hfirst.occupied
  have hc : c ≠ '/' := fun h => hfirst.slash_notMem (h ▸ List.mem_cons_self)
  have hjoin : (Name.join ((c :: more) :: rest)).toList
      = '/' :: c :: (more ++ rest.flatMap ('/' :: ·)) := by
    simp [Name.join]
  rw [relative, String.toList_ofList, hjoin, List.dropWhile_cons_of_pos (by simp),
    List.dropWhile_cons_of_neg (by simpa using hc)]

theorem parts_ne_nil (path : String) : parts path ≠ [] := by
  simpa [parts, Text.splitAt] using Text.splitAtChars_ne_nil _ _

theorem parts_append_slash (first second : String) :
    parts (first ++ "/" ++ second) = parts first ++ parts second := by
  have hlist : (first ++ "/" ++ second).toList = first.toList ++ '/' :: second.toList := by
    simp
  rw [parts, Text.splitAt, hlist, Text.splitAtChars_append_separator (by simp), List.map_append]
  rfl

theorem slash_notMem_of_mem_parts {path part : String} (h : part ∈ parts path) :
    '/' ∉ part.toList := by
  obtain ⟨piece, hpiece, rfl⟩ := List.mem_map.1 h
  intro hslash
  rw [String.toList_ofList] at hslash
  simpa using Text.unbroken_of_mem_splitAtChars hpiece '/' hslash

/-- A path whose parts all lead on does not start at the root. -/
theorem isAbsolute_of_leads {path : String} (leads : ∀ part ∈ parts path, Leads part) :
    isAbsolute path = false := by
  rw [Bool.eq_false_iff]
  intro habsolute
  obtain ⟨rest, hlist⟩ := List.head?_eq_some_iff.1 (of_decide_eq_true habsolute)
  -- a slash at the front leaves an empty part before it
  have hempty : "" ∈ parts path := by
    rw [parts, Text.splitAt, hlist, Text.splitAtChars_cons_of_separator (by simp)]
    exact List.mem_cons_self
  cases (leads "" hempty).1

theorem components_of_leads {path : String} (leads : ∀ part ∈ parts path, Leads part) :
    components path = parts path := by
  rw [components, List.filter_eq_self]
  exact fun part hmem => (leads part hmem).1

@[simp] theorem parts_empty : parts "" = [""] := rfl

theorem components_append_slash (path : String) : components (path ++ "/") = components path := by
  have hparts : parts (path ++ "/") = parts path ++ [""] := by
    rw [← parts_empty, ← parts_append_slash, String.append_empty]
  rw [components, hparts, List.filter_append]
  simp [components, isStep]

/-- Slashes at the end of a path lead nowhere. -/
theorem components_append_slashes (path : String) (n : Nat) :
    components (path ++ String.ofList (List.replicate n '/')) = components path := by
  induction n generalizing path with
  | zero => simp
  | succ n ih =>
      rw [List.replicate_succ', String.ofList_append, ← String.append_assoc]
      exact (components_append_slash _).trans (ih path)

theorem isAbsolute_append {first : String} (occupied : first ≠ "") (second : String) :
    isAbsolute (first ++ second) = isAbsolute first := by
  unfold isAbsolute
  cases hfirst : first.toList with
  | nil => exact absurd (String.toList_eq_nil_iff.1 hfirst) occupied
  | cons c rest => simp [hfirst]

/-- The slashes at the end of a text can be told from what is before them. -/
theorem exists_slashes (base : List Char) :
    ∃ n, base = (base.reverse.dropWhile (· = '/')).reverse ++ List.replicate n '/' := by
  have hsplit := List.takeWhile_append_dropWhile (p := (· = '/')) (l := base.reverse)
  have hslashes : base.reverse.takeWhile (· = '/')
      = List.replicate (base.reverse.takeWhile (· = '/')).length '/' :=
    List.eq_replicate_of_mem fun c hc => by simpa using List.all_eq_true.1 List.all_takeWhile c hc
  refine ⟨(base.reverse.takeWhile (· = '/')).length, ?_⟩
  rw [← List.reverse_inj, List.reverse_append, List.reverse_reverse, List.reverse_replicate,
    ← hslashes, hsplit]

/-- Slashes may as well come after another one. -/
theorem slashes_append_slash (n : Nat) :
    String.ofList (List.replicate n '/') ++ "/" = "/" ++ String.ofList (List.replicate n '/') := by
  have hlist : List.replicate n '/' ++ ['/'] = ['/'] ++ List.replicate n '/' := by
    rw [← List.replicate_succ', List.replicate_succ, List.singleton_append]
  simpa only [String.ofList_append] using congrArg String.ofList hlist

/-- The parent of a path is what comes before its last part, without the slashes at the end. -/
theorem parent_eq (base : String) {last : String} (unbroken : '/' ∉ last.toList) :
    parent (base ++ "/" ++ last)
      = if (base.toList.reverse.dropWhile (· = '/')).reverse = [] then "/"
        else String.ofList (base.toList.reverse.dropWhile (· = '/')).reverse := by
  have hlist : (base ++ "/" ++ last).toList.reverse
      = last.toList.reverse ++ '/' :: base.toList.reverse := by simp
  have hbefore : (base ++ "/" ++ last).toList.reverse.dropWhile (· ≠ '/')
      = '/' :: base.toList.reverse := by
    rw [hlist, List.dropWhile_append_of_pos, List.dropWhile_cons_of_neg (by simp)]
    intro c hc
    have hmem : c ∈ last.toList := List.mem_reverse.1 hc
    simpa using fun h : c = '/' => unbroken (h ▸ hmem)
  unfold parent
  dsimp only
  rw [hbefore]
  simp

/-- The parent of a path leads where all of its parts but the last lead. -/
theorem parent_append (base : String) {last : String} (unbroken : '/' ∉ last.toList) :
    components (parent (base ++ "/" ++ last)) = components base
      ∧ parent (base ++ "/" ++ last) ≠ ""
      ∧ isAbsolute (parent (base ++ "/" ++ last)) = isAbsolute (base ++ "/" ++ last)
      ∧ ∃ rest, base ++ "/" ++ last = parent (base ++ "/" ++ last) ++ rest := by
  obtain ⟨n, hbase⟩ := exists_slashes base.toList
  have hparent := parent_eq base unbroken
  generalize (base.toList.reverse.dropWhile (· = '/')).reverse = kept at hbase hparent
  have hbase : base = String.ofList kept ++ String.ofList (List.replicate n '/') := by
    rw [← String.ofList_append, ← hbase, String.ofList_toList]
  rw [hparent, hbase]
  split
  · next hempty =>
      subst hempty
      have hnone : String.ofList ([] : List Char) ++ String.ofList (List.replicate n '/')
          = String.ofList (List.replicate n '/') := by simp
      refine ⟨(components_append_slashes "" n).symm, by simp, ?_, ?_⟩
      · rw [hnone, slashes_append_slash, String.append_assoc, isAbsolute_append (by simp)]
      · exact ⟨_, by rw [hnone, slashes_append_slash, String.append_assoc]⟩
  · next hsome =>
      have hne : String.ofList kept ≠ "" := by
        simpa using hsome
      refine ⟨(components_append_slashes _ n).symm, hne, ?_, ?_⟩
      · rw [String.append_assoc, String.append_assoc, isAbsolute_append hne]
      · exact ⟨_, by rw [String.append_assoc, String.append_assoc]⟩

/-- The parent of a path with several parts. -/
theorem parent_of_parts {path last : String} {others : List String}
    (h : parts path = others ++ [last]) (several : others ≠ []) :
    components (parent path) = others.filter isStep ∧ parent path ≠ ""
      ∧ isAbsolute (parent path) = isAbsolute path ∧ ∃ rest, path = parent path ++ rest := by
  obtain ⟨pieces, ends, hpieces, hothers, hends⟩ := List.map_eq_append_iff.1 h
  obtain ⟨piece, rfl, rfl⟩ := List.map_eq_singleton_iff.1 hends
  have hseveral : pieces ≠ [] := fun hnil => several (by rw [← hothers, hnil, List.map_nil])
  obtain ⟨before, c, hc, hpath, hbefore⟩ := Text.exists_of_splitAtChars hpieces hseveral
  rw [decide_eq_true_eq] at hc
  subst hc
  have hlast : String.ofList piece ∈ parts path := by simp [h]
  have hunbroken := slash_notMem_of_mem_parts hlast
  have hsplit : path = String.ofList before ++ "/" ++ String.ofList piece := by
    have hturn := congrArg String.ofList hpath
    rwa [String.ofList_toList, ← List.singleton_append, ← List.append_assoc, String.ofList_append,
      String.ofList_append] at hturn
  have hcomponents : components (String.ofList before) = others.filter isStep := by
    rw [components, parts, Text.splitAt, String.toList_ofList, hbefore, hothers]
  have hparent := parent_append (String.ofList before) hunbroken
  rwa [← hsplit, hcomponents] at hparent

/-- The parts of a joined path are those of the root and then those of the path, but for an empty
one in between. -/
theorem parts_join {root path : String} (occupied : root ≠ "")
    (relative : isAbsolute path = false) :
    ∃ lead, lead ≠ [] ∧ parts (join root path) = lead ++ parts path
      ∧ (parts root = lead ∨ parts root = lead ++ [""]) := by
  unfold join
  rw [relative, if_neg (by simp)]
  have hroot : root.isEmpty = false := by simpa using occupied
  split
  · next hslash =>
      rw [hroot, Bool.false_or, decide_eq_true_eq] at hslash
      -- the root ends in the slash that separates it from the path
      obtain ⟨front, hfront⟩ := List.getLast?_eq_some_iff.1 hslash
      have hsplit : root = String.ofList front ++ "/" := by
        have hturn := congrArg String.ofList hfront
        rwa [String.ofList_toList, String.ofList_append] at hturn
      refine ⟨parts (String.ofList front), parts_ne_nil _, ?_, .inr ?_⟩
      · rw [hsplit, parts_append_slash]
      · rw [hsplit, ← parts_empty, ← parts_append_slash, String.append_empty]
  · exact ⟨parts root, parts_ne_nil root, parts_append_slash root path, .inl rfl⟩

theorem isAbsolute_join {root path : String} (occupied : root ≠ "")
    (relative : isAbsolute path = false) : isAbsolute (join root path) = isAbsolute root := by
  unfold join
  rw [relative, if_neg (by simp)]
  split
  · exact isAbsolute_append occupied path
  · rw [String.append_assoc, isAbsolute_append occupied]

end Path

namespace Tree

variable {tree before after : Tree} {place : Location}

theorem node?_put {location : Location} (below : location ≠ []) (tree : Tree) (node : Node)
    (other : Location) :
    (tree.put location node).node? other
      = if other = location then some node else tree.node? other := by
  unfold node? put
  by_cases ho : other = location
  · subst ho
    simp [below, Assoc.find?_set]
  · simp [Assoc.find?_set, ho]

theorem requireFolder_eq_ok_iff (tree : Tree) (location : Location) :
    tree.requireFolder location = .ok () ↔ tree.node? location = some .folder := by
  unfold requireFolder
  split <;> simp_all

/-! ## Following paths -/

/-- Nothing that was a folder is one no more. -/
structure Grows (before after : Tree) : Prop where
  start : after.start = before.start
  folders {location : Location} (folder : before.node? location = some .folder) :
    after.node? location = some .folder

/-- Where one part leads from a folder. -/
def advance (location : Location) (part : String) : Except FileFault Location :=
  if !Path.isStep part then .ok location
  else if part = ".." then .ok location.dropLast
  else if nameLimit < part.utf8ByteSize then .error .nameTooLong
  else .ok (location ++ [part])

theorem follow_cons_eq_ok_iff {from_ : Location} {part : String} {rest : List String} :
    tree.follow from_ (part :: rest) = .ok place
      ↔ tree.node? from_ = some .folder
        ∧ ∃ next, advance from_ part = .ok next ∧ tree.follow next rest = .ok place := by
  rw [follow, ← requireFolder_eq_ok_iff, advance]
  cases tree.requireFolder from_ with
  | error fault => simp
  | ok =>
      dsimp only
      split
      · simp
      · split
        · simp
        · split <;> simp

theorem advance_of_leads {name : String} (leads : Path.Leads name)
    (fits : name.utf8ByteSize ≤ nameLimit) (location : Location) :
    advance location name = .ok (location ++ [name]) := by
  simp [advance, leads.1, leads.2, Nat.not_lt.2 fits]

theorem eq_of_advance {name : String} (leads : Path.Leads name) {location next : Location}
    (h : advance location name = .ok next) : next = location ++ [name] := by
  simp only [advance, leads.1, leads.2, Bool.not_true, Bool.false_eq_true, if_false] at h
  split at h
  · cases h
  · exact (Except.ok.inj h).symm

/-- The parts of a path lead on from where those before them lead. -/
theorem follow_append {from_ : Location} {parts rest : List String} {location : Location}
    (h : tree.follow from_ parts = .ok place) :
    tree.follow from_ (parts ++ rest) = .ok location ↔ tree.follow place rest = .ok location := by
  induction parts generalizing from_ with
  | nil =>
      cases h
      rfl
  | cons part parts ih =>
      obtain ⟨hfolder, next, hnext, h⟩ := follow_cons_eq_ok_iff.1 h
      rw [List.cons_append, follow_cons_eq_ok_iff, ← ih h]
      simp [hfolder, hnext]

theorem follow_of_append_empty {from_ : Location} {parts : List String}
    (h : tree.follow from_ (parts ++ [""]) = .ok place) : tree.follow from_ parts = .ok place := by
  induction parts generalizing from_ with
  | nil =>
      obtain ⟨-, next, hnext, h⟩ := follow_cons_eq_ok_iff.1 h
      cases hnext
      exact h
  | cons part parts ih =>
      obtain ⟨hfolder, next, hnext, h⟩ := follow_cons_eq_ok_iff.1 h
      exact follow_cons_eq_ok_iff.2 ⟨hfolder, next, hnext, ih h⟩

/-- A path leads to the same location when there are more folders. -/
theorem Grows.follow (grows : Grows before after) {from_ : Location} {parts : List String}
    (h : before.follow from_ parts = .ok place) : after.follow from_ parts = .ok place := by
  induction parts generalizing from_ with
  | nil => exact h
  | cons part parts ih =>
      obtain ⟨hfolder, next, hnext, h⟩ := follow_cons_eq_ok_iff.1 h
      exact follow_cons_eq_ok_iff.2 ⟨grows.folders hfolder, next, hnext, ih h⟩

theorem locate_eq_ok_iff {path : String} :
    tree.locate path = .ok place
      ↔ checkPath path = .ok () ∧ tree.follow (tree.origin path) (Path.parts path) = .ok place := by
  unfold locate
  cases checkPath path with
  | error fault => simp
  | ok => simp

theorem look_eq_ok_iff {path : String} {node : Node} :
    tree.look path = .ok node
      ↔ ∃ place, tree.locate path = .ok place ∧ tree.node? place = some node := by
  unfold look
  cases tree.locate path with
  | error fault => simp
  | ok place =>
      cases hnode : tree.node? place with
      | none => simp [hnode]
      | some other => simp [hnode]

theorem Grows.locate (grows : Grows before after) {path : String}
    (h : before.locate path = .ok place) : after.locate path = .ok place := by
  rw [locate_eq_ok_iff, origin] at h ⊢
  rw [grows.start]
  exact ⟨h.1, grows.follow h.2⟩

/-- Names lead from a folder to what stands below it, if there are folders all the way. -/
theorem follow_names {names : List String} (leads : ∀ name ∈ names, Path.Leads name)
    (fits : ∀ name ∈ names, name.utf8ByteSize ≤ nameLimit)
    (way : ∀ front, front <+: names → front ≠ names → tree.node? (place ++ front) = some .folder) :
    tree.follow place names = .ok (place ++ names) := by
  induction names generalizing place with
  | nil => rw [follow, List.append_nil]
  | cons name rest ih =>
      have hfolder := way [] List.nil_prefix (by simp)
      rw [List.append_nil] at hfolder
      refine follow_cons_eq_ok_iff.2 ⟨hfolder, _, advance_of_leads (leads name List.mem_cons_self)
        (fits name List.mem_cons_self) place, ?_⟩
      rw [ih (fun other hmem => leads other (List.mem_cons_of_mem _ hmem))
        (fun other hmem => fits other (List.mem_cons_of_mem _ hmem)) ?_, List.append_assoc]
      · rfl
      · intro front hfront hne
        have hway := way (name :: front) (List.cons_prefix_cons.2 ⟨rfl, hfront⟩)
          (by simpa using hne)
        rwa [List.append_assoc]

/-- Names lead nowhere but below. -/
theorem eq_of_follow_names {names : List String} {location : Location}
    (leads : ∀ name ∈ names, Path.Leads name) (h : tree.follow place names = .ok location) :
    location = place ++ names := by
  induction names generalizing place with
  | nil =>
      cases h
      rw [List.append_nil]
  | cons name rest ih =>
      obtain ⟨-, next, hnext, h⟩ := follow_cons_eq_ok_iff.1 h
      obtain rfl := eq_of_advance (leads name List.mem_cons_self) hnext
      rw [ih (fun other hmem => leads other (List.mem_cons_of_mem _ hmem)) h, List.append_assoc]
      rfl

/-! ## Making folders -/

theorem makeFolders_of_blocked {from_ : Location} {fault : FileFault}
    (blocked : tree.requireFolder from_ = .error fault) (parts : List String) :
    tree.makeFolders from_ parts = (tree, .error fault) := by
  cases parts with
  | nil =>
      rw [makeFolders, blocked]
      rfl
  | cons part rest => rw [makeFolders, blocked]

/-- Parts that lead nowhere make no difference to the folders that are made. -/
theorem makeFolders_filter (tree : Tree) (from_ : Location) (parts : List String) :
    tree.makeFolders from_ (parts.filter Path.isStep) = tree.makeFolders from_ parts := by
  induction parts generalizing tree from_ with
  | nil => rfl
  | cons part rest ih =>
      cases hfolder : tree.requireFolder from_ with
      | error fault =>
          rw [makeFolders_of_blocked hfolder, makeFolders_of_blocked hfolder]
      | ok =>
          cases hstep : Path.isStep part with
          | false =>
              rw [List.filter_cons_of_neg (by simp [hstep]), ih, makeFolders, hfolder]
              simp [hstep]
          | true =>
              rw [List.filter_cons_of_pos hstep, makeFolders, makeFolders, hfolder]
              simp only [ih]

/-- No folder has to be made on a way that is there. -/
theorem makeFolders_append {from_ : Location} {parts : List String} (rest : List String)
    (h : tree.follow from_ parts = .ok place) (folder : tree.node? place = some .folder) :
    tree.makeFolders from_ (parts ++ rest) = tree.makeFolders place rest := by
  induction parts generalizing from_ with
  | nil =>
      cases h
      rfl
  | cons part parts ih =>
      obtain ⟨hfolder, next, hnext, h⟩ := follow_cons_eq_ok_iff.1 h
      -- the next location is a folder as well: the way goes on from it, or ends there
      have hthere : tree.node? next = some .folder := by
        cases parts with
        | nil =>
            cases h
            exact folder
        | cons part parts => exact (follow_cons_eq_ok_iff.1 h).1
      rw [← requireFolder_eq_ok_iff] at hfolder
      rw [List.cons_append, makeFolders, hfolder]
      unfold advance at hnext
      split at hnext
      · next hskip =>
          cases hnext
          simp only [hskip, if_true, ih h]
      · next hstep =>
          dsimp only
          rw [if_neg hstep]
          split at hnext
          · next hup =>
              cases hnext
              rw [if_pos hup, ih h]
          · next hname =>
              rw [if_neg hname]
              split at hnext
              · cases hnext
              · next hfits =>
                  cases hnext
                  rw [if_neg hfits]
                  simp [hthere, ih h]

/-- What can become of what stands at a location when folders are made along some names. -/
inductive Paved (place names location : Location) : Option Node → Option Node → Prop
  | kept (node : Option Node) : Paved place names location node node
  | made {front : Location} (below : front ≠ []) (part : front <+: names)
      (is : location = place ++ front) : Paved place names location none (some .folder)

theorem Paved.cons {name : String} {rest location : Location} {old new : Option Node}
    (paved : Paved (place ++ [name]) rest location old new) :
    Paved place (name :: rest) location old new := by
  cases paved with
  | kept => exact .kept _
  | @made front below part is =>
      exact .made (List.cons_ne_nil name front) (List.cons_prefix_cons.2 ⟨rfl, part⟩) (by simp [is])

theorem Paved.folder {names location : Location} {new : Option Node}
    (paved : Paved place names location (some .folder) new) : new = some .folder := by
  cases paved
  rfl

/-- Folders are made where there was nothing, and that is all. -/
theorem makeFolders_paved (tree : Tree) (place : Location) {names : List String}
    (leads : ∀ name ∈ names, Path.Leads name) :
    (tree.makeFolders place names).1.start = tree.start
      ∧ ∀ location, Paved place names location (tree.node? location)
          ((tree.makeFolders place names).1.node? location) := by
  induction names generalizing tree place with
  | nil => exact ⟨rfl, fun _ => .kept _⟩
  | cons name rest ih =>
      obtain ⟨hstep, hup⟩ := leads name List.mem_cons_self
      have hrest := fun other hmem => leads other (List.mem_cons_of_mem name hmem)
      rw [makeFolders]
      split
      · exact ⟨rfl, fun _ => .kept _⟩
      · simp only [hstep, Bool.not_true, Bool.false_eq_true, if_false, hup]
        split
        · exact ⟨rfl, fun _ => .kept _⟩
        · have hbelow : place ++ [name] ≠ [] := by simp
          split
          · next hnone =>
              obtain ⟨hstart, hpaved⟩ :=
                ih (tree.put (place ++ [name]) .folder) (place ++ [name]) hrest
              refine ⟨hstart, fun location => ?_⟩
              have hlocation := hpaved location
              rw [node?_put hbelow] at hlocation
              split at hlocation
              · next his =>
                  rw [hlocation.folder, his, Option.isNone_iff_eq_none.1 hnone]
                  exact .made (List.cons_ne_nil name [])
                    (List.cons_prefix_cons.2 ⟨rfl, List.nil_prefix⟩) rfl
              · exact hlocation.cons
          · obtain ⟨hstart, hpaved⟩ := ih tree (place ++ [name]) hrest
            exact ⟨hstart, fun location => (hpaved location).cons⟩

theorem makeFolders_grows (tree : Tree) (place : Location) {names : List String}
    (leads : ∀ name ∈ names, Path.Leads name) :
    Grows tree (tree.makeFolders place names).1 where
  start := (makeFolders_paved tree place leads).1
  folders {location} folder := by
    have hpaved := (makeFolders_paved tree place leads).2 location
    rw [folder] at hpaved
    exact hpaved.folder

/-- Nothing, or a folder. -/
def NoFile (node : Option Node) : Prop :=
  node = none ∨ node = some .folder

/-- Where no file is in the way there is one more folder, which was there or has just been made, and
the others are made from there. -/
theorem exists_makeFolders_cons {name : String} (leads : Path.Leads name)
    (fits : name.utf8ByteSize ≤ nameLimit) (folder : tree.node? place = some .folder)
    (free : NoFile (tree.node? (place ++ [name]))) (rest : List String) :
    ∃ next : Tree, tree.makeFolders place (name :: rest) = next.makeFolders (place ++ [name]) rest
      ∧ next.node? (place ++ [name]) = some .folder
      ∧ ∀ location, location ≠ place ++ [name] → next.node? location = tree.node? location := by
  obtain ⟨hstep, hup⟩ := leads
  have hbelow : place ++ [name] ≠ [] := by simp
  rw [makeFolders, (requireFolder_eq_ok_iff _ _).2 folder]
  simp only [hstep, Bool.not_true, Bool.false_eq_true, if_false, hup, Nat.not_lt.2 fits]
  rcases free with hnone | hfolder
  · refine ⟨tree.put (place ++ [name]) .folder, by simp [hnone], ?_, fun location hne => ?_⟩
    · rw [node?_put hbelow, if_pos rfl]
    · rw [node?_put hbelow, if_neg hne]
  · exact ⟨tree, by simp [hfolder], hfolder, fun _ _ => rfl⟩

/-- Where no file is in the way there are folders all the way afterwards. -/
theorem makeFolders_of_free {names : List String} (leads : ∀ name ∈ names, Path.Leads name)
    (fits : ∀ name ∈ names, name.utf8ByteSize ≤ nameLimit)
    (folder : tree.node? place = some .folder)
    (free : ∀ front, front <+: names → NoFile (tree.node? (place ++ front))) :
    (tree.makeFolders place names).2 = .ok (place ++ names)
      ∧ ∀ front, front <+: names →
          (tree.makeFolders place names).1.node? (place ++ front) = some .folder := by
  induction names generalizing tree place with
  | nil =>
      rw [makeFolders, (requireFolder_eq_ok_iff _ _).2 folder, List.append_nil]
      refine ⟨rfl, fun front hfront => ?_⟩
      rw [List.prefix_nil.1 hfront, List.append_nil]
      exact folder
  | cons name rest ih =>
      obtain ⟨next, hmade, hnext, hothers⟩ :=
        exists_makeFolders_cons (leads name List.mem_cons_self) (fits name List.mem_cons_self)
          folder (free [name] (List.cons_prefix_cons.2 ⟨rfl, List.nil_prefix⟩)) rest
      have hfree : ∀ front, front <+: rest → NoFile (next.node? (place ++ [name] ++ front)) := by
        intro front hfront
        cases front with
        | nil => exact .inr (by rwa [List.append_nil])
        | cons first front =>
            rw [hothers _ (by simp), List.append_assoc]
            exact free _ (List.cons_prefix_cons.2 ⟨rfl, hfront⟩)
      obtain ⟨hok, hway⟩ := ih (fun other hmem => leads other (List.mem_cons_of_mem _ hmem))
        (fun other hmem => fits other (List.mem_cons_of_mem _ hmem)) hnext hfree
      have hall := makeFolders_grows tree place leads
      rw [hmade]
      refine ⟨by rw [hok, List.append_assoc]; rfl, fun front hfront => ?_⟩
      cases front with
      | nil =>
          rw [List.append_nil, ← hmade]
          exact hall.folders folder
      | cons first front =>
          obtain ⟨rfl, hpart⟩ := List.cons_prefix_cons.1 hfront
          have hthere := hway front hpart
          rwa [List.append_assoc] at hthere

/-! ## Writing -/

theorem checkPath_of_short {path : String} (text : path.contains '\x00' = false)
    (occupied : path.isEmpty = false) (short : path.utf8ByteSize ≤ pathLimit) :
    checkPath path = .ok () := by
  rw [checkPath, text, occupied, if_neg (by simp), if_neg (by simp), if_neg (Nat.not_lt.2 short)]

theorem checkPath_of_append {first second : String} (occupied : first ≠ "")
    (h : checkPath (first ++ second) = .ok ()) : checkPath first = .ok () := by
  unfold checkPath at h ⊢
  split at h
  · cases h
  · next hnul =>
      split at h
      · cases h
      · split at h
        · cases h
        · next hsize =>
            simp only [String.utf8ByteSize_append] at hsize
            have hempty : first.isEmpty = false := by simpa using occupied
            rw [if_neg (by simp_all), hempty, if_neg (by simp), if_neg (by omega)]

/-- What can become of what stands at a location when a file is written at the end of some names. -/
inductive Written (place names : Location) (file : Node) (location : Location) :
    Option Node → Option Node → Prop
  | kept (node : Option Node) : Written place names file location node node
  | made {front : Location} (below : front ≠ []) (part : front <+: names) (short : front ≠ names)
      (is : location = place ++ front) : Written place names file location none (some .folder)
  | put {node : Option Node} (is : location = place ++ names) (free : node ≠ some .folder) :
      Written place names file location node (some file)

/-- A path that is joined to that of a folder leads to some names below it. -/
structure LeadsBelow (tree : Tree) (directory path : String) (place names : Location) : Prop where
  located : tree.locate directory = .ok place
  folder : tree.node? place = some .folder
  parts : Path.parts path = names
  leads : ∀ name ∈ names, Path.Leads name

namespace LeadsBelow

variable {directory path last : String} {names : Location}

theorem grows (below : LeadsBelow before directory path place names) (grows : Grows before after) :
    LeadsBelow after directory path place names where
  located := grows.locate below.located
  folder := grows.folders below.folder
  parts := below.parts
  leads := below.leads

theorem occupied (below : LeadsBelow tree directory path place names) : directory ≠ "" := by
  rintro rfl
  have hcheck := (locate_eq_ok_iff.1 below.located).1
  simp [checkPath] at hcheck

theorem relative (below : LeadsBelow tree directory path place names) :
    Path.isAbsolute path = false :=
  Path.isAbsolute_of_leads (below.parts ▸ below.leads)

/-- Where the joined path leads is below the folder. -/
theorem follow_iff (below : LeadsBelow tree directory path place names) {location : Location} :
    tree.follow (tree.origin (Path.join directory path)) (Path.parts (Path.join directory path))
        = .ok location
      ↔ tree.follow place names = .ok location := by
  obtain ⟨lead, -, hparts, hlead⟩ := Path.parts_join below.occupied below.relative
  have hfollow := (locate_eq_ok_iff.1 below.located).2
  have horigin : tree.origin (Path.join directory path) = tree.origin directory := by
    rw [origin, Path.isAbsolute_join below.occupied below.relative, origin]
  rw [hparts, below.parts, horigin]
  rcases hlead with hlead | hlead
  · rw [hlead] at hfollow
    exact follow_append hfollow
  · -- the empty part at the end leads nowhere
    rw [hlead] at hfollow
    exact follow_append (follow_of_append_empty hfollow)

/-- Whether the folders can be made that a file stands in depends on the names alone, unless the
path to them is no path. -/
theorem makeFolder_parent (below : LeadsBelow tree directory path place (names ++ [last])) :
    (checkPath (Path.join directory path) ≠ .ok ()
        ∧ ∃ fault, tree.makeFolder (Path.parent (Path.join directory path)) = (tree, .error fault))
      ∨ tree.makeFolder (Path.parent (Path.join directory path))
        = ((tree.makeFolders place names).1, (tree.makeFolders place names).2.map fun _ => ()) := by
  obtain ⟨lead, hsome, hparts, hlead⟩ := Path.parts_join below.occupied below.relative
  rw [below.parts, ← List.append_assoc] at hparts
  obtain ⟨hcomponents, hne, habsolute, rest, hrest⟩ := Path.parent_of_parts hparts (by simp [hsome])
  have hfollow := (locate_eq_ok_iff.1 below.located).2
  have horigin : tree.origin (Path.parent (Path.join directory path)) = tree.origin directory := by
    rw [origin, habsolute, Path.isAbsolute_join below.occupied below.relative, origin]
  have hway : tree.follow (tree.origin directory) lead = .ok place := by
    rcases hlead with hlead | hlead
    · rwa [hlead] at hfollow
    · exact follow_of_append_empty (hlead ▸ hfollow)
  have hmade : tree.makeFolders (tree.origin (Path.parent (Path.join directory path)))
      (Path.parts (Path.parent (Path.join directory path))) = tree.makeFolders place names := by
    rw [← makeFolders_filter, ← Path.components, hcomponents, makeFolders_filter, horigin,
      makeFolders_append names hway below.folder]
  unfold makeFolder
  rw [if_neg (by simpa using hne)]
  cases hcheck : checkPath (Path.parent (Path.join directory path)) with
  | error fault =>
      refine .inl ⟨fun h => ?_, fault, rfl⟩
      rw [hrest] at h
      rw [checkPath_of_append hne h] at hcheck
      cases hcheck
  | ok => exact .inr (by rw [hmade])

/-- How far a write may get. -/
theorem writeBelow_cases (below : LeadsBelow tree directory path place (names ++ [last]))
    (content : ByteArray) (modified : Moment) :
    (tree.writeBelow (Path.join directory path) content modified).1 = tree
      ∨ (tree.writeBelow (Path.join directory path) content modified).1
          = (tree.makeFolders place names).1
      ∨ (tree.writeBelow (Path.join directory path) content modified).1
          = ((tree.makeFolders place names).1.write (Path.join directory path) content
              modified).1 := by
  unfold writeBelow
  rcases below.makeFolder_parent with ⟨-, fault, hmake⟩ | hmake
  · rw [hmake]
    exact .inl rfl
  · rw [hmake]
    cases (tree.makeFolders place names).2 with
    | error fault => exact .inr (.inl rfl)
    | ok reached => exact .inr (.inr rfl)

/-- A file is put where the names lead, unless there is a folder. -/
theorem node?_write (below : LeadsBelow tree directory path place (names ++ [last]))
    (content : ByteArray) (modified : Moment) (location : Location) :
    (tree.write (Path.join directory path) content modified).1.node? location
        = tree.node? location
      ∨ location = place ++ (names ++ [last]) ∧ tree.node? location ≠ some .folder
        ∧ (tree.write (Path.join directory path) content modified).1.node? location
          = some (.file content modified) := by
  unfold write
  cases hlocate : tree.locate (Path.join directory path) with
  | error fault => exact .inl rfl
  | ok target =>
      obtain rfl := eq_of_follow_names below.leads
        (below.follow_iff.1 (locate_eq_ok_iff.1 hlocate).2)
      dsimp only
      split
      · exact .inl rfl
      · next hfree =>
          rw [node?_put (by simp)]
          split
          · next his => exact .inr ⟨his, fun h => hfree (his ▸ h), rfl⟩
          · exact .inl rfl

theorem start_write (tree : Tree) (path : String) (content : ByteArray) (modified : Moment) :
    (tree.write path content modified).1.start = tree.start := by
  unfold write
  split
  · rfl
  · split <;> rfl

/-- Apart from the file itself, a write makes folders on the way to it, and nothing else. -/
theorem written (below : LeadsBelow tree directory path place (names ++ [last]))
    (content : ByteArray) (modified : Moment) (location : Location) :
    Written place (names ++ [last]) (.file content modified) location (tree.node? location)
      ((tree.writeBelow (Path.join directory path) content modified).1.node? location) := by
  have hleads : ∀ name ∈ names, Path.Leads name :=
    fun name hmem => below.leads name (List.mem_append_left _ hmem)
  have hmade : Written place (names ++ [last]) (.file content modified) location
      (tree.node? location) ((tree.makeFolders place names).1.node? location) := by
    have hpaved := (makeFolders_paved tree place hleads).2 location
    generalize tree.node? location = old at hpaved ⊢
    generalize (tree.makeFolders place names).1.node? location = new at hpaved ⊢
    cases hpaved with
    | kept => exact .kept _
    | @made front some part is =>
        refine .made some (part.trans (List.prefix_append _ _)) ?_ is
        rintro rfl
        exact absurd part.length_le (by simp)
  rcases below.writeBelow_cases content modified with hafter | hafter | hafter
  · rw [hafter]
    exact .kept _
  · rw [hafter]
    exact hmade
  · rw [hafter]
    have hgrown := below.grows (makeFolders_grows tree place hleads)
    rcases hgrown.node?_write content modified location with hsame | ⟨his, hfree, hput⟩
    · rw [hsame]
      exact hmade
    · rw [hput]
      refine .put his fun hfolder => hfree ?_
      exact (makeFolders_grows tree place hleads).folders hfolder

theorem grows_writeBelow (below : LeadsBelow tree directory path place (names ++ [last]))
    (content : ByteArray) (modified : Moment) :
    Grows tree (tree.writeBelow (Path.join directory path) content modified).1 where
  start := by
    have hleads : ∀ name ∈ names, Path.Leads name :=
      fun name hmem => below.leads name (List.mem_append_left _ hmem)
    have hmade := (makeFolders_grows tree place hleads).start
    rcases below.writeBelow_cases content modified with hafter | hafter | hafter
    · rw [hafter]
    · rw [hafter, hmade]
    · rw [hafter, start_write, hmade]
  folders {location} folder := by
    have hwritten := below.written content modified location
    rw [folder] at hwritten
    generalize (tree.writeBelow (Path.join directory path) content modified).1.node? location
      = new at hwritten ⊢
    cases hwritten with
    | kept => rfl
    | put _ free => exact absurd rfl free

end LeadsBelow

/-! ## What has been written -/

/-- A path that file systems with our limits can have. -/
structure Fits (path : String) : Prop where
  check : checkPath path = .ok ()
  parts : ∀ part ∈ Path.parts path, part.utf8ByteSize ≤ nameLimit

/-- There is a file with some content at the end of some names, with folders all the way to it. -/
structure Stands (tree : Tree) (place names : Location) (content : ByteArray) : Prop where
  way {front : Location} (part : front <+: names) (short : front ≠ names) :
    tree.node? (place ++ front) = some .folder
  file : ∃ modified, tree.node? (place ++ names) = some (.file content modified)

namespace LeadsBelow

variable {directory path last : String} {names : Location} {content : ByteArray}

theorem size_le (below : LeadsBelow tree directory path place names)
    (fits : Fits (Path.join directory path)) : ∀ name ∈ names, name.utf8ByteSize ≤ nameLimit := by
  intro name hmem
  obtain ⟨lead, -, hparts, -⟩ := Path.parts_join below.occupied below.relative
  refine fits.parts name ?_
  rw [hparts, below.parts]
  exact List.mem_append_right _ hmem

/-- The file that stands at the end of a way of folders can be read. -/
theorem read_of_stands (below : LeadsBelow tree directory path place names)
    (fits : Fits (Path.join directory path)) (stands : Stands tree place names content) :
    tree.read (Path.join directory path) = .ok content := by
  obtain ⟨modified, hfile⟩ := stands.file
  have hlocate : tree.locate (Path.join directory path) = .ok (place ++ names) := by
    refine locate_eq_ok_iff.2 ⟨fits.check, below.follow_iff.2 ?_⟩
    exact follow_names below.leads (below.size_le fits) fun _ part short => stands.way part short
  rw [read, look_eq_ok_iff.2 ⟨_, hlocate, hfile⟩]

/-- Where no file is in the way and no folder at the end, a file that is written stands. -/
theorem stands_writeBelow (below : LeadsBelow tree directory path place (names ++ [last]))
    (fits : Fits (Path.join directory path))
    (free : ∀ front, front <+: names → NoFile (tree.node? (place ++ front)))
    (clear : tree.node? (place ++ (names ++ [last])) ≠ some .folder) (modified : Moment) :
    Stands (tree.writeBelow (Path.join directory path) content modified).1 place (names ++ [last])
      content := by
  have hsize := below.size_le fits
  have hleads : ∀ name ∈ names, Path.Leads name :=
    fun name hmem => below.leads name (List.mem_append_left _ hmem)
  have hgrown := below.grows (makeFolders_grows tree place hleads)
  obtain ⟨hmade, hway⟩ := makeFolders_of_free hleads
    (fun name hmem => hsize name (List.mem_append_left _ hmem)) below.folder free
  have hfolders : ∀ front, front <+: names ++ [last] → front ≠ names ++ [last] →
      (tree.makeFolders place names).1.node? (place ++ front) = some .folder := by
    intro front part short
    rcases List.prefix_concat_iff.1 part with h | h
    · exact absurd h short
    · exact hway front h
  have hlocate : (tree.makeFolders place names).1.locate (Path.join directory path)
      = .ok (place ++ (names ++ [last])) := by
    refine locate_eq_ok_iff.2 ⟨fits.check, hgrown.follow_iff.2 ?_⟩
    exact follow_names below.leads hsize hfolders
  have hclear : (tree.makeFolders place names).1.node? (place ++ (names ++ [last]))
      ≠ some .folder := by
    have hpaved := (makeFolders_paved tree place hleads).2 (place ++ (names ++ [last]))
    generalize tree.node? (place ++ (names ++ [last])) = old at hpaved clear
    generalize (tree.makeFolders place names).1.node? (place ++ (names ++ [last]))
      = new at hpaved ⊢
    cases hpaved with
    | kept => exact clear
    | made _ part is =>
        obtain rfl := List.append_cancel_left is
        exact absurd part.length_le (by simp)
  have hafter : (tree.writeBelow (Path.join directory path) content modified).1
      = (tree.makeFolders place names).1.put (place ++ (names ++ [last]))
          (.file content modified) := by
    unfold writeBelow
    rcases below.makeFolder_parent with ⟨hcheck, -⟩ | hmake
    · exact absurd fits.check hcheck
    · rw [hmake, hmade]
      show ((tree.makeFolders place names).1.write _ content modified).1 = _
      unfold write
      rw [hlocate]
      dsimp only
      split
      · next hfolder => exact absurd hfolder hclear
      · rfl
  rw [hafter]
  constructor
  · intro front part short
    rw [node?_put (by simp), if_neg fun h => short (List.append_cancel_left h)]
    exact hfolders front part short
  · exact ⟨modified, by rw [node?_put (by simp), if_pos rfl]⟩

end LeadsBelow

end Tree

end LiveTemplates
