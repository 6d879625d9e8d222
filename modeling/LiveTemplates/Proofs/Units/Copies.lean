import LiveTemplates.Engine.Basic
import LiveTemplates.Proofs.Files.Writing

set_option autoImplicit false

/-! # Where copies of sources stand

The copy of a source stands in a folder under the segments of its name, with the generation added to
the last one. Different names and different generations have different places
(`copyPlace_injective`): the generation can be told from the digits at the end. But a name can be
such that its copy stands below the place of another copy, as if that were a folder
(`below_of_prefixed`). -/

namespace LiveTemplates

namespace Name

/-- A name is made of plain segments. -/
structure Segmented (name : String) (front : List (List Char)) (last : List Char) : Prop where
  is : name = join (front ++ [last])
  plain : ∀ segment ∈ front ++ [last], Plain segment

/-- The segments of a canonical name. -/
theorem exists_segmented {name : String} (canonical : Name.canonical name = .ok name) :
    ∃ front last, Segmented name front last := by
  obtain ⟨parts, occupied, plain, is, -⟩ := exists_plain_of_canonical canonical
  obtain ⟨front, last, rfl⟩ := (List.eq_nil_or_concat' parts).resolve_left occupied
  exact ⟨front, last, is, plain⟩

theorem join_append_singleton (front : List (List Char)) (last : List Char) :
    (join (front ++ [last])).toList = '/' :: (front.flatMap (· ++ ['/']) ++ last) := by
  unfold join
  rw [String.toList_ofList]
  induction front with
  | nil => simp
  | cons first front ih => simp_all

end Name

open Name

/-- What is added to a name for the copies of a generation. -/
def Generation.mark (generation : Generation) : List Char :=
  '.' :: 'g' :: (toString generation.value).toList ++ ".hbs".toList

namespace Units

/-- The names that lead to the copy of a source, from the folder of the copies on. -/
def copyPlace (name : String) (generation : Generation) : Location :=
  Path.parts (Path.relative name ++ "." ++ generation.text ++ ".hbs")

theorem toList_digits (n : Nat) : ∀ c ∈ (toString n).toList, c.isDigit = true := by
  intro c hc
  rw [Nat.toString_eq_ofList_toDigits, String.toList_ofList] at hc
  exact Nat.isDigit_of_mem_toDigits (by decide) (by decide) hc

theorem slash_notMem_mark (generation : Generation) : '/' ∉ generation.mark := by
  unfold Generation.mark
  intro hmem
  simp only [List.cons_append, List.mem_cons, List.mem_append, Char.reduceEq, false_or] at hmem
  rcases hmem with hmem | hmem
  · cases toList_digits _ _ hmem
  · simp at hmem

theorem splitAtChars_of_notMem {tail : List Char} (unbroken : '/' ∉ tail) :
    Text.splitAtChars (· = '/') tail = [tail] :=
  Text.splitAtChars_of_unbroken fun c hc => by
    simpa using fun h : c = '/' => unbroken (h ▸ hc)

theorem splitAtChars_flatMap {front : List (List Char)} {tail : List Char}
    (unbroken : ∀ segment ∈ front, '/' ∉ segment) :
    Text.splitAtChars (· = '/') (front.flatMap (· ++ ['/']) ++ tail)
      = front ++ Text.splitAtChars (· = '/') tail := by
  induction front with
  | nil => rfl
  | cons first front ih =>
      have hlist : (first :: front).flatMap (· ++ ['/']) ++ tail
          = first ++ '/' :: (front.flatMap (· ++ ['/']) ++ tail) := by
        simp
      rw [hlist, Text.splitAtChars_append_separator (by simp),
        splitAtChars_of_notMem (unbroken first List.mem_cons_self),
        ih fun segment hmem => unbroken segment (List.mem_cons_of_mem _ hmem)]
      rfl

variable {name other : String} {front front' : List (List Char)} {last last' : List Char}
  {generation later : Generation}

theorem relative_segmented (segmented : Segmented name front last) :
    (Path.relative name).toList = front.flatMap (· ++ ['/']) ++ last := by
  have htext := Path.toList_relative_join (by simp) segmented.plain
  rw [join_append_singleton, ← segmented.is] at htext
  exact List.tail_eq_of_cons_eq htext

/-- A copy stands under the segments of its name, the last of them with the generation. -/
theorem copyPlace_segmented (segmented : Segmented name front last) (generation : Generation) :
    copyPlace name generation
      = (front ++ [last ++ generation.mark]).map String.ofList := by
  have hlist : (Path.relative name ++ "." ++ generation.text ++ ".hbs").toList
      = front.flatMap (· ++ ['/']) ++ (last ++ generation.mark) := by
    simp [relative_segmented segmented, Generation.text, Generation.mark]
  have hlast : '/' ∉ last ++ generation.mark := by
    rw [List.mem_append, not_or]
    exact ⟨(segmented.plain last (by simp)).slash_notMem, slash_notMem_mark generation⟩
  rw [copyPlace, Path.parts, Text.splitAt, hlist, splitAtChars_flatMap,
    splitAtChars_of_notMem hlast]
  exact fun segment hmem =>
    (segmented.plain segment (List.mem_append_left _ hmem)).slash_notMem

/-- Each of the names leads on. -/
theorem leads_copyPlace (segmented : Segmented name front last) (generation : Generation) :
    ∀ part ∈ copyPlace name generation, Path.Leads part := by
  intro part hmem
  rw [copyPlace_segmented segmented, List.mem_map] at hmem
  obtain ⟨segment, hmem, rfl⟩ := hmem
  rcases List.mem_append.1 hmem with hmem | hmem
  · have hplain := segmented.plain segment (List.mem_append_left _ hmem)
    exact Path.leads_ofList hplain.occupied hplain.not_here hplain.not_up
  · rw [List.mem_singleton] at hmem
    subst hmem
    have hlong : 2 < (last ++ generation.mark).length := by
      simp [Generation.mark]
      omega
    refine Path.leads_ofList ?_ ?_ ?_ <;>
      · intro h
        rw [h] at hlong
        simp at hlong

/-- The generation can be told from what is added to a name. -/
theorem append_mark_injective (h : last ++ generation.mark = last' ++ later.mark) :
    last = last' ∧ generation = later := by
  -- read backwards: the digits come up to the first character that is none
  have hback : (toString generation.value).toList.reverse ++ 'g' :: '.' :: last.reverse
      = (toString later.value).toList.reverse ++ 'g' :: '.' :: last'.reverse := by
    have hreverse := congrArg List.reverse h
    simpa [Generation.mark] using hreverse
  have hdigits : ∀ n : Nat, ∀ c ∈ (toString n).toList.reverse, c.isDigit = true :=
    fun n c hc => toList_digits n c (List.mem_reverse.1 hc)
  have htake := congrArg (List.takeWhile Char.isDigit) hback
  have hdrop := congrArg (List.dropWhile Char.isDigit) hback
  rw [List.takeWhile_append_of_pos (hdigits _), List.takeWhile_append_of_pos (hdigits _),
    List.takeWhile_cons_of_neg (by decide), List.takeWhile_cons_of_neg (by decide),
    List.append_nil, List.append_nil, List.reverse_inj] at htake
  rw [List.dropWhile_append_of_pos (hdigits _), List.dropWhile_append_of_pos (hdigits _),
    List.dropWhile_cons_of_neg (by decide), List.dropWhile_cons_of_neg (by decide)] at hdrop
  constructor
  · simpa using hdrop
  · have hvalue : generation.value = later.value := by
      have hread := congrArg (fun digits => Nat.ofDigitChars 10 digits 0) htake
      simpa [Nat.toString_eq_ofList_toDigits] using hread
    cases generation
    cases later
    exact congrArg Generation.mk hvalue

theorem map_ofList_injective {first second : List (List Char)}
    (h : first.map String.ofList = second.map String.ofList) : first = second := by
  have hback := congrArg (List.map String.toList) h
  simpa [Function.comp_def] using hback

/-- Copies for different names or of different generations stand at different places. -/
theorem copyPlace_injective (segmented : Segmented name front last)
    (segmented' : Segmented other front' last')
    (h : copyPlace name generation = copyPlace other later) :
    name = other ∧ generation = later := by
  rw [copyPlace_segmented segmented, copyPlace_segmented segmented'] at h
  obtain ⟨rfl, hends⟩ := List.append_inj' (map_ofList_injective h) rfl
  obtain ⟨rfl, rfl⟩ := append_mark_injective (List.singleton_inj.1 hends)
  exact ⟨segmented.is.trans segmented'.is.symm, rfl⟩

/-- One name lies below a copy for another one, as if that copy were a folder. -/
def Below (name other : String) : Prop :=
  ∃ generation : Generation, ∃ rest : String,
    other = name ++ "." ++ generation.text ++ ".hbs/" ++ rest

/-- A copy that stands on the way to another one belongs to a name that the other lies below. -/
theorem below_of_prefixed (segmented : Segmented name front last)
    (segmented' : Segmented other front' last')
    (part : copyPlace name generation <+: copyPlace other later)
    (short : copyPlace name generation ≠ copyPlace other later) : Below name other := by
  rw [copyPlace_segmented segmented, copyPlace_segmented segmented'] at part short
  rw [List.map_append, List.map_singleton, List.map_append, List.map_singleton] at part short
  obtain ⟨more, hmore⟩ := (List.prefix_concat_iff.1 part).resolve_left short
  have hsplit : (front ++ [last ++ generation.mark]).map String.ofList ++ more
      = front'.map String.ofList := by
    rw [List.map_append, List.map_singleton, hmore]
  obtain ⟨way, rest, rfl, hway, -⟩ := List.map_eq_append_iff.1 hsplit.symm
  obtain rfl := map_ofList_injective hway
  refine ⟨generation, String.ofList (rest.flatMap (· ++ ['/']) ++ last'), ?_⟩
  rw [← String.toList_inj, segmented'.is, join_append_singleton]
  simp [segmented.is, join_append_singleton, Generation.mark, Generation.text]

/-! ## Sources without a name -/

/-- The copy of a source without a name stands where that of a name would. -/
theorem segmented_inline (index : Nat) :
    Segmented ("/" ++ Engine.inlineName index) [] (Engine.inlineName index).toList := by
  have hchars : ∀ c ∈ (Engine.inlineName index).toList, isSeparator c = false := by
    intro c hc
    simp only [Engine.inlineName, String.toList_append, List.mem_append] at hc
    rcases hc with hc | hc
    · have hplain : ∀ c ∈ "inline-".toList, isSeparator c = false := by simp [isSeparator]
      exact hplain c hc
    · have hdigit := toList_digits index c hc
      rw [Bool.eq_false_iff]
      intro hseparator
      simp only [isSeparator, Bool.or_eq_true, decide_eq_true_eq] at hseparator
      rcases hseparator with rfl | rfl <;> cases hdigit
  have hlong : 2 < (Engine.inlineName index).toList.length := by
    simp [Engine.inlineName]
  constructor
  · rw [← String.toList_inj, join_append_singleton]
    simp
  · intro segment hmem
    rw [List.nil_append, List.mem_singleton] at hmem
    subst hmem
    refine ⟨?_, ?_, ?_, hchars⟩ <;>
      · intro h
        rw [h] at hlong
        simp at hlong

theorem relative_inline (index : Nat) :
    Path.relative (Engine.inlineName index) = Path.relative ("/" ++ Engine.inlineName index) := by
  rw [← String.toList_inj, relative_segmented (segmented_inline index)]
  simp [Path.relative, Engine.inlineName]

/-- The path of a copy does not show whether its name begins with a slash. -/
theorem artifactPath_inline (directory : String) (index : Nat) (generation : Generation) :
    artifactPath directory (Engine.inlineName index) generation
      = artifactPath directory ("/" ++ Engine.inlineName index) generation := by
  rw [artifactPath, artifactPath, relative_inline]

/-- No source without a name lies below a copy: it has one segment only. -/
theorem not_below_inline (segmented : Segmented name front last) (index : Nat) :
    ¬ Below name ("/" ++ Engine.inlineName index) := by
  rintro ⟨generation, rest, h⟩
  have hplain := (segmented_inline index).plain _ (List.mem_singleton_self _)
  have hlist : '/' :: (Engine.inlineName index).toList = '/' :: (front.flatMap (· ++ ['/']) ++ last
      ++ ".".toList ++ generation.text.toList ++ ".hbs/".toList ++ rest.toList) := by
    simpa [segmented.is, join_append_singleton] using congrArg String.toList h
  refine hplain.slash_notMem ?_
  rw [List.tail_eq_of_cons_eq hlist]
  simp

/-! ## Copies that are written -/

/-- Neither of two names lies below a copy for the other. -/
def Apart (name other : String) : Prop :=
  ¬ Below name other ∧ ¬ Below other name

theorem length_copyPlace (segmented : Segmented name front last) (generation : Generation) :
    (copyPlace name generation).length = front.length + 1 := by
  rw [copyPlace_segmented segmented]
  simp

/-- Copies do not stand on the way to one another, unless a name lies below a copy. -/
theorem eq_of_prefixed (segmented : Segmented name front last)
    (segmented' : Segmented other front' last') (apart : name ≠ other → ¬ Below name other)
    (part : copyPlace name generation <+: copyPlace other later) :
    copyPlace name generation = copyPlace other later := by
  by_cases hname : name = other
  · subst hname
    exact part.eq_of_length (by
      rw [length_copyPlace segmented, length_copyPlace segmented])
  · by_contra short
    exact apart hname (below_of_prefixed segmented segmented' part short)

variable {tree : Tree} {directory : String} {place : Location}

/-- The path of a copy leads to its place below the folder. -/
theorem leadsBelow_copy (segmented : Segmented other front' last')
    (located : tree.locate directory = .ok place) (folder : tree.node? place = some .folder)
    (later : Generation) :
    ∃ names final, copyPlace other later = names ++ [final]
      ∧ tree.LeadsBelow directory (Path.relative other ++ "." ++ later.text ++ ".hbs") place
          (names ++ [final]) := by
  have hplace := copyPlace_segmented segmented later
  rw [List.map_append, List.map_singleton] at hplace
  refine ⟨_, _, hplace, located, folder, hplace, ?_⟩
  rw [← hplace]
  exact leads_copyPlace segmented later

/-- Nothing is in the way of the copies for a name: no file where a folder has to be, and no folder
where a copy has to be. -/
structure Clear (tree : Tree) (place : Location) (name : String) : Prop where
  way {generation : Generation} {front : Location} (part : front <+: copyPlace name generation)
    (short : front ≠ copyPlace name generation) : Tree.NoFile (tree.node? (place ++ front))
  target (generation : Generation) :
    tree.node? (place ++ copyPlace name generation) ≠ some .folder

/-- A copy that is written for some name does not get in the way of the copies for another one,
unless one of them lies below the other, nor of later copies for the same one. -/
theorem Clear.write (clear : Clear tree place name) (segmented : Segmented name front last)
    (segmented' : Segmented other front' last') (apart : name ≠ other → Apart name other)
    (located : tree.locate directory = .ok place) (folder : tree.node? place = some .folder)
    (later : Generation) (content : ByteArray) (modified : Moment) :
    Clear (tree.writeBelow (artifactPath directory other later) content modified).1 place name := by
  obtain ⟨names, final, hplace, below⟩ := leadsBelow_copy segmented' located folder later
  constructor
  · intro generation front part short
    have hold := clear.way part short
    have hwritten := below.written content modified (place ++ front)
    rw [← artifactPath, ← hplace] at hwritten
    generalize tree.node? (place ++ front) = old at hold hwritten
    generalize (tree.writeBelow _ content modified).1.node? (place ++ front) = new at hwritten ⊢
    cases hwritten with
    | kept => exact hold
    | made => exact .inr rfl
    | put is =>
        -- the file would stand on the way
        obtain rfl := List.append_cancel_left is
        exact absurd (eq_of_prefixed segmented' segmented (fun h => (apart h.symm).2) part) short
  · intro generation
    have hold := clear.target generation
    have hwritten := below.written content modified (place ++ copyPlace name generation)
    rw [← artifactPath, ← hplace] at hwritten
    generalize tree.node? (place ++ copyPlace name generation) = old at hold hwritten
    generalize (tree.writeBelow _ content modified).1.node? (place ++ copyPlace name generation)
      = new at hwritten ⊢
    cases hwritten with
    | kept => exact hold
    | made _ part short is =>
        -- the folder would stand in place of the copy
        obtain rfl := List.append_cancel_left is
        exact absurd (eq_of_prefixed segmented segmented' (fun h => (apart h).1) part) short
    | put => simp

/-- Where nothing is in the way of it, a copy that is written stands. -/
theorem Clear.stands_write (clear : Clear tree place name) (segmented : Segmented name front last)
    (located : tree.locate directory = .ok place) (folder : tree.node? place = some .folder)
    {generation : Generation} (fits : Tree.Fits (artifactPath directory name generation))
    (content : ByteArray) (modified : Moment) :
    Tree.Stands (tree.writeBelow (artifactPath directory name generation) content modified).1 place
      (copyPlace name generation) content := by
  obtain ⟨names, final, hplace, below⟩ := leadsBelow_copy segmented located folder generation
  rw [hplace]
  refine below.stands_writeBelow fits ?_ ?_ modified
  · intro front hfront
    refine clear.way (hplace ▸ hfront.trans (List.prefix_append _ _)) ?_
    rw [hplace]
    rintro rfl
    exact absurd hfront.length_le (by simp)
  · rw [← hplace]
    exact clear.target generation

/-- A copy that stands can be read. -/
theorem read_copy (segmented : Segmented name front last)
    (located : tree.locate directory = .ok place) (folder : tree.node? place = some .folder)
    {generation : Generation} (fits : Tree.Fits (artifactPath directory name generation))
    {content : ByteArray} (stands : tree.Stands place (copyPlace name generation) content) :
    tree.read (artifactPath directory name generation) = .ok content := by
  obtain ⟨names, final, hplace, below⟩ := leadsBelow_copy segmented located folder generation
  rw [hplace] at stands
  exact below.read_of_stands fits stands

/-- The folder of the copies is there, nothing is in the way of those for a name, and the copy for a
template of that name, if there is one, holds its source. -/
structure Keeps (directory : String) (place : Location) (name : String) (tree : Tree)
    (template : Option LiveTemplate) : Prop where
  located : tree.locate directory = .ok place
  folder : tree.node? place = some .folder
  clear : Clear tree place name
  holds {made : LiveTemplate} (is : template = some made)
    (fits : Tree.Fits (artifactPath directory name made.unit.generation)) :
    tree.Stands place (copyPlace name made.unit.generation) made.source.toUTF8

namespace Keeps

variable {template : Option LiveTemplate}

theorem filter (keeps : Keeps directory place name tree template) (test : LiveTemplate → Bool) :
    Keeps directory place name tree (template.filter test) where
  located := keeps.located
  folder := keeps.folder
  clear := keeps.clear
  holds is := keeps.holds (Option.eq_some_of_filter_eq_some is)

theorem none (keeps : Keeps directory place name tree template) :
    Keeps directory place name tree none := by
  simpa using keeps.filter fun _ => false

/-- What happens elsewhere makes no difference. -/
theorem of_same {after : Tree} (keeps : Keeps directory place name tree template)
    (located : after.locate directory = .ok place)
    (same : ∀ below, after.node? (place ++ below) = tree.node? (place ++ below)) :
    Keeps directory place name after template where
  located := located
  folder := by
    have hfolder := same []
    rw [List.append_nil] at hfolder
    rw [hfolder, keeps.folder]
  clear := by
    refine ⟨fun part short => ?_, fun generation => ?_⟩
    · rw [same]
      exact keeps.clear.way part short
    · rw [same]
      exact keeps.clear.target generation
  holds is fits := by
    obtain ⟨way, file⟩ := keeps.holds is fits
    refine ⟨fun part short => ?_, ?_⟩
    · rw [same]
      exact way part short
    · rw [same]
      exact file

/-- A copy that is written for something else leaves the copy as it is. -/
theorem write_other (keeps : Keeps directory place name tree template)
    (segmented : Segmented name front last) (segmented' : Segmented other front' last')
    (ne : name ≠ other) (apart : Apart name other) (later : Generation) (content : ByteArray)
    (modified : Moment) :
    Keeps directory place name
      (tree.writeBelow (artifactPath directory other later) content modified).1 template := by
  obtain ⟨names, final, hplace, below⟩ :=
    leadsBelow_copy segmented' keeps.located keeps.folder later
  have hgrows := below.grows_writeBelow content modified
  refine ⟨hgrows.locate keeps.located, hgrows.folders keeps.folder,
    keeps.clear.write segmented segmented' (fun _ => apart) keeps.located keeps.folder later content
      modified, fun {made} is fits => ?_⟩
  have hstands := keeps.holds is fits
  refine ⟨fun part short => hgrows.folders (hstands.way part short), ?_⟩
  obtain ⟨moment, hfile⟩ := hstands.file
  refine ⟨moment, ?_⟩
  have hwritten := below.written content modified (place ++ copyPlace name made.unit.generation)
  rw [hfile, ← artifactPath, ← hplace] at hwritten
  generalize (tree.writeBelow _ content modified).1.node? _ = new at hwritten ⊢
  cases hwritten with
  | kept => rfl
  | put is =>
      have hsame := copyPlace_injective segmented segmented' (List.append_cancel_left is)
      exact absurd hsame.1 ne

/-- A copy that is written for a template holds its source. -/
theorem write_own (keeps : Keeps directory place name tree template)
    (segmented : Segmented name front last) (made : LiveTemplate) (modified : Moment) :
    Keeps directory place name
      (tree.writeBelow (artifactPath directory name made.unit.generation) made.source.toUTF8
        modified).1 (some made) := by
  obtain ⟨names, final, hplace, below⟩ :=
    leadsBelow_copy segmented keeps.located keeps.folder made.unit.generation
  have hgrows := below.grows_writeBelow made.source.toUTF8 modified
  refine ⟨hgrows.locate keeps.located, hgrows.folders keeps.folder,
    keeps.clear.write segmented segmented (fun h => absurd rfl h) keeps.located keeps.folder _ _
      modified, fun is fits => ?_⟩
  cases is
  exact keeps.clear.stands_write segmented keeps.located keeps.folder fits _ modified

end Keeps

end Units

end LiveTemplates
