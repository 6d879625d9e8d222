import LiveTemplates.Error

set_option autoImplicit false

/-! # Canonical names are their own canonical spelling

What is left of a spelling when its segments have been walked along are plain segments: none is empty,
`.` or `..`, and none holds a separator (`plain_of_walk`). Such segments, each with a slash before it,
are cut at the same places again and all of them are kept (`segments_join`, `walk_of_plain`), so a
canonical name is canonical to itself. -/

namespace LiveTemplates

namespace Text

variable {separator : Char → Bool}

theorem splitAtChars_ne_nil (separator : Char → Bool) (cs : List Char) :
    splitAtChars separator cs ≠ [] := by
  cases cs with
  | nil => simp [splitAtChars]
  | cons c rest =>
      unfold splitAtChars
      split
      · simp
      · split <;> simp

/-- A separator ends the piece before it. -/
theorem splitAtChars_cons_of_separator {c : Char} (h : separator c = true) (cs : List Char) :
    splitAtChars separator (c :: cs) = [] :: splitAtChars separator cs := by
  rw [splitAtChars]
  cases hsplit : splitAtChars separator cs with
  | nil => exact absurd hsplit (splitAtChars_ne_nil separator cs)
  | cons piece pieces => simp [h]

/-- Text without separators goes to the piece that comes next. -/
theorem splitAtChars_append {cs piece : List Char} {pieces : List (List Char)} (part : List Char)
    (unbroken : ∀ c ∈ part, separator c = false)
    (h : splitAtChars separator cs = piece :: pieces) :
    splitAtChars separator (part ++ cs) = (part ++ piece) :: pieces := by
  induction part with
  | nil => exact h
  | cons c part ih =>
      have hrest := ih fun other hmem => unbroken other (List.mem_cons_of_mem _ hmem)
      rw [List.cons_append, splitAtChars, hrest]
      simp [unbroken c List.mem_cons_self]

/-- Text without separators is one piece. -/
theorem splitAtChars_of_unbroken {part : List Char} (unbroken : ∀ c ∈ part, separator c = false) :
    splitAtChars separator part = [part] := by
  have hpieces := splitAtChars_append part unbroken (rfl : splitAtChars separator [] = [] :: [])
  rwa [List.append_nil] at hpieces

/-- What is before a separator and what is after it are cut each on its own. -/
theorem splitAtChars_append_separator {c : Char} (h : separator c = true)
    (first second : List Char) :
    splitAtChars separator (first ++ c :: second)
      = splitAtChars separator first ++ splitAtChars separator second := by
  induction first with
  | nil => exact splitAtChars_cons_of_separator h second
  | cons d rest ih =>
      rw [List.cons_append, splitAtChars, ih]
      cases hrest : splitAtChars separator rest with
      | nil => exact absurd hrest (splitAtChars_ne_nil separator rest)
      | cons piece pieces =>
          rw [splitAtChars, hrest, List.cons_append]
          dsimp only
          split <;> rfl

/-- There is no separator in a piece. -/
theorem unbroken_of_mem_splitAtChars {cs piece : List Char}
    (h : piece ∈ splitAtChars separator cs) : ∀ c ∈ piece, separator c = false := by
  induction cs generalizing piece with
  | nil =>
      rw [splitAtChars, List.mem_singleton] at h
      subst h
      simp
  | cons first rest ih =>
      by_cases hfirst : separator first = true
      · rw [splitAtChars_cons_of_separator hfirst, List.mem_cons] at h
        rcases h with rfl | h
        · simp
        · exact ih h
      · cases hsplit : splitAtChars separator rest with
        | nil => exact absurd hsplit (splitAtChars_ne_nil separator rest)
        | cons head pieces =>
            have hcons := splitAtChars_append [first] (by simpa using hfirst) hsplit
            rw [List.singleton_append] at hcons
            rw [hcons, List.mem_cons] at h
            rcases h with rfl | h
            · intro c hc
              rcases List.mem_append.1 hc with hc | hc
              · rw [List.mem_singleton] at hc
                subst hc
                simpa using hfirst
              · exact ih (hsplit ▸ List.mem_cons_self) c hc
            · exact ih (hsplit ▸ List.mem_cons_of_mem _ h)

/-- Pieces with a slash before each are cut where they begin, if slashes separate. -/
theorem splitAtChars_flatMap_slash (slash : separator '/' = true) {parts : List (List Char)}
    (unbroken : ∀ part ∈ parts, ∀ c ∈ part, separator c = false) :
    splitAtChars separator (parts.flatMap ('/' :: ·)) = [] :: parts := by
  induction parts with
  | nil => rfl
  | cons first rest ih =>
      have hrest := ih fun part hmem => unbroken part (List.mem_cons_of_mem _ hmem)
      rw [List.flatMap_cons, List.cons_append, splitAtChars_cons_of_separator slash,
        splitAtChars_append first (unbroken first List.mem_cons_self) hrest, List.append_nil]

/-- Cutting a text at a character and putting that character before each piece adds one of it at the
start. -/
theorem flatMap_splitAtChars (separator : Char) (cs : List Char) :
    (splitAtChars (· = separator) cs).flatMap (separator :: ·) = separator :: cs := by
  induction cs with
  | nil => rfl
  | cons c rest ih =>
      cases hrest : splitAtChars (· = separator) rest with
      | nil => exact absurd hrest (splitAtChars_ne_nil _ rest)
      | cons piece pieces =>
          rw [hrest, List.flatMap_cons, List.cons_append, List.cons.injEq] at ih
          rw [splitAtChars, hrest]
          by_cases hcut : c = separator
          · simp [hcut, ih.2]
          · simp [hcut, ih.2]

end Text

namespace Name

variable {parts : List (List Char)}

/-- A segment that stands for itself. -/
structure Plain (segment : List Char) : Prop where
  occupied : segment ≠ []
  not_here : segment ≠ ['.']
  not_up : segment ≠ ['.', '.']
  unbroken : ∀ c ∈ segment, isSeparator c = false

/-- No slash is in a plain segment. -/
theorem Plain.slash_notMem {segment : List Char} (plain : Plain segment) : '/' ∉ segment :=
  fun hmem => by simpa [isSeparator] using plain.unbroken '/' hmem

/-- What is kept of segments is plain. -/
theorem plain_of_walk {kept parts result : List (List Char)} (h : walk kept parts = .ok result)
    (plain : ∀ segment ∈ kept, Plain segment)
    (unbroken : ∀ segment ∈ parts, ∀ c ∈ segment, isSeparator c = false) :
    ∀ segment ∈ result, Plain segment := by
  induction parts generalizing kept with
  | nil =>
      cases h
      exact plain
  | cons first rest ih =>
      have hrest := fun segment hmem => unbroken segment (List.mem_cons_of_mem first hmem)
      unfold walk at h
      split at h
      · exact ih h plain hrest
      · next hcounts =>
          split at h
          · cases kept with
            | nil => cases h
            | cons last kept =>
                exact ih h (fun segment hmem => plain segment (List.mem_cons_of_mem _ hmem)) hrest
          · next hup =>
              refine ih h ?_ hrest
              intro segment hmem
              rcases List.mem_cons.1 hmem with rfl | hmem
              · exact ⟨fun he => hcounts (.inl he), fun hd => hcounts (.inr hd), hup,
                  unbroken _ List.mem_cons_self⟩
              · exact plain segment hmem

/-- Plain segments are all kept. -/
theorem walk_of_plain (plain : ∀ segment ∈ parts, Plain segment)
    (kept : List (List Char)) : walk kept parts = .ok (parts.reverse ++ kept) := by
  induction parts generalizing kept with
  | nil => rfl
  | cons first rest ih =>
      have hfirst := plain first List.mem_cons_self
      unfold walk
      rw [if_neg (by simp [hfirst.occupied, hfirst.not_here]), if_neg hfirst.not_up,
        ih fun segment hmem => plain segment (List.mem_cons_of_mem _ hmem)]
      simp

/-- The text of plain segments is cut where they begin. -/
theorem segments_join (plain : ∀ segment ∈ parts, Plain segment) :
    segments (join parts) = [] :: parts := by
  unfold segments join
  rw [String.toList_ofList]
  exact Text.splitAtChars_flatMap_slash rfl fun segment hmem => (plain segment hmem).unbroken

/-- Slashes alone cut the text of plain segments at the same places. -/
theorem splitAtChars_join (plain : ∀ segment ∈ parts, Plain segment) :
    Text.splitAtChars (· = '/') (join parts).toList = [] :: parts := by
  rw [join, String.toList_ofList]
  refine Text.splitAtChars_flatMap_slash (by simp) fun segment hmem c hc => ?_
  have hunbroken := (plain segment hmem).unbroken c hc
  rw [isSeparator, Bool.or_eq_false_iff] at hunbroken
  exact hunbroken.1

/-- The walk keeps all of the text of plain segments. -/
theorem walk_join (plain : ∀ segment ∈ parts, Plain segment) :
    walk [] (segments (join parts)) = .ok parts.reverse := by
  -- the slash before the first segment leaves an empty one before it
  rw [segments_join plain, walk, if_pos (.inl rfl), walk_of_plain plain, List.append_nil]

/-- The text of plain segments is canonical. -/
theorem canonical_join (occupied : parts ≠ []) (plain : ∀ segment ∈ parts, Plain segment) :
    canonical (join parts) = .ok (join parts) := by
  unfold canonical
  rw [walk_join plain]
  simp [occupied]

/-- A canonical name is the text of the segments that are kept of its spelling, and these are
plain. -/
theorem exists_plain_of_canonical {spelling name : String} (h : canonical spelling = .ok name) :
    ∃ parts, parts ≠ [] ∧ (∀ segment ∈ parts, Plain segment) ∧ name = join parts
      ∧ walk [] (segments spelling) = .ok parts.reverse := by
  unfold canonical at h
  cases hwalk : walk [] (segments spelling) with
  | error fault => simp [hwalk] at h
  | ok kept =>
      simp only [hwalk] at h
      split at h
      · cases h
      · next hsome =>
          refine ⟨kept.reverse, by simpa using hsome, ?_, (Except.ok.inj h).symm,
            by rw [List.reverse_reverse]⟩
          intro segment hmem
          refine plain_of_walk hwalk (by simp) ?_ segment (List.mem_reverse.1 hmem)
          intro part hpart
          exact Text.unbroken_of_mem_splitAtChars hpart

/-- A canonical name is its own canonical spelling. -/
theorem canonical_of_canonical {spelling name : String} (h : canonical spelling = .ok name) :
    canonical name = .ok name := by
  obtain ⟨parts, occupied, plain, rfl, -⟩ := exists_plain_of_canonical h
  exact canonical_join occupied plain

theorem canonicalOrError_eq_ok_iff {spelling name : String} :
    canonicalOrError spelling = .ok name ↔ canonical spelling = .ok name := by
  unfold canonicalOrError
  cases canonical spelling with
  | error fault => exact iff_of_false nofun nofun
  | ok other =>
      change Except.ok other = .ok name ↔ _
      simp

theorem canonical_of_canonicalOrError {spelling name : String}
    (h : canonicalOrError spelling = .ok name) : canonical name = .ok name :=
  canonical_of_canonical (canonicalOrError_eq_ok_iff.1 h)

/-- The engine refuses a spelling as one that is no name. -/
theorem exists_fault_of_canonicalOrError {spelling : String} {e : TemplateError}
    (h : canonicalOrError spelling = .error e) : ∃ fault, e = .invalidName spelling fault := by
  unfold canonicalOrError at h
  cases hname : canonical spelling with
  | error fault =>
      rw [hname] at h
      cases h
      exact ⟨fault, rfl⟩
  | ok name =>
      rw [hname] at h
      cases h

end Name

end LiveTemplates
