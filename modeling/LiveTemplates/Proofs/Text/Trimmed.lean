import LiveTemplates.Proofs.Text.Words

set_option autoImplicit false

/-! # Blanks around a text

A text is what is left of it when it is trimmed, with blanks before and after (`exists_around_trim`).
What is left neither begins nor ends with a blank, so trimming it again changes nothing. Blanks around
a text are in none of its words, and every other character is in one. -/

namespace LiveTemplates

namespace Text

variable {cs : List Char} {text : String}

/-! ## Pieces and their characters -/

/-- The characters of the pieces are those that do not separate. -/
theorem exists_piece_iff (separator : Char → Bool) (cs : List Char) {c : Char} :
    (∃ piece ∈ splitAtChars separator cs, c ∈ piece) ↔ c ∈ cs ∧ separator c = false := by
  induction cs with
  | nil => simp [splitAtChars]
  | cons d rest ih =>
      by_cases hd : separator d = true
      · rw [splitAtChars_cons_of_separator hd]
        simp only [List.mem_cons, exists_eq_or_imp, List.not_mem_nil, false_or, ih]
        constructor
        · rintro ⟨hc, hplain⟩
          exact ⟨.inr hc, hplain⟩
        · rintro ⟨rfl | hc, hplain⟩
          · simp [hd] at hplain
          · exact ⟨hc, hplain⟩
      · rw [Bool.not_eq_true] at hd
        -- the character joins the first piece of the rest
        cases hsplit : splitAtChars separator rest with
        | nil => exact absurd hsplit (splitAtChars_ne_nil separator rest)
        | cons head pieces =>
            have hcons := splitAtChars_append [d] (by simpa using hd) hsplit
            rw [List.singleton_append, List.singleton_append] at hcons
            rw [hsplit] at ih
            rw [hcons]
            simp only [List.mem_cons, exists_eq_or_imp] at ih ⊢
            rw [or_assoc, ih]
            constructor
            · rintro (rfl | ⟨hc, hplain⟩)
              · exact ⟨.inl rfl, hd⟩
              · exact ⟨.inr hc, hplain⟩
            · rintro ⟨rfl | hc, hplain⟩
              · exact .inl rfl
              · exact .inr ⟨hc, hplain⟩

/-! ## Trimming -/

/-- Neither the first character nor the last is a blank. -/
structure IsBare (text : String) : Prop where
  first : ∀ c, text.toList.head? = some c → isBlank c = false
  last : ∀ c, text.toList.getLast? = some c → isBlank c = false

theorem toList_trim (text : String) :
    (trim text).toList = dropWhileEnd isBlank (text.toList.dropWhile isBlank) := by
  rw [trim, String.toList_ofList]

theorem exists_append_dropWhileEnd (test : Char → Bool) (cs : List Char) :
    ∃ after, cs = dropWhileEnd test cs ++ after ∧ ∀ c ∈ after, test c = true := by
  refine ⟨(cs.reverse.takeWhile test).reverse, ?_, ?_⟩
  · rw [dropWhileEnd, ← List.reverse_append, List.takeWhile_append_dropWhile, List.reverse_reverse]
  · intro c hc
    exact List.all_eq_true.1 List.all_takeWhile c (List.mem_reverse.1 hc)

theorem exists_around_trim (text : String) :
    ∃ before after, text.toList = before ++ ((trim text).toList ++ after)
      ∧ (∀ c ∈ before, isBlank c = true) ∧ ∀ c ∈ after, isBlank c = true := by
  obtain ⟨after, hrest, hafter⟩ :=
    exists_append_dropWhileEnd isBlank (text.toList.dropWhile isBlank)
  refine ⟨text.toList.takeWhile isBlank, after, ?_, List.all_eq_true.1 List.all_takeWhile, hafter⟩
  rw [toList_trim, ← hrest, List.takeWhile_append_dropWhile]

theorem isBlank_of_head?_dropWhile (cs : List Char) {c : Char}
    (h : (cs.dropWhile isBlank).head? = some c) : isBlank c = false := by
  have hfirst := List.head?_dropWhile_not isBlank cs
  rw [h] at hfirst
  simpa using hfirst

theorem isBare_trim (text : String) : IsBare (trim text) where
  first := by
    intro c hc
    obtain ⟨after, hrest, -⟩ := exists_append_dropWhileEnd isBlank (text.toList.dropWhile isBlank)
    rw [toList_trim] at hc
    refine isBlank_of_head?_dropWhile text.toList ?_
    rw [hrest, List.head?_append, hc]
    rfl
  last := by
    intro c hc
    rw [toList_trim, dropWhileEnd, List.getLast?_reverse] at hc
    exact isBlank_of_head?_dropWhile _ hc

theorem dropWhile_of_head? {test : Char → Bool} (h : ∀ c, cs.head? = some c → test c = false) :
    cs.dropWhile test = cs := by
  cases cs with
  | nil => rfl
  | cons c rest => simp [h c rfl]

theorem IsBare.trim (h : IsBare text) : Text.trim text = text := by
  rw [← String.toList_inj, toList_trim, dropWhile_of_head? h.first, dropWhileEnd,
    dropWhile_of_head? (by simpa using h.last), List.reverse_reverse]

theorem isBare_iff : IsBare text ↔ Text.trim text = text :=
  ⟨IsBare.trim, fun h => h ▸ isBare_trim text⟩

@[simp]
theorem trim_trim (text : String) : trim (trim text) = trim text :=
  (isBare_trim text).trim

theorem IsWord.bare (h : IsWord text) : IsBare text where
  first := fun c hc => h.unbroken c (List.mem_of_mem_head? hc)
  last := fun c hc => h.unbroken c (List.mem_of_getLast? hc)

/-- A blank in front makes no difference. -/
theorem trim_cons_of_blank {c : Char} (h : isBlank c = true) (cs : List Char) :
    trim (String.ofList (c :: cs)) = trim (String.ofList cs) := by
  simp [trim, h]

/-! ## Words -/

/-- The words of a text as lists of characters. -/
def wordsIn (cs : List Char) : List (List Char) :=
  (splitAtChars isBlank cs).filter fun piece => !piece.isEmpty

theorem words_eq_map (text : String) : words text = (wordsIn text.toList).map String.ofList := rfl

theorem wordsIn_append_blank {c : Char} (h : isBlank c = true) (first second : List Char) :
    wordsIn (first ++ c :: second) = wordsIn first ++ wordsIn second := by
  rw [wordsIn, splitAtChars_append_separator h, List.filter_append]
  rfl

theorem wordsIn_blanks_append {blanks : List Char} (h : ∀ c ∈ blanks, isBlank c = true)
    (cs : List Char) : wordsIn (blanks ++ cs) = wordsIn cs := by
  induction blanks with
  | nil => rfl
  | cons c rest ih =>
      have hcons := wordsIn_append_blank (h c List.mem_cons_self) [] (rest ++ cs)
      rw [List.cons_append]
      exact hcons.trans (ih fun d hd => h d (List.mem_cons_of_mem _ hd))

theorem wordsIn_append_blanks {blanks : List Char} (h : ∀ c ∈ blanks, isBlank c = true)
    (cs : List Char) : wordsIn (cs ++ blanks) = wordsIn cs := by
  cases blanks with
  | nil => rw [List.append_nil]
  | cons c rest =>
      have hrest := wordsIn_blanks_append (fun d hd => h d (List.mem_cons_of_mem _ hd)) []
      rw [List.append_nil] at hrest
      rw [wordsIn_append_blank (h c List.mem_cons_self), hrest]
      exact List.append_nil _

@[simp]
theorem words_trim (text : String) : words (trim text) = words text := by
  obtain ⟨before, after, htext, hbefore, hafter⟩ := exists_around_trim text
  rw [words_eq_map, words_eq_map, htext, wordsIn_blanks_append hbefore,
    wordsIn_append_blanks hafter]

/-- What is no blank is in a word. -/
theorem exists_word_of_mem {c : Char} (hmem : c ∈ cs) (h : isBlank c = false) :
    ∃ word ∈ wordsIn cs, c ∈ word := by
  obtain ⟨piece, hpiece, hc⟩ := (exists_piece_iff isBlank cs).2 ⟨hmem, h⟩
  refine ⟨piece, List.mem_filter.2 ⟨hpiece, ?_⟩, hc⟩
  cases piece with
  | nil => simp at hc
  | cons d rest => rfl

theorem IsWord.words (h : IsWord text) : Text.words text = [text] := by
  rw [words_eq_map, wordsIn, splitAtChars_of_unbroken h.unbroken]
  simp [h.occupied]

end Text

end LiveTemplates
