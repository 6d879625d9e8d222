import LiveTemplates.Proofs.Name.Canonical
import LiveTemplates.Text.Letter

set_option autoImplicit false

/-! # Words and last pieces

Two words with a blank between them are read back as these two (`words_pair`). No blank is a letter
or a number, so an identifier is a word. What follows the last separator of a text is told by where
the last one stands: in the text itself, or in what was before it. -/

namespace LiveTemplates

namespace Text

/-- A text that is not empty and holds no blank. -/
structure IsWord (text : String) : Prop where
  occupied : text.toList ≠ []
  unbroken : ∀ c ∈ text.toList, isBlank c = false

/-! ## Words -/

/-- A test that fails for all characters of a text, by going through them. -/
theorem forall_mem_of_all {test : Char → Bool} {text : String}
    (h : text.toList.all (fun c => !test c) = true) : ∀ c ∈ text.toList, test c = false := by
  simpa using h

theorem IsWord.append {first second : String} (word : IsWord first)
    (unbroken : ∀ c ∈ second.toList, isBlank c = false) : IsWord (first ++ second) where
  occupied := by
    rw [String.toList_append]
    exact List.append_ne_nil_of_left_ne_nil word.occupied _
  unbroken := by
    rw [String.toList_append]
    intro c hc
    rcases List.mem_append.1 hc with hc | hc
    · exact word.unbroken c hc
    · exact unbroken c hc

theorem IsWord.prepend {first second : String} (word : IsWord second)
    (unbroken : ∀ c ∈ first.toList, isBlank c = false) : IsWord (first ++ second) where
  occupied := by
    rw [String.toList_append]
    exact List.append_ne_nil_of_right_ne_nil _ word.occupied
  unbroken := by
    rw [String.toList_append]
    intro c hc
    rcases List.mem_append.1 hc with hc | hc
    · exact unbroken c hc
    · exact word.unbroken c hc

theorem words_pair {first second : String} (hfirst : IsWord first) (hsecond : IsWord second) :
    words (first ++ " " ++ second) = [first, second] := by
  have hpieces : splitAtChars isBlank (first ++ " " ++ second).toList
      = [first.toList, second.toList] := by
    have htext : (first ++ " " ++ second).toList = first.toList ++ ' ' :: second.toList := by
      simp
    rw [htext, splitAtChars_append_separator (by decide), splitAtChars_of_unbroken hfirst.unbroken,
      splitAtChars_of_unbroken hsecond.unbroken]
    rfl
  have hoccupied := hfirst.occupied
  have hoccupied' := hsecond.occupied
  rw [words, hpieces]
  simp_all

/-- The code points of blanks. -/
def blankPoints : List Nat :=
  List.range' 0x9 5 ++ [0x20, 0x85, 0xa0, 0x1680] ++ List.range' 0x2000 11
    ++ [0x2028, 0x2029, 0x202f, 0x205f, 0x3000]

theorem mem_blankPoints {c : Char} (h : isBlank c = true) : c.toNat ∈ blankPoints := by
  simp only [isBlank, Bool.or_eq_true, Bool.and_eq_true, decide_eq_true_eq] at h
  simp only [blankPoints, List.mem_append, List.mem_range'_1, List.mem_cons]
  omega

theorem not_inRanges_of_blank :
    ∀ n ∈ blankPoints, inRanges n alphabeticRanges = false ∧ inRanges n numericRanges = false := by
  decide +kernel

/-- No blank is a character of an identifier. -/
theorem isBlank_eq_false_of_letter {c : Char}
    (h : (isLetter c || isNumeral c || c = '_' || c = '$') = true) : isBlank c = false := by
  cases hblank : isBlank c with
  | false => rfl
  | true =>
      obtain ⟨hletter, hnumeral⟩ := not_inRanges_of_blank _ (mem_blankPoints hblank)
      rw [isLetter, isNumeral, hletter, hnumeral] at h
      simp only [Bool.or_self, Bool.false_or, Bool.or_eq_true, decide_eq_true_eq] at h
      rcases h with rfl | rfl
      · exact absurd hblank (by decide)
      · exact absurd hblank (by decide)

/-- The first character of an identifier can also stand further on. -/
theorem letters_of_isIdentifier {id : String} (h : isIdentifier id = true) :
    id.toList ≠ []
      ∧ ∀ c ∈ id.toList, (isLetter c || isNumeral c || c = '_' || c = '$') = true := by
  unfold isIdentifier at h
  cases hid : id.toList with
  | nil =>
      rw [hid] at h
      cases h
  | cons c rest =>
      rw [hid] at h
      simp only [Bool.and_eq_true, List.all_eq_true] at h
      obtain ⟨hfirst, hrest⟩ := h
      refine ⟨by simp, ?_⟩
      intro other hmem
      rcases List.mem_cons.1 hmem with rfl | hmem
      · simp only [Bool.or_eq_true] at hfirst ⊢
        rcases hfirst with (hletter | hline) | hdollar
        · exact .inl (.inl (.inl hletter))
        · exact .inl (.inr hline)
        · exact .inr hdollar
      · exact hrest other hmem

theorem IsWord.of_isIdentifier {id : String} (h : isIdentifier id = true) : IsWord id where
  occupied := (letters_of_isIdentifier h).1
  unbroken := fun c hc => isBlank_eq_false_of_letter ((letters_of_isIdentifier h).2 c hc)

/-! ## The last piece -/

variable {separator : Char → Bool} {before text : String}

theorem toList_lastPiece (separator : Char → Bool) (text : String) :
    (lastPiece separator text).toList
      = (text.toList.reverse.takeWhile fun c => !separator c).reverse := by
  rw [lastPiece, String.toList_ofList]

/-- What holds no separator goes to the last piece before it. -/
theorem lastPiece_append_of_unbroken (unbroken : ∀ c ∈ text.toList, separator c = false) :
    lastPiece separator (before ++ text) = lastPiece separator before ++ text := by
  rw [← String.toList_inj, String.toList_append, toList_lastPiece, toList_lastPiece,
    String.toList_append, List.reverse_append, List.takeWhile_append_of_pos,
    List.reverse_append, List.reverse_reverse]
  intro c hc
  simp [unbroken c (List.mem_reverse.1 hc)]

/-- What stands before a text with a separator in it does not count. -/
theorem lastPiece_append_of_broken (broken : ∃ c ∈ text.toList, separator c = true) :
    lastPiece separator (before ++ text) = lastPiece separator text := by
  obtain ⟨c, hc, hseparator⟩ := broken
  have hshort :
      (text.toList.reverse.takeWhile fun c => !separator c).length ≠ text.toList.reverse.length := by
    intro hlength
    have hwhole := (List.takeWhile_prefix _).eq_of_length hlength
    have hplain : text.toList.reverse.all (fun c => !separator c) = true := by
      rw [← hwhole]
      exact List.all_takeWhile
    have hclear := List.all_eq_true.1 hplain c (List.mem_reverse.2 hc)
    simp [hseparator] at hclear
  rw [← String.toList_inj, toList_lastPiece, toList_lastPiece, String.toList_append,
    List.reverse_append, List.takeWhile_append, if_neg hshort]

/-- Nothing stands after a separator at the end. -/
theorem lastPiece_of_ends {c : Char} (ends : before.toList.getLast? = some c)
    (h : separator c = true) : lastPiece separator before = "" := by
  obtain ⟨rest, hrest⟩ := List.getLast?_eq_some_iff.1 ends
  rw [← String.toList_inj, toList_lastPiece, hrest]
  simp [h]

end Text

end LiveTemplates
