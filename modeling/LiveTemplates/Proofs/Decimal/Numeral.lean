import LiveTemplates.Decimal.Notation
import LiveTemplates.Decimal.Reading

set_option autoImplicit false

/-! # The characters of numerals

What is read as a number is made of digits, signs, a point and the mark of an exponent, or it is one of
the words for infinity and for no number (`parse?_cases`). The text of a number is never empty. -/

namespace LiveTemplates

namespace Double

variable {cs : List Char} {x : Double}

/-- A character that may stand in a numeral. -/
def isNumeral (c : Char) : Bool :=
  c.isDigit || c = '+' || c = '-' || c = '.' || c = 'e' || c = 'E'

theorem isNumeral_of_isDigit {c : Char} (h : c.isDigit = true) : isNumeral c = true := by
  simp [isNumeral, h]

/-- A text without the sign at its start. -/
def unsigned (text : String) : List Char :=
  match text.toList with
  | '-' :: rest | '+' :: rest => rest
  | cs => cs

theorem isNumeral_of_unsigned {text : String} (h : ∀ c ∈ unsigned text, isNumeral c = true) :
    ∀ c ∈ text.toList, isNumeral c = true := by
  unfold unsigned at h
  split at h
  · next rest htext =>
      rw [htext]
      exact List.forall_mem_cons.2 ⟨by decide, h⟩
  · next rest htext =>
      rw [htext]
      exact List.forall_mem_cons.2 ⟨by decide, h⟩
  · exact h

theorem isNumeral_of_digits (h : ¬ (cs.isEmpty || cs.any fun c => !c.isDigit) = true) :
    ∀ c ∈ cs, isNumeral c = true := by
  simp only [Bool.or_eq_true, not_or, List.any_eq_true, not_exists, not_and, Bool.not_eq_true',
    Bool.not_eq_false] at h
  exact fun c hc => isNumeral_of_isDigit (h.2 c hc)

theorem isNumeral_of_readExponent? {exponent : Int} (h : readExponent? cs = some exponent) :
    ∀ c ∈ cs, isNumeral c = true := by
  unfold readExponent? at h
  split at h
  next negative digits hsign =>
    split at h
    · cases h
    · next hdigits =>
        have hnumeral := isNumeral_of_digits hdigits
        split at hsign
        all_goals cases hsign
        · exact List.forall_mem_cons.2 ⟨by decide, hnumeral⟩
        · exact List.forall_mem_cons.2 ⟨by decide, hnumeral⟩
        · exact hnumeral

/-- If what follows the digits at the start is made of such characters, so is the whole. -/
theorem isNumeral_of_dropWhile (h : ∀ c ∈ cs.dropWhile Char.isDigit, isNumeral c = true) :
    ∀ c ∈ cs, isNumeral c = true := by
  intro c hc
  have hparts : cs.takeWhile Char.isDigit ++ cs.dropWhile Char.isDigit = cs :=
    List.takeWhile_append_dropWhile
  rw [← hparts, List.mem_append] at hc
  rcases hc with htaken | hdropped
  · exact isNumeral_of_isDigit (List.all_eq_true.1 List.all_takeWhile c htaken)
  · exact h c hdropped

theorem isNumeral_of_readPositive? {negative : Bool} (h : readPositive? negative cs = some x) :
    ∀ c ∈ cs, isNumeral c = true := by
  unfold readPositive? at h
  extract_lets whole rest at h
  refine isNumeral_of_dropWhile ?_
  show ∀ c ∈ rest, isNumeral c = true
  clear_value rest
  split at h
  next places behind hplaces =>
    extract_lets exponent? at h
    split at h
    · cases h
    · obtain ⟨exponent, hexponent, -⟩ := Option.map_eq_some_iff.1 h
      have hbehind : ∀ c ∈ behind, isNumeral c = true := by
        cases behind with
        | nil => simp
        | cons mark digits =>
            dsimp only [exponent?] at hexponent
            split at hexponent
            · next hmark =>
                refine List.forall_mem_cons.2 ⟨?_, isNumeral_of_readExponent? hexponent⟩
                rcases hmark with rfl | rfl <;> decide
            · cases hexponent
      split at hplaces
      · cases hplaces
        exact List.forall_mem_cons.2 ⟨by decide, isNumeral_of_dropWhile hbehind⟩
      · cases hplaces
        exact hbehind

/-- What is read as a number is a numeral, or one of three words with perhaps a sign. -/
theorem parse?_cases {text : String} (h : parse? text = some x) :
    String.ofList ((unsigned text).map Char.toLower) ∈ ["inf", "infinity", "nan"]
      ∨ ∀ c ∈ text.toList, isNumeral c = true := by
  unfold parse? at h
  split at h
  next negative rest hsign =>
    have hunsigned : unsigned text = rest := by
      unfold unsigned
      split at hsign <;> simp_all
    rw [hunsigned]
    extract_lets word at h
    split at h
    · next hword => exact .inl (by rcases hword with hword | hword <;> simp [word, hword])
    · split at h
      · next hword => exact .inl (by simp [word, hword])
      · refine .inr (isNumeral_of_unsigned ?_)
        rw [hunsigned]
        exact isNumeral_of_readPositive? h

/-! ## Texts of numbers -/

theorem positional_ne_nil {digits : List Char} (h : digits ≠ []) (point : Int) :
    positional digits point ≠ [] := by
  unfold positional
  split
  · exact List.cons_ne_nil _ _
  · split
    · exact List.append_ne_nil_of_left_ne_nil h _
    · exact List.append_ne_nil_of_right_ne_nil _ (List.cons_ne_nil _ _)

theorem plainText_ne_empty (x : Double) : x.plainText ≠ "" := by
  unfold plainText
  rw [Ne, String.ofList_eq_empty_iff]
  split
  · exact List.cons_ne_nil _ _
  · split
    · exact List.cons_ne_nil _ _
    · split
      · exact List.cons_ne_nil _ _
      · split
        · exact List.cons_ne_nil _ _
        · exact positional_ne_nil Nat.toDigits_ne_nil _

end Double

end LiveTemplates
