import LiveTemplates.Json.Printer

set_option autoImplicit false

/-! # The shape of JSON text

What is printed goes after the text that is there already (`print_append`), so the compact form of
an array or of an object is told by the compact forms of what is in it. No compact form begins with a
space, and the text of a number holds none. -/

namespace LiveTemplates

/-! ## Numbers -/

theorem space_not_mem_toDigits (n : Nat) : ' ' ∉ Nat.toDigits 10 n := by
  intro hmem
  have hdigit := Nat.isDigit_of_mem_toDigits (by decide) (by decide) hmem
  exact absurd hdigit (by decide)

namespace Double

variable {digits : List Char}

theorem space_not_mem_positional (h : ' ' ∉ digits) (point : Int) :
    ' ' ∉ positional digits point := by
  unfold positional
  split
  · simp [h]
  · split
    · simp [h]
    · intro hmem
      rcases List.mem_append.1 hmem with htake | hdrop
      · exact h (List.mem_of_mem_take htake)
      · rcases List.mem_cons.1 hdrop with hpoint | hdrop
        · exact absurd hpoint (by decide)
        · exact h (List.mem_of_mem_drop hdrop)

theorem space_not_mem_scientific (h : ' ' ∉ digits) (exponent : Int) :
    ' ' ∉ scientific digits exponent := by
  have hexponent := space_not_mem_toDigits exponent.natAbs
  unfold scientific
  split
  · split <;> simp [hexponent]
  · split <;> simp_all
  · split <;> simp_all

theorem space_not_mem_jsonText (x : Double) : ' ' ∉ x.jsonText.toList := by
  have hdigits := space_not_mem_toDigits x.shortest.1
  have hsign : ∀ {cs : List Char}, ' ' ∉ cs → ' ' ∉ if x.isNegative then '-' :: cs else cs := by
    intro cs hcs
    split <;> simp [hcs]
  unfold jsonText
  rw [String.toList_ofList]
  refine hsign ?_
  split
  · decide
  · dsimp only
    split
    · have hpositional := space_not_mem_positional hdigits
      split <;> simp [hpositional]
    · exact space_not_mem_scientific hdigits _

end Double

theorem Number.space_not_mem_text (n : Number) : ' ' ∉ n.text.toList := by
  cases n with
  | double x => exact x.space_not_mem_jsonText
  | whole i =>
      cases i with
      | ofNat n =>
          show ' ' ∉ (Nat.repr n).toList
          rw [Nat.repr, String.toList_ofList]
          exact space_not_mem_toDigits n
      | negSucc n =>
          show ' ' ∉ ("-" ++ Nat.repr (n + 1)).toList
          rw [String.toList_append, Nat.repr, String.toList_ofList]
          have hdigits := space_not_mem_toDigits (n + 1)
          simpa using hdigits

namespace Json

/-! ## Strings -/

theorem toList_quote (s : String) :
    (quote s).toList = '"' :: s.toList.flatMap escapeChar ++ ['"'] := by
  have hpush : ∀ (cs : List Char) (text : String),
      (cs.foldl String.push text).toList = text.toList ++ cs := by
    intro cs
    induction cs with
    | nil => simp
    | cons c rest ih => simp [ih]
  have hescape : ∀ (cs : List Char) (text : String),
      (cs.foldl (fun text c => (escapeChar c).foldl String.push text) text).toList
        = text.toList ++ cs.flatMap escapeChar := by
    intro cs
    induction cs with
    | nil => simp
    | cons c rest ih => simp [ih, hpush]
  rw [quote, String.foldl_eq_foldl_toList, String.toList_push, hescape]
  rfl

/-! ## What is there already -/

mutual

theorem print_append (text : String) : ∀ value, print text value = text ++ print "" value
  | null => by simp [print]
  | bool true => by simp [print]
  | bool false => by simp [print]
  | number n => by simp [print]
  | string s => by simp [print]
  | array items => by
      rw [print, print, printItems_append (text.push '[') true items,
        printItems_append ("".push '[') true items]
      simp [← String.append_singleton, String.append_assoc]
  | object fields => by
      rw [print, print, printFields_append (text.push '\x7b') true fields,
        printFields_append ("".push '\x7b') true fields]
      simp [← String.append_singleton, String.append_assoc]

theorem printItems_append (text : String) (first : Bool) :
    ∀ items, printItems text first items = text ++ printItems "" first items
  | [] => by simp [printItems]
  | item :: rest => by
      rw [printItems, printItems, printItems_append _ false rest, print_append _ item,
        printItems_append (print _ item) false rest, print_append (if first then "" else _) item]
      cases first <;> simp [← String.append_singleton, String.append_assoc]

theorem printFields_append (text : String) (first : Bool) :
    ∀ fields, printFields text first fields = text ++ printFields "" first fields
  | [] => by simp [printFields]
  | (key, value) :: rest => by
      rw [printFields, printFields, printFields_append _ false rest, print_append _ value,
        printFields_append (print _ value) false rest,
        print_append (((if first then "" else _) ++ quote key).push ':') value]
      cases first <;> simp [← String.append_singleton, String.append_assoc]

end

/-! ## Compact forms -/

theorem toList_compact_array (items : List Json) :
    (array items).compact.toList = '[' :: (printItems "" true items).toList ++ [']'] := by
  rw [compact, print, printItems_append]
  simp

theorem toList_compact_object (fields : List (String × Json)) :
    (object fields).compact.toList
      = '\x7b' :: (printFields "" true fields).toList ++ ['\x7d'] := by
  rw [compact, print, printFields_append]
  simp

/-- An item that comes first stands without a comma. -/
theorem toList_printItems_true (item : Json) (rest : List Json) :
    (printItems "" true (item :: rest)).toList
      = item.compact.toList ++ (printItems "" false rest).toList := by
  rw [printItems, printItems_append, compact]
  simp

/-- An item that comes later has a comma before it. -/
theorem toList_printItems_false (item : Json) (rest : List Json) :
    (printItems "" false (item :: rest)).toList
      = ',' :: item.compact.toList ++ (printItems "" false rest).toList := by
  rw [printItems, printItems_append, print_append, compact]
  simp

/-- No compact form begins with a space. -/
theorem head?_compact_ne (value : Json) (rest : List Char) (h : rest.head? ≠ some ' ') :
    (value.compact.toList ++ rest).head? ≠ some ' ' := by
  cases value with
  | null => simp [compact, print]
  | bool b => cases b <;> simp [compact, print]
  | number n =>
      have hspace := n.space_not_mem_text
      simp only [compact, print, String.empty_append]
      cases htext : n.text.toList with
      | nil => simpa using h
      | cons c cs =>
          rw [htext] at hspace
          simp only [List.mem_cons, not_or] at hspace
          simpa using Ne.symm hspace.1
  | string s => simp [compact, print, toList_quote]
  | array items => simp [toList_compact_array]
  | object fields => simp [toList_compact_object]

end Json

end LiveTemplates
