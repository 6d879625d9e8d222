import LiveTemplates.Json.Parser
import LiveTemplates.Proofs.Dictionary.Order
import LiveTemplates.Proofs.Json.Printed
import Mathlib.Tactic.SplitIfs

set_option autoImplicit false

/-! # Reading printed JSON text

What is printed is read back, for values without numbers (`parse?_compact`), and the fields of an object
may stand in any order (`parse?_object`). A text is read character by character up to the quote behind
it (`readString?_escaped`); items and fields are read one by one with whatever follows them, so the
induction over a value goes through with any rest of the text. -/

namespace LiveTemplates

namespace Json

/-! ## Texts -/

/-- The ways in which a character can stand in a text. -/
inductive Escape (c : Char) : List Char → Prop
  | letter (mark : Char) (h : shortEscape? mark = some c) : Escape c ['\\', mark]
  | control (h : c.toNat < 32) : Escape c ('\\' :: 'u' :: hexDigits 4 c.toNat)
  | plain (quote : c ≠ '"') (backslash : c ≠ '\\') (control : ¬ c.toNat < 32) : Escape c [c]

theorem escape_escapeChar (c : Char) : Escape c (escapeChar c) := by
  have hchar : ∀ n, c.toNat = n → c = Char.ofNat n := by
    rintro n rfl
    exact (Char.ofNat_toNat c).symm
  unfold escapeChar
  split_ifs with hquote hbackslash hline hreturn htab hback hfeed hcontrol
  · exact .letter _ (by simp [shortEscape?, hquote])
  · exact .letter _ (by simp [shortEscape?, hbackslash])
  · exact .letter _ (by simp [shortEscape?, hline])
  · exact .letter _ (by simp [shortEscape?, hreturn])
  · exact .letter _ (by simp [shortEscape?, htab])
  · exact .letter _ (by rw [hchar 8 hback]; rfl)
  · exact .letter _ (by rw [hchar 12 hfeed]; rfl)
  · exact .control hcontrol
  · exact .plain hquote hbackslash hcontrol

/-- A control character is written with two digits that count. -/
theorem hexDigits_control : ∀ n < 32,
    hexDigits 4 n = ['0', '0', Nat.digitChar (n / 16), Nat.digitChar (n % 16)]
      ∧ hexFour? '0' '0' (Nat.digitChar (n / 16)) (Nat.digitChar (n % 16)) = some n := by
  decide

/-- A character is read as itself, in whichever way it stands in a text. -/
theorem Escape.readString? {c : Char} {cs : List Char} (h : Escape c cs) (text : String)
    (rest : List Char) : readString? text (cs ++ rest) = Json.readString? (text.push c) rest := by
  cases h with
  | letter mark h =>
      show Json.readString? text ('\\' :: mark :: rest) = _
      rw [Json.readString?]
      · rw [h]
      · rintro _ _ _ _ _ hmark -
        rw [hmark] at h
        cases h
  | control h =>
      obtain ⟨hdigits, hread⟩ := hexDigits_control c.toNat h
      have hhigh : ¬ (0xd800 ≤ c.toNat ∧ c.toNat < 0xdc00) := by omega
      have hlow : ¬ (0xdc00 ≤ c.toNat ∧ c.toNat < 0xe000) := by omega
      rw [hdigits]
      simp only [List.cons_append, List.nil_append]
      rw [Json.readString?, hread]
      simp only [if_neg hhigh, if_neg hlow, Char.ofNat_toNat]
  | plain hquote hbackslash hcontrol =>
      show Json.readString? text (c :: rest) = _
      rw [Json.readString?, if_neg hcontrol]
      · exact hquote
      · rintro _ _ _ _ _ hc -
        exact hbackslash hc
      · rintro _ _ hc -
        exact hbackslash hc

/-- A text as it is printed is read up to the quote behind it. -/
theorem readString?_escaped (text : String) (cs rest : List Char) :
    readString? text (cs.flatMap escapeChar ++ '"' :: rest)
      = some (text ++ String.ofList cs, rest) := by
  induction cs generalizing text with
  | nil => simp [readString?]
  | cons c cs ih =>
      rw [List.flatMap_cons, List.append_assoc, (escape_escapeChar c).readString?, ih]
      simp [← String.append_singleton, String.append_assoc]

/-! ## Fields as they are printed -/

/-- A field that comes first stands without a comma. -/
theorem toList_printFields_true (key : String) (value : Json) (rest : List (String × Json)) :
    (printFields "" true ((key, value) :: rest)).toList
      = '"' :: (key.toList.flatMap escapeChar
        ++ '"' :: ':' :: (value.compact.toList ++ (printFields "" false rest).toList)) := by
  rw [printFields, printFields_append, print_append, compact]
  simp [toList_quote]

/-- A field that comes later has a comma before it. -/
theorem toList_printFields_false (field : String × Json) (rest : List (String × Json)) :
    (printFields "" false (field :: rest)).toList
      = ',' :: (printFields "" true (field :: rest)).toList := by
  obtain ⟨key, value⟩ := field
  rw [toList_printFields_true, printFields, printFields_append, print_append, compact]
  simp [toList_quote]

/-- An item that comes later is printed as a first one with a comma before it. -/
theorem toList_printItems_comma (item : Json) (rest : List Json) :
    (printItems "" false (item :: rest)).toList
      = ',' :: (printItems "" true (item :: rest)).toList := by
  rw [toList_printItems_false, toList_printItems_true, List.cons_append]

/-! ## Values -/

/-- A value without numbers that is nested at most so deep. -/
inductive Wordy : (depth : Nat) → Json → Prop
  | null {depth : Nat} : Wordy depth .null
  | bool {depth : Nat} (b : Bool) : Wordy depth (.bool b)
  | string {depth : Nat} (s : String) : Wordy depth (.string s)
  | array {depth : Nat} {items : List Json} (h : ∀ item ∈ items, Wordy depth item) :
      Wordy (depth + 1) (.array items)
  | object {depth : Nat} {fields : List (String × Json)}
      (ordered : Dictionary.Ordered fields) (h : ∀ field ∈ fields, Wordy depth field.2) :
      Wordy (depth + 1) (.object fields)

/-- With enough fuel the value is read from its text, whatever follows. -/
def Reads (depth : Nat) (value : Json) : Prop :=
  ∀ fuel rest, 2 * value.compact.length < fuel →
    readValue? fuel depth (value.compact.toList ++ rest) = some (value, rest)

theorem skipBlanks_cons {c : Char} (h : ¬ (c = ' ' ∨ c = '\n' ∨ c = '\t' ∨ c = '\r'))
    (rest : List Char) : skipBlanks (c :: rest) = c :: rest := by
  simp only [not_or] at h
  simp [skipBlanks, h]

/-- A value begins with a character of its own kind: with no blank, and not with the end of a list. -/
theorem Wordy.skipBlanks {depth : Nat} {value : Json} (wordy : Wordy depth value)
    (rest : List Char) :
    Json.skipBlanks (value.compact.toList ++ rest) = value.compact.toList ++ rest
      ∧ ∀ other, value.compact.toList ++ rest ≠ ']' :: other := by
  obtain ⟨c, cs, hvalue, hc⟩ : ∃ c cs, value.compact.toList = c :: cs
      ∧ c ∈ ['n', 't', 'f', '"', '[', '\x7b'] := by
    cases wordy with
    | null => exact ⟨'n', _, rfl, by decide⟩
    | bool b =>
        cases b with
        | true => exact ⟨'t', _, rfl, by decide⟩
        | false => exact ⟨'f', _, rfl, by decide⟩
    | string s =>
        refine ⟨'"', s.toList.flatMap escapeChar ++ ['"'], ?_, by decide⟩
        simp [compact, print, toList_quote]
    | array h => exact ⟨'[', _, toList_compact_array _, by decide⟩
    | object ordered h => exact ⟨'\x7b', _, toList_compact_object _, by decide⟩
  have hkind : ∀ c ∈ ['n', 't', 'f', '"', '[', '\x7b'],
      ¬ (c = ' ' ∨ c = '\n' ∨ c = '\t' ∨ c = '\r') ∧ c ≠ ']' := by
    simp
  rw [hvalue, List.cons_append]
  refine ⟨skipBlanks_cons (hkind c hc).1 _, fun other hother => (hkind c hc).2 ?_⟩
  exact (List.cons.inj hother).1

theorem skipBlanks_comma (rest : List Char) : skipBlanks (',' :: rest) = ',' :: rest :=
  skipBlanks_cons (by decide) rest

theorem skipBlanks_colon (rest : List Char) : skipBlanks (':' :: rest) = ':' :: rest :=
  skipBlanks_cons (by decide) rest

theorem reads_string (depth : Nat) (s : String) : Reads depth (.string s) := by
  intro fuel rest hfuel
  obtain ⟨fuel, rfl⟩ := Nat.exists_eq_succ_of_ne_zero (Nat.ne_zero_of_lt hfuel)
  have htext : (Json.string s).compact.toList ++ rest
      = '"' :: (s.toList.flatMap escapeChar ++ '"' :: rest) := by
    simp [compact, print, toList_quote]
  rw [htext, readValue?, skipBlanks_cons (by decide)]
  simp only [readString?_escaped, Option.map_some, String.empty_append, String.ofList_toList]

theorem readItems?_printed {depth : Nat} {items : List Json} (occupied : items ≠ [])
    (reads : ∀ item ∈ items, Reads depth item) (before : List Json) (fuel : Nat)
    (rest : List Char) (hfuel : 2 * (printItems "" true items).length + 1 < fuel) :
    readItems? fuel depth before ((printItems "" true items).toList ++ ']' :: rest)
      = some (before.reverse ++ items, rest) := by
  induction items generalizing before fuel with
  | nil => exact absurd rfl occupied
  | cons item others ih =>
      obtain ⟨fuel, rfl⟩ := Nat.exists_eq_succ_of_ne_zero (Nat.ne_zero_of_lt hfuel)
      obtain ⟨hitem, hothers⟩ := List.forall_mem_cons.1 reads
      have hlength := congrArg List.length (toList_printItems_true item others)
      rw [List.length_append, String.length_toList, String.length_toList,
        String.length_toList] at hlength
      rw [toList_printItems_true, List.append_assoc, readItems?, hitem fuel _ (by omega)]
      cases others with
      | nil => simp [printItems, skipBlanks_cons]
      | cons other others =>
          have hlength' := congrArg List.length (toList_printItems_comma other others)
          rw [List.length_cons, String.length_toList, String.length_toList] at hlength'
          rw [toList_printItems_comma, List.cons_append]
          simp only [skipBlanks_comma]
          rw [ih (by simp) hothers _ _ (by omega)]
          simp

theorem readFields?_printed {depth : Nat} {fields : List (String × Json)} (occupied : fields ≠ [])
    (reads : ∀ field ∈ fields, Reads depth field.2) (before : List (String × Json)) (fuel : Nat)
    (rest : List Char) (hfuel : 2 * (printFields "" true fields).length + 1 < fuel) :
    readFields? fuel depth before ((printFields "" true fields).toList ++ '\x7d' :: rest)
      = some (Dictionary.merge fields before, rest) := by
  induction fields generalizing before fuel with
  | nil => exact absurd rfl occupied
  | cons field others ih =>
      obtain ⟨fuel, rfl⟩ := Nat.exists_eq_succ_of_ne_zero (Nat.ne_zero_of_lt hfuel)
      obtain ⟨hfield, hothers⟩ := List.forall_mem_cons.1 reads
      obtain ⟨key, value⟩ := field
      have hlength := congrArg List.length (toList_printFields_true key value others)
      simp only [List.length_append, List.length_cons, String.length_toList] at hlength
      rw [toList_printFields_true, List.cons_append, readFields?, skipBlanks_cons (by decide)]
      simp only [List.append_assoc, List.cons_append, readString?_escaped, String.empty_append,
        String.ofList_toList, skipBlanks_colon]
      rw [hfield fuel _ (by dsimp only; omega)]
      cases others with
      | nil =>
          simp [printFields, skipBlanks_cons]
          rfl
      | cons other others =>
          have hlength' := congrArg List.length (toList_printFields_false other others)
          rw [List.length_cons, String.length_toList, String.length_toList] at hlength'
          rw [toList_printFields_false, List.cons_append]
          simp only [skipBlanks_comma]
          rw [ih (by simp) hothers _ _ (by omega)]
          rfl

theorem reads_array {depth : Nat} {items : List Json}
    (wordy : ∀ item ∈ items, Wordy depth item) (reads : ∀ item ∈ items, Reads depth item) :
    Reads (depth + 1) (.array items) := by
  intro fuel rest hfuel
  obtain ⟨fuel, rfl⟩ := Nat.exists_eq_succ_of_ne_zero (Nat.ne_zero_of_lt hfuel)
  have hlength := congrArg List.length (toList_compact_array items)
  simp only [List.length_append, List.length_cons, List.length_nil, String.length_toList] at hlength
  have htext : (Json.array items).compact.toList ++ rest
      = '[' :: ((printItems "" true items).toList ++ ']' :: rest) := by
    simp [toList_compact_array]
  rw [htext, readValue?, skipBlanks_cons (by decide)]
  simp only [Nat.add_one_ne_zero, if_false, Nat.add_sub_cancel]
  cases items with
  | nil => simp [printItems, skipBlanks_cons]
  | cons first others =>
      have hprinted := readItems?_printed (List.cons_ne_nil first others) reads [] fuel rest
        (by omega)
      rw [toList_printItems_true, List.append_assoc] at hprinted ⊢
      obtain ⟨hskip, hopen⟩ := (wordy first List.mem_cons_self).skipBlanks
        ((printItems "" false others).toList ++ ']' :: rest)
      rw [hskip]
      split
      · next hclosed => exact absurd hclosed (hopen _)
      · rw [hprinted]
        rfl

/-- Fields may be written in any order: what is read is the dictionary of them. -/
theorem readValue?_object {depth : Nat} {fields : List (String × Json)}
    (reads : ∀ field ∈ fields, Reads depth field.2) (fuel : Nat) (rest : List Char)
    (hfuel : 2 * (object fields).compact.length < fuel) :
    readValue? fuel (depth + 1) ((object fields).compact.toList ++ rest)
      = some (.object (Dictionary.ofList fields), rest) := by
  obtain ⟨fuel, rfl⟩ := Nat.exists_eq_succ_of_ne_zero (Nat.ne_zero_of_lt hfuel)
  have hlength := congrArg List.length (toList_compact_object fields)
  simp only [List.length_append, List.length_cons, List.length_nil, String.length_toList] at hlength
  have htext : (Json.object fields).compact.toList ++ rest
      = '\x7b' :: ((printFields "" true fields).toList ++ '\x7d' :: rest) := by
    simp [toList_compact_object]
  rw [htext, readValue?, skipBlanks_cons (by decide)]
  simp only [Nat.add_one_ne_zero, if_false, Nat.add_sub_cancel]
  cases fields with
  | nil => simp [printFields, skipBlanks_cons, Dictionary.ofList]
  | cons first others =>
      have hprinted := readFields?_printed (List.cons_ne_nil first others) reads [] fuel rest
        (by omega)
      rw [toList_printFields_true, List.cons_append] at hprinted ⊢
      rw [skipBlanks_cons (by decide)]
      show Option.map _ (readFields? fuel depth [] _) = _
      rw [hprinted]
      rfl

theorem Wordy.reads {depth : Nat} {value : Json} (wordy : Wordy depth value) :
    Reads depth value := by
  induction wordy with
  | null =>
      intro fuel rest hfuel
      obtain ⟨fuel, rfl⟩ := Nat.exists_eq_succ_of_ne_zero (Nat.ne_zero_of_lt hfuel)
      rfl
  | bool b =>
      intro fuel rest hfuel
      obtain ⟨fuel, rfl⟩ := Nat.exists_eq_succ_of_ne_zero (Nat.ne_zero_of_lt hfuel)
      cases b <;> rfl
  | string s => exact reads_string _ s
  | array h ih => exact reads_array h ih
  | object ordered h ih =>
      intro fuel rest hfuel
      rw [readValue?_object ih fuel rest hfuel, Dictionary.ofList_of_ordered ordered]

theorem parse?_of_readValue? {text : String} {value : Json}
    (h : readValue? (2 * text.length + 2) 127 (text.toList ++ []) = some (value, [])) :
    parse? text = some value := by
  rw [List.append_nil] at h
  rw [parse?, readPrefix?, String.length_toList, h]
  rfl

/-- A value without numbers is read back from its compact text. -/
theorem parse?_compact {value : Json} (wordy : Wordy 127 value) :
    parse? value.compact = some value :=
  parse?_of_readValue? (wordy.reads _ [] (by omega))

/-- Fields without numbers are read from their text in any order. -/
theorem parse?_object {fields : List (String × Json)}
    (wordy : ∀ field ∈ fields, Wordy 126 field.2) :
    parse? (object fields).compact = some (.object (Dictionary.ofList fields)) :=
  parse?_of_readValue? (readValue?_object (fun field hmem => (wordy field hmem).reads) _ [] (by omega))

end Json

end LiveTemplates
