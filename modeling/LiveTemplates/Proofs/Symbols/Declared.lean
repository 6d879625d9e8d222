import LiveTemplates.Proofs.Text.Words
import LiveTemplates.Symbols.Global

set_option autoImplicit false

/-! # Types as they are written in declarations

A type is known by its simple name, which may have a qualifier before it and arguments after it. What
counts is what stands after the last dot or colon of the whole text (`ofTypeName_eq`), so a qualifier
never matters, and arguments matter only if they hold a dot or a colon themselves: then the last
piece of the arguments is taken for the type. Brackets at the very end are always seen. -/

namespace LiveTemplates

namespace ValueType

/-- What separates a name from its qualifier. -/
def qualifies (c : Char) : Bool :=
  c = '.' || c = ':'

/-- What a text says before its first `<`. -/
def head (text : String) : String :=
  String.ofList (text.toList.takeWhile fun c => c ≠ '<')

/-- A name of a type alone, without a qualifier, arguments or brackets. -/
structure IsSimple (simple : String) : Prop where
  word : Text.IsWord simple
  unqualified : ∀ c ∈ simple.toList, qualifies c = false
  plain : ∀ c ∈ simple.toList, c ≠ '<' ∧ c ≠ '['

/-- What may stand before the name of a type: nothing, or a text up to a dot or a colon. -/
structure IsQualifier (qualifier : String) : Prop where
  unbroken : ∀ c ∈ qualifier.toList, Text.isBlank c = false
  ends : qualifier = "" ∨ ∃ c, qualifier.toList.getLast? = some c ∧ qualifies c = true

/-- Brackets at the end of the last piece make an array; otherwise its head is the simple name. -/
theorem ofTypeName_eq (name : String) :
    ofTypeName name
      = if ['[', ']'] <:+ (Text.lastPiece qualifies name).toList then array
        else ofSimpleName (head (Text.lastPiece qualifies name)) := by
  show (if ['[', ']'].isSuffixOf (Text.lastPiece qualifies name).toList then array
    else ofSimpleName (head (Text.lastPiece qualifies name))) = _
  simp only [List.isSuffixOf_iff_suffix]

theorem ofTypeName_brackets (name : String) : ofTypeName (name ++ "[]") = array := by
  have hpiece : Text.lastPiece qualifies (name ++ "[]")
      = Text.lastPiece qualifies name ++ "[]" :=
    Text.lastPiece_append_of_unbroken (Text.forall_mem_of_all (by decide))
  rw [ofTypeName_eq, if_pos]
  rw [hpiece, String.toList_append]
  exact List.suffix_append _ _

theorem ofTypeName_of_piece {name piece : String} (hpiece : Text.lastPiece qualifies name = piece)
    (hopen : ¬ ['[', ']'] <:+ piece.toList) : ofTypeName name = ofSimpleName (head piece) := by
  rw [ofTypeName_eq, hpiece, if_neg hopen]

/-- A text that ends in `>` has no brackets at its end. -/
theorem not_brackets_of_close (text : String) : ¬ ['[', ']'] <:+ (text ++ ">").toList := by
  rintro ⟨rest, hrest⟩
  have hlast := congrArg List.getLast? hrest
  simp at hlast

variable {simple qualifier arguments : String}

theorem IsSimple.all_plain (hsimple : IsSimple simple) :
    ∀ c ∈ simple.toList, decide (c ≠ '<') = true := by
  intro c hc
  simpa using (hsimple.plain c hc).1

theorem head_of_simple (hsimple : IsSimple simple) : head simple = simple := by
  rw [head, ← List.append_nil simple.toList, List.takeWhile_append_of_pos hsimple.all_plain]
  simp

/-- What follows the name after a `<` is not part of the head. -/
theorem head_of_arguments (hsimple : IsSimple simple) (rest : String) :
    head (simple ++ "<" ++ rest) = simple := by
  have htext : (simple ++ "<" ++ rest).toList = simple.toList ++ '<' :: rest.toList := by simp
  rw [head, htext, List.takeWhile_append_of_pos hsimple.all_plain,
    List.takeWhile_cons_of_neg (by decide), List.append_nil, String.ofList_toList]

theorem lastPiece_qualified (hqualifier : IsQualifier qualifier) {name : String}
    (unqualified : ∀ c ∈ name.toList, qualifies c = false) :
    Text.lastPiece qualifies (qualifier ++ name) = name := by
  rw [Text.lastPiece_append_of_unbroken unqualified]
  rcases hqualifier.ends with rfl | ⟨c, hlast, hc⟩
  · rfl
  · rw [Text.lastPiece_of_ends hlast hc]
    simp

/-- A qualifier makes no difference. -/
theorem ofTypeName_qualified (hsimple : IsSimple simple) (hqualifier : IsQualifier qualifier) :
    ofTypeName (qualifier ++ simple) = ofSimpleName simple := by
  have hopen : ¬ ['[', ']'] <:+ simple.toList := by
    intro hsuffix
    exact (hsimple.plain '[' (hsuffix.subset (by decide))).2 rfl
  rw [ofTypeName_of_piece (lastPiece_qualified hqualifier hsimple.unqualified) hopen,
    head_of_simple hsimple]

theorem ofTypeName_simple (hsimple : IsSimple simple) :
    ofTypeName simple = ofSimpleName simple := by
  have hnone : IsQualifier "" := ⟨by simp, .inl rfl⟩
  simpa using ofTypeName_qualified hsimple hnone

/-- Arguments without a dot or a colon make no difference either. -/
theorem ofTypeName_arguments (hsimple : IsSimple simple) (hqualifier : IsQualifier qualifier)
    (unqualified : ∀ c ∈ arguments.toList, qualifies c = false) :
    ofTypeName (qualifier ++ simple ++ "<" ++ arguments ++ ">") = ofSimpleName simple := by
  have hname : ∀ c ∈ (simple ++ "<" ++ arguments ++ ">").toList, qualifies c = false := by
    intro c hc
    simp only [String.toList_append, List.mem_append] at hc
    rcases hc with ((hc | hc) | hc) | hc
    · exact hsimple.unqualified c hc
    · exact Text.forall_mem_of_all (by decide) c hc
    · exact unqualified c hc
    · exact Text.forall_mem_of_all (by decide) c hc
  have hpiece := lastPiece_qualified hqualifier hname
  simp only [← String.append_assoc] at hpiece
  rw [ofTypeName_of_piece hpiece (not_brackets_of_close _), String.append_assoc,
    head_of_arguments hsimple]

/-- Of arguments with a dot or a colon the last piece is taken for the type. -/
theorem ofTypeName_qualified_arguments (before : String)
    (qualified : ∃ c ∈ arguments.toList, qualifies c = true) :
    ofTypeName (before ++ "<" ++ arguments ++ ">")
      = ofSimpleName (head (Text.lastPiece qualifies arguments ++ ">")) := by
  have hpiece : Text.lastPiece qualifies (before ++ "<" ++ arguments ++ ">")
      = Text.lastPiece qualifies arguments ++ ">" := by
    rw [Text.lastPiece_append_of_unbroken (Text.forall_mem_of_all (by decide)),
      Text.lastPiece_append_of_broken qualified]
  rw [ofTypeName_of_piece hpiece (not_brackets_of_close _)]

end ValueType

namespace GlobalVariable

open ValueType

variable {simple qualifier arguments type id : String}

theorem parse_of_words {declaration : String} (hwords : Text.words declaration = [type, id])
    (hid : Text.isIdentifier id = true) :
    parse declaration = .ok ⟨type, id, ofTypeName type⟩ := by
  rw [parse, hwords]
  simp [hid]

/-- A type and an identifier with a space between them are a declaration. -/
theorem parse_pair (htype : Text.IsWord type) (hid : Text.isIdentifier id = true) :
    parse (type ++ " " ++ id) = .ok ⟨type, id, ofTypeName type⟩ :=
  parse_of_words (Text.words_pair htype (.of_isIdentifier hid)) hid

/-- Which data a variable accepts is told by its identifier and its type. -/
theorem violation?_eq_none_congr {one other : ValueType} (h : one = other) (data : Json) :
    violation? ⟨type, id, one⟩ data = none ↔ violation? ⟨simple, id, other⟩ data = none := by
  subst h
  unfold violation?
  dsimp only
  cases data.field? id with
  | none => rfl
  | some value => cases one.accepts value <;> simp

/-- A qualifier before the name of a type and arguments after it leave the type as it is, if the
arguments hold no dot and no colon; if they do, what follows the last of these is taken for the
type. Brackets after the type always make an array. -/
theorem parse_parameterised (simple qualifier arguments id : String) (hsimple : IsSimple simple)
    (hqualifier : IsQualifier qualifier)
    (unbroken : ∀ c ∈ arguments.toList, Text.isBlank c = false)
    (hid : Text.isIdentifier id = true) :
    ∃ plain qualified parameterised : GlobalVariable,
      parse (simple ++ " " ++ id) = .ok plain
        ∧ parse (qualifier ++ simple ++ " " ++ id) = .ok qualified
        ∧ parse (qualifier ++ simple ++ "<" ++ arguments ++ ">" ++ " " ++ id) = .ok parameterised
        ∧ (qualified.valueType = plain.valueType
          ∧ ∀ data, qualified.violation? data = none ↔ plain.violation? data = none)
        ∧ ((∀ c ∈ arguments.toList, qualifies c = false) →
          parameterised.valueType = plain.valueType
            ∧ ∀ data, parameterised.violation? data = none ↔ plain.violation? data = none)
        ∧ ((∃ c ∈ arguments.toList, qualifies c = true) →
          parameterised.valueType
            = ofSimpleName (head (Text.lastPiece qualifies arguments ++ ">")))
        ∧ ∀ type ∈ [simple, qualifier ++ simple, qualifier ++ simple ++ "<" ++ arguments ++ ">"],
          parse (type ++ "[]" ++ " " ++ id) = .ok ⟨type ++ "[]", id, .array⟩ := by
  have hname : Text.IsWord (qualifier ++ simple) := hsimple.word.prepend hqualifier.unbroken
  have hwhole : Text.IsWord (qualifier ++ simple ++ "<" ++ arguments ++ ">") :=
    ((hname.append (Text.forall_mem_of_all (by decide))).append unbroken).append
      (Text.forall_mem_of_all (by decide))
  have hsame := (ofTypeName_qualified hsimple hqualifier).trans (ofTypeName_simple hsimple).symm
  refine ⟨_, _, _, parse_pair hsimple.word hid, parse_pair hname hid, parse_pair hwhole hid, ?_⟩
  dsimp only
  refine ⟨⟨hsame, violation?_eq_none_congr hsame⟩, fun unqualified => ?_,
    ofTypeName_qualified_arguments (qualifier ++ simple), ?_⟩
  · have hplain := (ofTypeName_arguments hsimple hqualifier unqualified).trans
      (ofTypeName_simple hsimple).symm
    exact ⟨hplain, violation?_eq_none_congr hplain⟩
  · have hbrackets : ∀ {type : String}, Text.IsWord type →
        parse (type ++ "[]" ++ " " ++ id) = .ok ⟨type ++ "[]", id, .array⟩ := by
      intro type htype
      rw [parse_pair (htype.append (Text.forall_mem_of_all (by decide))) hid, ofTypeName_brackets]
    intro type htype
    simp only [List.mem_cons, List.not_mem_nil, or_false] at htype
    rcases htype with rfl | rfl | rfl
    · exact hbrackets hsimple.word
    · exact hbrackets hname
    · exact hbrackets hwhole

theorem isSimple_map : IsSimple "Map" where
  word := ⟨by simp, Text.forall_mem_of_all (by decide)⟩
  unqualified := Text.forall_mem_of_all (by decide)
  plain := by simp

theorem isQualifier_util : IsQualifier "java.util." where
  unbroken := Text.forall_mem_of_all (by decide)
  ends := .inr ⟨'.', by decide, by decide⟩

theorem parse_parameterised_map :
    IsSimple "Map" ∧ IsQualifier "java.util." ∧ Text.isIdentifier "m" = true
      ∧ ∃ plain qualified parameterised : GlobalVariable,
        parse ("Map" ++ " " ++ "m") = .ok plain
          ∧ parse ("java.util." ++ "Map" ++ " " ++ "m") = .ok qualified
          ∧ parse ("java.util." ++ "Map" ++ "<" ++ "String,List<int>" ++ ">" ++ " " ++ "m")
            = .ok parameterised
          ∧ qualified.valueType = plain.valueType
          ∧ parameterised.valueType = plain.valueType
          ∧ ∀ data, parameterised.violation? data = none ↔ plain.violation? data = none := by
  have hid : Text.isIdentifier "m" = true := by decide +kernel
  obtain ⟨plain, qualified, parameterised, hplain, hqualified, hparameterised, hsame, harguments,
    -, -⟩ := parse_parameterised "Map" "java.util." "String,List<int>" "m" isSimple_map
      isQualifier_util (Text.forall_mem_of_all (by decide)) hid
  obtain ⟨htype, hdata⟩ := harguments (Text.forall_mem_of_all (by decide))
  exact ⟨isSimple_map, isQualifier_util, hid, plain, qualified, parameterised, hplain, hqualified,
    hparameterised, hsame.1, htype, hdata⟩

/-- A list whose items have a qualified type is taken for anything at all, and a map to qualified
lists is taken for a list. -/
theorem type_lost_in_arguments :
    parse ("List" ++ " " ++ "xs") = .ok ⟨"List", "xs", .array⟩
      ∧ parse ("List<java.lang.String>" ++ " " ++ "xs")
        = .ok ⟨"List<java.lang.String>", "xs", .any⟩
      ∧ parse ("Map" ++ " " ++ "xs") = .ok ⟨"Map", "xs", .object⟩
      ∧ parse ("Map<String,java.util.List<int>>" ++ " " ++ "xs")
        = .ok ⟨"Map<String,java.util.List<int>>", "xs", .array⟩ := by
  have hid : Text.isIdentifier "xs" = true := by decide +kernel
  have hlist : ofTypeName "List" = .array := by decide
  have hstrings : ofTypeName "List<java.lang.String>" = .any := by decide
  have hmap : ofTypeName "Map" = .object := by decide
  have hlists : ofTypeName "Map<String,java.util.List<int>>" = .array := by decide
  refine ⟨?_, ?_, ?_, ?_⟩
  · rw [parse_pair ⟨by simp, Text.forall_mem_of_all (by decide)⟩ hid, hlist]
  · rw [parse_pair ⟨by simp, Text.forall_mem_of_all (by decide)⟩ hid, hstrings]
  · rw [parse_pair ⟨by simp, Text.forall_mem_of_all (by decide)⟩ hid, hmap]
  · rw [parse_pair ⟨by simp, Text.forall_mem_of_all (by decide)⟩ hid, hlists]

end GlobalVariable

end LiveTemplates
