import LiveTemplates.Config.Imports
import LiveTemplates.Config.Properties
import LiveTemplates.Proofs.Symbols.Declared
import LiveTemplates.Proofs.Text.Trimmed

set_option autoImplicit false

/-! # Declarations in a property

A property that declares globals gives the configuration of the pieces between its commas
(`ofProperties_declarations`). A declaration without a comma is such a piece. A comma in a declaration
can only stand in the type, where no blank is before it (`unbroken_before_comma`), so it leaves a piece
of one word, which is no declaration, unless only commas are before it. -/

namespace LiveTemplates

namespace Configuration

variable {declaration entry text : String} {declarations : List String}

/-! ## Lists with commas -/

theorem splitList_append (first second : String) :
    splitList (first ++ "," ++ second) = splitList first ++ splitList second := by
  have htext : (first ++ "," ++ second).toList = first.toList ++ ',' :: second.toList := by simp
  rw [splitList, Text.splitAt, htext, Text.splitAtChars_append_separator (by decide)]
  simp [splitList, Text.splitAt]

theorem splitList_space_append (text : String) : splitList (" " ++ text) = splitList text := by
  obtain ⟨piece, pieces, hpieces⟩ :=
    List.exists_cons_of_ne_nil (Text.splitAtChars_ne_nil (· = ',') text.toList)
  have hspace : Text.splitAtChars (· = ',') (" " ++ text).toList = (' ' :: piece) :: pieces := by
    rw [String.toList_append]
    exact Text.splitAtChars_append " ".toList (by simp) hpieces
  rw [splitList, Text.splitAt, hspace, splitList, Text.splitAt, hpieces, List.map_cons,
    List.map_cons, List.map_cons, List.map_cons, Text.trim_cons_of_blank (by decide)]

theorem splitList_intercalate (entries : List String) :
    splitList (", ".intercalate entries) = entries.flatMap splitList := by
  induction entries with
  | nil => decide
  | cons first rest ih =>
      cases rest with
      | nil => simp
      | cons second rest =>
          have hcomma : (", " : String) = "," ++ " " := by decide
          rw [String.intercalate_cons_cons, hcomma, ← String.append_assoc, String.append_assoc,
            splitList_append, splitList_space_append, ← hcomma, ih]
          rfl

theorem mem_splitList (text entry : String) :
    entry ∈ splitList text
      ↔ (∃ piece ∈ Text.splitAtChars (· = ',') text.toList,
          Text.trim (String.ofList piece) = entry) ∧ entry ≠ "" := by
  simp [splitList, Text.splitAt]

/-- An entry has no comma, and no blanks around it. -/
theorem bare_of_mem_splitList (h : entry ∈ splitList text) :
    ',' ∉ entry.toList ∧ Text.trim entry = entry ∧ entry ≠ "" := by
  obtain ⟨⟨piece, hpiece, rfl⟩, hoccupied⟩ := (mem_splitList text entry).1 h
  refine ⟨?_, Text.trim_trim _, hoccupied⟩
  intro hcomma
  obtain ⟨before, after, htext, -, -⟩ := Text.exists_around_trim (String.ofList piece)
  rw [String.toList_ofList] at htext
  have hmem : ',' ∈ piece := by
    rw [htext]
    simp [hcomma]
  simpa using Text.unbroken_of_mem_splitAtChars hpiece ',' hmem

theorem splitList_of_plain (plain : ',' ∉ text.toList) (bare : Text.trim text = text)
    (occupied : text ≠ "") : splitList text = [text] := by
  have hunbroken : ∀ c ∈ text.toList, decide (c = ',') = false := by
    intro c hc
    rw [decide_eq_false_iff_not]
    rintro rfl
    exact plain hc
  rw [splitList, Text.splitAt, Text.splitAtChars_of_unbroken hunbroken]
  simp [bare, occupied]

/-! ## Configurations of declarations alone -/

theorem words_of_parse {declared : GlobalVariable}
    (h : GlobalVariable.parse declaration = .ok declared) :
    Text.words declaration = [declared.typeName, declared.id]
      ∧ Text.isIdentifier declared.id = true := by
  unfold GlobalVariable.parse at h
  split at h
  · next typeName id hwords =>
      split at h
      · next hid =>
          cases h
          exact ⟨hwords, hid⟩
      · cases h
  · cases h

theorem trim_ne_empty_of_parse {declared : GlobalVariable}
    (h : GlobalVariable.parse declaration = .ok declared) : Text.trim declaration ≠ "" := by
  intro hempty
  have hwords := (words_of_parse h).1
  rw [← Text.words_trim, hempty] at hwords
  simp [Text.words, Text.splitAtChars] at hwords

/-- One word alone declares nothing. -/
theorem exists_fault_of_word (h : Text.IsWord declaration) :
    ∃ fault, GlobalVariable.parse declaration = .error fault := by
  refine ⟨.badDeclaration (Text.trim declaration), ?_⟩
  rw [GlobalVariable.parse, h.words]

theorem checkVariables_eq_ok_iff :
    checkVariables declarations = .ok ()
      ↔ ∀ declaration ∈ declarations,
        ∃ declared, GlobalVariable.parse declaration = .ok declared := by
  induction declarations with
  | nil => simp [checkVariables]
  | cons first rest ih =>
      rw [checkVariables, List.forall_mem_cons, ← ih]
      cases GlobalVariable.parse first with
      | error fault => simp
      | ok declared => simp

theorem exists_fault_of_refused {fault : SymbolFault} (hmem : declaration ∈ declarations)
    (refused : GlobalVariable.parse declaration = .error fault) :
    ∃ fault, checkVariables declarations = .error fault := by
  cases hcheck : checkVariables declarations with
  | error fault => exact ⟨fault, rfl⟩
  | ok valid =>
      obtain ⟨declared, hdeclared⟩ := checkVariables_eq_ok_iff.1 hcheck declaration hmem
      rw [refused] at hdeclared
      cases hdeclared

theorem build_eq_ok_iff {config other : Configuration} :
    config.build = .ok other ↔ config.validate = .ok () ∧ other = config := by
  rw [build]
  cases config.validate with
  | error fault =>
      constructor
      · intro h
        cases h
      · rintro ⟨h, -⟩
        cases h
  | ok valid =>
      constructor
      · intro h
        cases h
        exact ⟨rfl, rfl⟩
      · rintro ⟨-, rfl⟩
        rfl

/-- What is left to decide once path, encoding and lists have been checked. -/
theorem build_of_checkLists {config : Configuration} (path : config.templatePath ≠ "")
    (encoding : Encoding.check config.inputEncoding = .ok ())
    (lists : checkLists config.lists = .ok ()) :
    config.build = ((checkVariables config.globals).mapError .symbol).map fun _ => config := by
  have hpath : ¬ config.templatePath.isEmpty = true := by simpa using path
  rw [build, validate, if_neg hpath, encoding, lists]
  rfl

/-- With no entry of blanks only, the declarations alone decide. -/
theorem build_declarations
    (occupied : ∀ declaration ∈ declarations, Text.trim declaration ≠ "") :
    build { globals := declarations }
      = ((checkVariables declarations).mapError .symbol).map fun _ => { globals := declarations } := by
  refine build_of_checkLists (by simp) Encoding.check_utf8 ?_
  simpa [checkLists, lists, hasEmptyEntry] using occupied

theorem build_of_accepted
    (accepted : ∀ declaration ∈ declarations,
      ∃ declared, GlobalVariable.parse declaration = .ok declared) :
    build { globals := declarations } = .ok { globals := declarations } := by
  have hoccupied : ∀ declaration ∈ declarations, Text.trim declaration ≠ "" := by
    intro declaration hmem
    obtain ⟨declared, hdeclared⟩ := accepted declaration hmem
    exact trim_ne_empty_of_parse hdeclared
  rw [build_declarations hoccupied, checkVariables_eq_ok_iff.2 accepted]
  rfl

/-! ## The property -/

theorem ofProperties_globals (text : String) :
    ofProperties [("import.variables", text)]
      = build { globals := splitList (Text.trim text) } := by
  have hkey : Text.trim "import.variables" = "import.variables" := by decide
  have hset : setProperty {} "import.variables" text
      = .ok { globals := splitList (Text.trim text) } := by
    simp [setProperty, hkey]
  rw [ofProperties, setProperties, hset]
  rfl

theorem isBare_append {first second : String} (hfirst : Text.IsBare first)
    (hsecond : Text.IsBare second) (occupied : first ≠ "") (occupied' : second ≠ "")
    (between : String) : Text.IsBare (first ++ between ++ second) where
  first := by
    intro c hc
    obtain ⟨d, rest, hd⟩ := List.exists_cons_of_ne_nil (mt String.toList_eq_nil_iff.1 occupied)
    exact hfirst.first c (by simpa [hd] using hc)
  last := by
    intro c hc
    have hlast := List.getLast?_eq_some_getLast (mt String.toList_eq_nil_iff.1 occupied')
    rw [String.toList_append, List.getLast?_append, hlast, Option.some_or] at hc
    exact hsecond.last c (hlast.trans hc)

theorem isBare_intercalate {entries : List String}
    (bare : ∀ entry ∈ entries, Text.IsBare entry ∧ entry ≠ "") :
    Text.IsBare (", ".intercalate entries) := by
  induction entries with
  | nil => exact ⟨by simp, by simp⟩
  | cons first rest ih =>
      cases rest with
      | nil => simpa using (bare first List.mem_cons_self).1
      | cons second rest =>
          obtain ⟨⟨hfirst, hoccupied⟩, bare⟩ := List.forall_mem_cons.1 bare
          have hrest := ih bare
          have hoccupied' : ", ".intercalate (second :: rest) ≠ "" := by
            have hsecond := (bare second (by simp)).2
            cases rest <;> simp [String.intercalate_cons_cons, hsecond]
          rw [String.intercalate_cons_cons]
          exact isBare_append hfirst hrest hoccupied hoccupied' ", "

/-- No identifier has a comma. -/
theorem comma_notMem_of_isIdentifier {id : String} (h : Text.isIdentifier id = true) :
    ',' ∉ id.toList := by
  intro hmem
  have hcomma : (Text.isLetter ',' || Text.isNumeral ',' || ',' = '_' || ',' = '$') = false := by
    decide +kernel
  have hletter := (Text.letters_of_isIdentifier h).2 ',' hmem
  rw [hcomma] at hletter
  cases hletter

/-- Two lists that are not empty and make two items together have one each. -/
theorem tail_of_append_pair {α : Type} {one other : List α} {first second : α} (hone : one ≠ [])
    (hother : other ≠ []) (h : one ++ other = [first, second]) : other = [second] := by
  obtain ⟨a, rest, rfl⟩ := List.exists_cons_of_ne_nil hone
  simp only [List.cons_append, List.cons.injEq] at h
  rcases List.append_eq_singleton_iff.1 h.2 with ⟨-, hrest⟩ | ⟨-, hnone⟩
  · exact hrest
  · exact absurd hnone hother

/-- Only characters of the type stand before a comma of a declaration. -/
theorem unbroken_before_comma {declared : GlobalVariable} {front back : List Char}
    (bare : Text.trim declaration = declaration)
    (accepted : GlobalVariable.parse declaration = .ok declared)
    (hcomma : declaration.toList = front ++ ',' :: back) :
    ∀ c ∈ front, Text.isBlank c = false := by
  intro c hc
  cases hblank : Text.isBlank c with
  | false => rfl
  | true =>
      obtain ⟨before, after, rfl⟩ := List.append_of_mem hc
      obtain ⟨hwords, hid⟩ := words_of_parse accepted
      have hcut : declaration.toList = before ++ c :: (after ++ ',' :: back) := by
        simp [hcomma]
      -- the type is before the blank, so the identifier is all that follows, and has the comma
      have hbefore : Text.wordsIn before ≠ [] := by
        have hhead := (Text.isBare_iff.2 bare).first
        cases before with
        | nil =>
            rw [hhead c (by simp [hcut])] at hblank
            cases hblank
        | cons d rest =>
            obtain ⟨word, hword, -⟩ :=
              Text.exists_word_of_mem List.mem_cons_self (hhead d (by simp [hcut]))
            exact List.ne_nil_of_mem hword
      obtain ⟨word, hword, hmem⟩ : ∃ word ∈ Text.wordsIn (after ++ ',' :: back), ',' ∈ word :=
        Text.exists_word_of_mem (by simp) (by decide)
      rw [Text.words_eq_map, hcut, Text.wordsIn_append_blank hblank, List.map_append] at hwords
      have hafter := tail_of_append_pair (by simpa using hbefore)
        (by simpa using List.ne_nil_of_mem hword) hwords
      have hlast : String.ofList word = declared.id := by
        have hmap := List.mem_map_of_mem (f := String.ofList) hword
        simpa [hafter] using hmap
      refine absurd ?_ (comma_notMem_of_isIdentifier hid)
      rw [← hlast, String.toList_ofList]
      exact hmem

/-- A comma after another character leaves a piece that declares nothing. -/
theorem exists_refused_of_comma {declared : GlobalVariable} {front back : List Char}
    (bare : Text.trim declaration = declaration)
    (accepted : GlobalVariable.parse declaration = .ok declared)
    (hcomma : declaration.toList = front ++ ',' :: back) (other : ∃ c ∈ front, c ≠ ',') :
    ∃ entry ∈ splitList declaration, ∃ fault, GlobalVariable.parse entry = .error fault := by
  obtain ⟨c, hc, hne⟩ := other
  have hplain : decide (c = ',') = false := decide_eq_false hne
  obtain ⟨piece, hpiece, hmem⟩ :=
    (Text.exists_piece_iff (fun c => decide (c = ',')) front).2 ⟨hc, hplain⟩
  have hword : Text.IsWord (String.ofList piece) := by
    refine ⟨by simpa using List.ne_nil_of_mem hmem, ?_⟩
    intro d hd
    rw [String.toList_ofList] at hd
    have hfront := ((Text.exists_piece_iff _ _).1 ⟨piece, hpiece, hd⟩).1
    exact unbroken_before_comma bare accepted hcomma d hfront
  refine ⟨String.ofList piece, (mem_splitList _ _).2 ⟨⟨piece, ?_, hword.bare.trim⟩, ?_⟩,
    exists_fault_of_word hword⟩
  · rw [hcomma, Text.splitAtChars_append_separator (by decide)]
    exact List.mem_append_left _ hpiece
  · simpa using hword.occupied

theorem ofProperties_declarations
    (bare : ∀ declaration ∈ declarations, Text.trim declaration = declaration)
    (accepted : ∀ declaration ∈ declarations,
      ∃ declared, GlobalVariable.parse declaration = .ok declared) :
    ofProperties [("import.variables", ", ".intercalate declarations)]
      = build { globals := declarations.flatMap splitList } := by
  have hbare : Text.IsBare (", ".intercalate declarations) := by
    refine isBare_intercalate fun declaration hmem => ?_
    obtain ⟨declared, hdeclared⟩ := accepted declaration hmem
    refine ⟨Text.isBare_iff.2 (bare declaration hmem), ?_⟩
    rw [← bare declaration hmem]
    exact trim_ne_empty_of_parse hdeclared
  rw [ofProperties_globals, hbare.trim, splitList_intercalate]

theorem flatMap_splitList_of_plain
    (bare : ∀ declaration ∈ declarations, Text.trim declaration = declaration ∧ declaration ≠ "")
    (plain : ∀ declaration ∈ declarations, ',' ∉ declaration.toList) :
    declarations.flatMap splitList = declarations := by
  induction declarations with
  | nil => rfl
  | cons first rest ih =>
      obtain ⟨⟨hfirst, hoccupied⟩, bare⟩ := List.forall_mem_cons.1 bare
      obtain ⟨hplain, plain⟩ := List.forall_mem_cons.1 plain
      rw [List.flatMap_cons, splitList_of_plain hplain hfirst hoccupied, ih bare plain]
      rfl

/-- A declaration that cannot be read makes the configuration one that is refused. -/
theorem build_of_refused {fault : SymbolFault}
    (occupied : ∀ declaration ∈ declarations, Text.trim declaration ≠ "")
    (hmem : declaration ∈ declarations)
    (refused : GlobalVariable.parse declaration = .error fault) :
    ∃ fault, build { globals := declarations } = .error (.symbol fault) := by
  obtain ⟨fault, hfault⟩ := exists_fault_of_refused hmem refused
  refine ⟨fault, ?_⟩
  rw [build_declarations occupied, hfault]
  rfl

end Configuration

namespace SymbolTable

theorem exists_variables {declarations : List String}
    (accepted : ∀ declaration ∈ declarations,
      ∃ declared, GlobalVariable.parse declaration = .ok declared) :
    ∃ globals : List GlobalVariable,
      declarations.map GlobalVariable.parse = globals.map .ok := by
  induction declarations with
  | nil => exact ⟨[], rfl⟩
  | cons first rest ih =>
      obtain ⟨⟨declared, hfirst⟩, accepted⟩ := List.forall_mem_cons.1 accepted
      obtain ⟨globals, hrest⟩ := ih accepted
      exact ⟨declared :: globals, by rw [List.map_cons, hfirst, hrest, List.map_cons]⟩

/-- Declarations that can all be read are put in one after the other. -/
theorem addDeclarations_of_variables {declarations : List String} {globals : List GlobalVariable}
    (h : declarations.map GlobalVariable.parse = globals.map .ok) (table : SymbolTable) :
    table.addDeclarations declarations
      = .ok { table with
          globals := Dictionary.merge (globals.map fun declared => (declared.id, declared))
            table.globals } := by
  induction declarations generalizing globals table with
  | nil =>
      cases globals with
      | nil => rfl
      | cons declared rest => simp at h
  | cons first rest ih =>
      cases globals with
      | nil => simp at h
      | cons declared others =>
          rw [List.map_cons, List.map_cons, List.cons.injEq] at h
          rw [addDeclarations, h.1]
          exact ih h.2 (table.addGlobal declared)

end SymbolTable

namespace Configuration

/-- Declarations that can be read are put together with commas as a property: they come back as they
are if and only if none of them has a comma. What comes back is what is between the commas, and if a
comma follows any other character of its declaration, the property is refused. -/
theorem listed_declarations (declarations : List String)
    (bare : ∀ declaration ∈ declarations, Text.trim declaration = declaration)
    (accepted : ∀ declaration ∈ declarations,
      ∃ declared, GlobalVariable.parse declaration = .ok declared) :
    build { globals := declarations } = .ok { globals := declarations }
      ∧ (∃ globals : List GlobalVariable,
        declarations.map GlobalVariable.parse = globals.map .ok
          ∧ ∀ providers, SymbolTable.ofConfiguration providers { globals := declarations }
            = .ok { globals :=
              Dictionary.ofList (globals.map fun declared => (declared.id, declared)) })
      ∧ ofProperties [("import.variables", ", ".intercalate declarations)]
        = build { globals := declarations.flatMap splitList }
      ∧ (ofProperties [("import.variables", ", ".intercalate declarations)]
          = .ok { globals := declarations }
        ↔ ∀ declaration ∈ declarations, ',' ∉ declaration.toList)
      ∧ ((∃ declaration ∈ declarations, ∃ front back,
          declaration.toList = front ++ ',' :: back ∧ ∃ c ∈ front, c ≠ ',') →
        ∃ fault, ofProperties [("import.variables", ", ".intercalate declarations)]
          = .error (.symbol fault)) := by
  have hbuild := build_of_accepted accepted
  have hlisted := ofProperties_declarations bare accepted
  refine ⟨hbuild, ?_, hlisted, ⟨?_, ?_⟩, ?_⟩
  · obtain ⟨globals, hvariables⟩ := SymbolTable.exists_variables accepted
    refine ⟨globals, hvariables, fun providers => ?_⟩
    have hadded := SymbolTable.addDeclarations_of_variables hvariables {}
    simp only [SymbolTable.ofConfiguration, List.foldl_nil, List.foldlM_nil, pure_bind]
    rw [hadded]
    rfl
  · intro hcarried declaration hmem
    rw [hlisted] at hcarried
    have hsame : declarations.flatMap splitList = declarations :=
      (congrArg Configuration.globals (build_eq_ok_iff.1 hcarried).2).symm
    rw [← hsame] at hmem
    obtain ⟨whole, -, hentry⟩ := List.mem_flatMap.1 hmem
    exact (bare_of_mem_splitList hentry).1
  · intro plain
    have hoccupied : ∀ declaration ∈ declarations,
        Text.trim declaration = declaration ∧ declaration ≠ "" := by
      intro declaration hmem
      obtain ⟨declared, hdeclared⟩ := accepted declaration hmem
      have hne := trim_ne_empty_of_parse hdeclared
      rw [bare declaration hmem] at hne
      exact ⟨bare declaration hmem, hne⟩
    rw [hlisted, flatMap_splitList_of_plain hoccupied plain, hbuild]
  · rintro ⟨declaration, hmem, front, back, hcomma, hother⟩
    obtain ⟨declared, hdeclared⟩ := accepted declaration hmem
    obtain ⟨entry, hentry, fault, hfault⟩ :=
      exists_refused_of_comma (bare declaration hmem) hdeclared hcomma hother
    have hoccupied : ∀ entry ∈ declarations.flatMap splitList, Text.trim entry ≠ "" := by
      intro entry hentry
      obtain ⟨whole, -, hpart⟩ := List.mem_flatMap.1 hentry
      obtain ⟨-, hbare, hne⟩ := bare_of_mem_splitList hpart
      rwa [hbare]
    rw [hlisted]
    exact build_of_refused hoccupied (List.mem_flatMap.2 ⟨declaration, hmem, hentry⟩) hfault

theorem listed_declarations_of_two :
    (∀ declaration ∈ ["java.lang.String site", "int[]\tids"], Text.trim declaration = declaration)
      ∧ (∀ declaration ∈ ["java.lang.String site", "int[]\tids"],
        ∃ declared, GlobalVariable.parse declaration = .ok declared)
      ∧ ofProperties [("import.variables", "java.lang.String site, int[]\tids")]
        = .ok { globals := ["java.lang.String site", "int[]\tids"] } := by
  have hbare : ∀ declaration ∈ ["java.lang.String site", "int[]\tids"],
      Text.trim declaration = declaration := by
    decide
  have haccepted : ∀ declaration ∈ ["java.lang.String site", "int[]\tids"],
      ∃ declared, GlobalVariable.parse declaration = .ok declared := by
    intro declaration hmem
    simp only [List.mem_cons, List.not_mem_nil, or_false] at hmem
    rcases hmem with rfl | rfl
    · have hwords : Text.words "java.lang.String site" = ["java.lang.String", "site"] := by decide
      exact ⟨_, GlobalVariable.parse_of_words hwords (by decide +kernel)⟩
    · have hwords : Text.words "int[]\tids" = ["int[]", "ids"] := by decide
      exact ⟨_, GlobalVariable.parse_of_words hwords (by decide +kernel)⟩
  have hjoined : ", ".intercalate ["java.lang.String site", "int[]\tids"]
      = "java.lang.String site, int[]\tids" := by
    decide
  obtain ⟨-, -, -, hcarried, -⟩ := listed_declarations _ hbare haccepted
  rw [hjoined] at hcarried
  exact ⟨hbare, haccepted, hcarried.2 (by decide)⟩

/-- A map from strings is declared with a comma between its arguments, which is taken for the end of a
declaration. A comma in front gets lost, and with it the type, which was not known by that name. -/
theorem torn_at_comma :
    Text.trim "Map<String,Object> m" = "Map<String,Object> m"
      ∧ GlobalVariable.parse "Map<String,Object> m" = .ok ⟨"Map<String,Object>", "m", .object⟩
      ∧ build { globals := ["Map<String,Object> m"] } = .ok { globals := ["Map<String,Object> m"] }
      ∧ ofProperties [("import.variables", "Map<String,Object> m")]
        = .error (.symbol (.badDeclaration "Map<String"))
      ∧ GlobalVariable.parse ",String x" = .ok ⟨",String", "x", .any⟩
      ∧ ofProperties [("import.variables", ",String x")] = .ok { globals := ["String x"] } := by
  have hmap : GlobalVariable.parse "Map<String,Object> m"
      = .ok ⟨"Map<String,Object>", "m", .object⟩ := by
    have hwords : Text.words "Map<String,Object> m" = ["Map<String,Object>", "m"] := by decide
    exact GlobalVariable.parse_of_words hwords (by decide +kernel)
  have hstring : GlobalVariable.parse "String x" = .ok ⟨"String", "x", .string⟩ := by
    have hwords : Text.words "String x" = ["String", "x"] := by decide
    exact GlobalVariable.parse_of_words hwords (by decide +kernel)
  have hcomma : GlobalVariable.parse ",String x" = .ok ⟨",String", "x", .any⟩ := by
    have hwords : Text.words ",String x" = [",String", "x"] := by decide
    exact GlobalVariable.parse_of_words hwords (by decide +kernel)
  have htorn : GlobalVariable.parse "Map<String" = .error (.badDeclaration "Map<String") := by
    have hwords : Text.words "Map<String" = ["Map<String"] := by decide
    have hbare : Text.trim "Map<String" = "Map<String" := by decide
    rw [GlobalVariable.parse, hwords, hbare]
  have hpieces : splitList (Text.trim "Map<String,Object> m") = ["Map<String", "Object> m"] := by
    decide
  have hkept : splitList (Text.trim ",String x") = ["String x"] := by decide
  refine ⟨by decide, hmap, build_of_accepted ?_, ?_, hcomma, ?_⟩
  · simp [hmap]
  · rw [ofProperties_globals, hpieces, build_declarations (by decide), checkVariables, htorn]
    rfl
  · rw [ofProperties_globals, hkept]
    exact build_of_accepted (by simp [hstring])

end Configuration

end LiveTemplates
