import LiveTemplates.Proofs.Json.Printed
import LiveTemplates.Program
import LiveTemplates.Symbols.Builtin

set_option autoImplicit false

/-! # How a value shows

A value that stands in braces shows in its output form; a function that needs text takes the display
form. Both are the same for null, for strings, and for plain values (`display_eq_rendered_iff`). In any
other value there is a first place at which they part: a string gets quotes, a null shows, a comma
has no space after it, or an object is spelled out. -/

namespace LiveTemplates

namespace Json

/-- A number, a truth value, or an array of at most one such value: what shows the same in output and
in JSON text wherever it stands. -/
inductive IsPlain : Json → Prop
  | bool (b : Bool) : IsPlain (bool b)
  | number (n : Number) : IsPlain (number n)
  | empty : IsPlain (array [])
  | single {item : Json} : IsPlain item → IsPlain (array [item])

/-! ## Output forms of arrays -/

theorem toList_rendered_single (item : Json) :
    (array [item]).rendered.toList = '[' :: item.rendered.toList ++ [']'] := by
  simp [rendered, renderedItems]

/-- Between two items there is a comma and a space. -/
theorem toList_rendered_cons_cons (item next : Json) (rest : List Json) :
    ∃ more, (array (item :: next :: rest)).rendered.toList
      = '[' :: item.rendered.toList ++ ',' :: ' ' :: more := by
  simp [rendered, renderedItems, String.intercalate_cons_cons]

theorem IsPlain.compact_eq {value : Json} (h : IsPlain value) : value.compact = value.rendered := by
  induction h with
  | bool b => cases b <;> simp [compact, print, rendered]
  | number n => simp [compact, print, rendered]
  | empty => simp [compact, print, printItems, rendered, renderedItems]
  | single _ ih =>
      rw [← String.toList_inj, toList_compact_array, toList_printItems_true, ih,
        toList_rendered_single, printItems, String.toList_empty, List.append_nil]

/-! ## The first place at which the forms part -/

/-- A text that follows an item: a comma or the end of an array. -/
def Follows (later : List Char) : Prop :=
  ∃ c more, later = c :: more ∧ (c = ',' ∨ c = ']')

/-- A quote or a backslash before the escaped form of a string is never caught up with: each character
that it is compared with is a quote or a backslash itself and so gets another one. -/
theorem escaped_append_ne (rest : List Char) {later : List Char} (hlater : Follows later) :
    ∀ (s ahead : List Char), ahead ≠ [] → (∀ c ∈ ahead, c = '"' ∨ c = '\\') →
      ahead ++ s.flatMap escapeChar ++ rest ≠ s ++ later := by
  intro s
  induction s with
  | nil =>
      intro ahead hne hahead heq
      obtain ⟨c, more, rfl, hc⟩ := hlater
      obtain ⟨a, as, rfl⟩ := List.exists_cons_of_ne_nil hne
      obtain ⟨rfl, -⟩ := List.cons.inj heq
      have ha := hahead a List.mem_cons_self
      rcases ha with rfl | rfl <;> simp at hc
  | cons d s ih =>
      intro ahead hne hahead heq
      obtain ⟨a, as, rfl⟩ := List.exists_cons_of_ne_nil hne
      obtain ⟨rfl, htail⟩ := List.cons.inj heq
      -- what is ahead loses a character and gets the two that this one is escaped to
      have hescape : escapeChar a = ['\\', a] := by
        rcases hahead a List.mem_cons_self with rfl | rfl <;> rfl
      refine ih (as ++ escapeChar a) (by simp [hescape]) ?_ ?_
      · intro c hc
        rw [hescape] at hc
        simp only [List.mem_append, List.mem_cons, List.not_mem_nil, or_false] at hc
        rcases hc with hc | rfl | rfl
        · exact hahead c (List.mem_cons_of_mem _ hc)
        · exact .inr rfl
        · exact hahead c List.mem_cons_self
      · simpa using htail

/-- The two forms of a value that is not plain part before they end, whatever comes after the JSON text,
if a comma or a bracket comes after the output form. -/
theorem compact_append_ne (rest : List Char) {later : List Char} (hlater : Follows later) :
    ∀ value : Json, ¬ IsPlain value →
      value.compact.toList ++ rest ≠ value.rendered.toList ++ later
  | null, _ => by
      obtain ⟨c, more, rfl, hc⟩ := hlater
      rcases hc with rfl | rfl <;> simp [compact, print, rendered]
  | bool b, h => absurd (.bool b) h
  | number n, h => absurd (.number n) h
  | string s, _ => by
      have hpart := escaped_append_ne ('"' :: rest) hlater s.toList ['"'] (by simp) (by simp)
      simpa [compact, print, rendered, toList_quote] using hpart
  | array [], h => absurd .empty h
  | array [item], h => by
      have hitem : ¬ IsPlain item := fun hplain => h (.single hplain)
      have hend : Follows (']' :: later) := ⟨']', later, rfl, .inr rfl⟩
      have hpart := compact_append_ne (']' :: rest) hend item hitem
      rw [toList_compact_array, toList_printItems_true, toList_rendered_single]
      simpa [printItems] using hpart
  | array (item :: next :: more), _ => by
      obtain ⟨shown, hshown⟩ := toList_rendered_cons_cons item next more
      rw [toList_compact_array, toList_printItems_true, toList_printItems_false, hshown]
      by_cases hitem : IsPlain item
      · -- the first items show the same, so the forms part after the comma
        have hrest : ((printItems "" false more).toList ++ ']' :: rest).head? ≠ some ' ' := by
          cases more with
          | nil => simp [printItems]
          | cons item rest => simp [toList_printItems_false]
        have hnext := head?_compact_ne next _ hrest
        intro heq
        rw [hitem.compact_eq] at heq
        simp only [List.cons_append, List.append_assoc, List.nil_append, List.cons.injEq,
          List.append_cancel_left_eq, true_and] at heq
        rw [heq] at hnext
        exact hnext rfl
      · -- the forms of the first item part, whatever follows it
        have hcomma : Follows (',' :: ' ' :: (shown ++ later)) := ⟨',', _, rfl, .inl rfl⟩
        have hpart := compact_append_ne
          (',' :: (next.compact.toList ++ (printItems "" false more).toList ++ ']' :: rest))
          hcomma item hitem
        simpa using hpart
  | object fields, _ => by
      rw [toList_compact_object]
      simp [rendered]

theorem compact_eq_rendered_iff (value : Json) : value.compact = value.rendered ↔ IsPlain value := by
  refine ⟨fun heq => ?_, IsPlain.compact_eq⟩
  by_cases hplain : IsPlain value
  · exact hplain
  · have hcomma : Follows [','] := ⟨',', [], rfl, .inl rfl⟩
    have hpart := compact_append_ne [','] hcomma value hplain
    rw [heq] at hpart
    exact absurd rfl hpart

end Json

open Json in
/-- The display form is the output form for null, strings and plain values, and for no others. -/
theorem Builtin.display_eq_rendered_iff (value : Json) :
    display value = value.rendered
      ↔ value = .null ∨ (∃ s, value = .string s) ∨ IsPlain value := by
  cases value with
  | null => simp [display, rendered]
  | string s => simp [display, rendered]
  | _ => simp [display, compact_eq_rendered_iff]

namespace Language

/-! ## Templates of one expression -/

/-- The path that is one key. -/
def keyPath (key : String) : Parameter :=
  .path (.steps [.key key] key)

variable {setting : Setting} {position : Option Position} {state : State} {call : Call}
  {key function text : String} {apply : TemplateFunction} {value result : Json}

theorem evaluateName_keyPath (setting : Setting) (state : State) (key : String) :
    evaluateName setting state (keyPath key) = .ok key := by
  rw [keyPath, evaluateName, Path.text]

/-- A field of the data is found from where the data begins. -/
theorem evaluate_keyPath (hscopes : state.scopes = [{}])
    (h : setting.data.field? key = some value) :
    evaluate setting state (keyPath key)
      = .ok { text := some key, value? := some value, place := some [key] } := by
  cases hdata : setting.data with
  | object fields =>
      rw [hdata] at h
      have hstep : step (some (.object fields)) key = .ok (some value) := congrArg Except.ok h
      have hfollow : follow (some (.object fields)) [key] = .ok (some value) := by
        rw [follow, hstep]
        rfl
      simp [evaluate, keyPath, Path.resolve, resolve, findBinding?, Dictionary.find?, Scope.resolve,
        fromData, keysOf, hscopes, hdata, hfollow, Except.map]
  | _ => simp [hdata, Json.field?] at h

/-- A key that is no helper shows the field of the data. -/
theorem renderExpression_field (hescape : setting.escape = id) (hindent : state.indent = none)
    (hscopes : state.scopes = [{}]) (hhelper : setting.vocabulary.helper? key = none)
    (hfield : setting.data.field? key = some value) (fuel : Nat) (output : String) :
    renderExpression setting (fuel + 1) ⟨keyPath key, [], []⟩ state output
      = .ok (state, output ++ value.rendered) := by
  have hshown : state.write (state.shown setting value) output = output ++ value.rendered := by
    simp [State.write, State.shown, hindent, hescape]
  simp [renderExpression, Call.isBare, evaluateName_keyPath, evaluate_keyPath hscopes hfield,
    hhelper, hshown, unplaced, Except.map, bind, Except.bind, pure, Except.pure]

theorem evaluateCall_keyPath (hscopes : state.scopes = [{}])
    (hfield : setting.data.field? key = some value) :
    evaluateCall setting state ⟨.name function, [keyPath key], []⟩
      = .ok (function, { positional := [{ text := some key, value? := some value,
                                          place := some [key] }] }) := by
  simp [evaluateCall, evaluateName, evaluateAll, evaluateNamed, evaluate_keyPath hscopes hfield,
    bind, Except.bind, pure, Except.pure]

/-- What a function makes of its arguments shows in its output form. -/
theorem renderHelper_function (hescape : setting.escape = id) {arguments : Arguments}
    (happly : apply arguments.values = .ok result) (bindings : List String)
    (body inverse : Option Template) (fuel : Nat) (output : String) :
    renderHelper setting (fuel + 1) (.function function apply) arguments bindings body inverse state
      output = .ok (state, output ++ result.rendered) := by
  simp [renderHelper, Helper.value, happly, State.shown, hescape, unplaced,
    bind, Except.bind, pure, Except.pure]

/-- The call of a function on a field of the data shows what the function makes of it. -/
theorem renderExpression_function (hescape : setting.escape = id) (hscopes : state.scopes = [{}])
    (hhelper : setting.vocabulary.helper? function = some (.function function apply))
    (hfield : setting.data.field? key = some value) (happly : apply [value] = .ok result)
    (fuel : Nat) (output : String) :
    renderExpression setting (fuel + 3) ⟨.name function, [keyPath key], []⟩ state output
      = .ok (state, output ++ result.rendered) := by
  simp [renderExpression, renderCall, Call.isBare, evaluateCall_keyPath hscopes hfield,
    Setting.helper?, hhelper, renderHelper_function hescape, Arguments.values, Operand.value, happly,
    unplaced, bind, Except.bind, pure, Except.pure]

/-- A template of one expression gives what the expression gives. -/
theorem Setting.render_expression
    (htemplate : setting.template = [(position, .expression true call)])
    (h : ∀ fuel, renderExpression setting (fuel + 3) call { current := some setting.name } ""
      = .ok ({ current := some setting.name }, text)) : setting.render = .ok text := by
  have helement : ∀ fuel, renderElement setting (fuel + 4) (.expression true call)
      { current := some setting.name } "" = .ok ({ current := some setting.name }, text) := by
    intro fuel
    simp [renderElement, h, bind, Except.bind, pure, Except.pure]
  have hwhole : ∀ fuel, renderTemplate setting (fuel + 5) (some setting.name)
      [(position, .expression true call)] {} "" = .ok ({ current := some setting.name }, text) := by
    intro fuel
    rw [renderTemplate, List.foldlM_cons]
    dsimp only
    rw [helement]
    rfl
  have hlimit : nestingLimit = 99995 + 5 := rfl
  rw [Setting.render, htemplate, hlimit, hwhole]
  rfl

end Language

namespace Program

open Builtin

variable {symbols : SymbolTable} {name source text : String} {template : Template}
  {data value : Json}

theorem ofSource_eq (symbols : SymbolTable) (name : String)
    (h : Language.readTemplate source = .ok template) :
    ofSource symbols name source
      = .ok { name, template, vocabulary := symbols.vocabulary, globals := symbols.globals } := by
  simp [ofSource, compile, h, Except.map]

theorem render_eq {program : Program} (haccepted : violation? data program.globals = none)
    (h : (program.setting data).render = .ok text) : program.render data = .ok text := by
  simp [render, run, haccepted, h]

/-- Whether a source was read as a field in braces. Templates have no decidable equality, but this
can be computed. -/
def isField (key : String) : Except SyntaxFault Template → Bool
  | .ok [(some place, .expression true ⟨.path (.steps [.key step] text), [], []⟩)] =>
    place = ⟨1, 1⟩ && step = key && text = key
  | _ => false

/-- Whether a source was read as the call of a function on a field, in braces. -/
def isCallOnField (function key : String) : Except SyntaxFault Template → Bool
  | .ok [(some place, .expression true
      ⟨.name called, [.path (.steps [.key step] text)], []⟩)] =>
    place = ⟨1, 1⟩ && called = function && step = key && text = key
  | _ => false

theorem eq_ok_of_isField {key : String} {read : Except SyntaxFault Template}
    (h : isField key read = true) :
    read = .ok [(some ⟨1, 1⟩, .expression true ⟨Language.keyPath key, [], []⟩)] := by
  unfold isField at h
  split at h
  · simp only [Bool.and_eq_true, decide_eq_true_eq] at h
    obtain ⟨⟨rfl, rfl⟩, rfl⟩ := h
    rfl
  · cases h

theorem eq_ok_of_isCallOnField {function key : String} {read : Except SyntaxFault Template}
    (h : isCallOnField function key read = true) :
    read = .ok [(some ⟨1, 1⟩,
      .expression true ⟨.name function, [Language.keyPath key], []⟩)] := by
  unfold isCallOnField at h
  split at h
  · simp only [Bool.and_eq_true, decide_eq_true_eq] at h
    obtain ⟨⟨⟨rfl, rfl⟩, rfl⟩, rfl⟩ := h
    rfl
  · cases h

theorem readTemplate_variable :
    Language.readTemplate "\x7b\x7bx\x7d\x7d"
      = .ok [(some ⟨1, 1⟩, .expression true ⟨Language.keyPath "x", [], []⟩)] :=
  eq_ok_of_isField (by decide +kernel)

theorem readTemplate_concat_variable :
    Language.readTemplate "\x7b\x7bconcat x\x7d\x7d"
      = .ok [(some ⟨1, 1⟩, .expression true ⟨.name "concat", [Language.keyPath "x"], []⟩)] :=
  eq_ok_of_isCallOnField (by decide +kernel)

theorem render_variable (symbols : SymbolTable) (name : String) (data : Json)
    (haccepted : violation? data symbols.globals = none)
    (hhelper : symbols.vocabulary.helper? "x" = none) (hfield : data.field? "x" = some value) :
    ∃ program, ofSource symbols name "\x7b\x7bx\x7d\x7d" = .ok program
      ∧ program.render data = .ok value.rendered := by
  refine ⟨_, ofSource_eq symbols name readTemplate_variable, render_eq haccepted ?_⟩
  refine Language.Setting.render_expression rfl fun fuel => ?_
  rw [Language.renderExpression_field rfl rfl rfl hhelper hfield, String.empty_append]

theorem render_concat (symbols : SymbolTable) (name : String) (data : Json)
    (haccepted : violation? data symbols.globals = none)
    (hhelper : symbols.vocabulary.helper? "concat" = some (.function "concat" concat))
    (hfield : data.field? "x" = some value) :
    ∃ program, ofSource symbols name "\x7b\x7bconcat x\x7d\x7d" = .ok program
      ∧ program.render data = .ok (display value) := by
  have hresult : concat [value] = .ok (.string (display value)) := by simp [concat]
  refine ⟨_, ofSource_eq symbols name readTemplate_concat_variable, render_eq haccepted ?_⟩
  refine Language.Setting.render_expression rfl fun fuel => ?_
  rw [Language.renderExpression_function rfl rfl hhelper hfield hresult, String.empty_append,
    Json.rendered]

/-- A variable in braces shows in its output form, and through `concat` in its display form. These are
the same for null, for strings and for plain values, and differ for all other values. -/
theorem render_concat_variable (symbols : SymbolTable) (name : String) (value : Json)
    (hvariable : symbols.vocabulary.helper? "x" = none)
    (hconcat : symbols.vocabulary.helper? "concat" = some (.function "concat" concat))
    (haccepted : violation? (.object [("x", value)]) symbols.globals = none) :
    ∃ shown joined : Program,
      ofSource symbols name "\x7b\x7bx\x7d\x7d" = .ok shown
        ∧ ofSource symbols name "\x7b\x7bconcat x\x7d\x7d" = .ok joined
        ∧ shown.render (.object [("x", value)]) = .ok value.rendered
        ∧ joined.render (.object [("x", value)]) = .ok (display value)
        ∧ (joined.render (.object [("x", value)]) = shown.render (.object [("x", value)])
          ↔ value = .null ∨ (∃ s, value = .string s) ∨ value.IsPlain) := by
  have hfield : (Json.object [("x", value)]).field? "x" = some value := by
    simp [Json.field?, Dictionary.find?]
  obtain ⟨shown, hshown, hvalue⟩ := render_variable symbols name _ haccepted hvariable hfield
  obtain ⟨joined, hjoined, hdisplay⟩ := render_concat symbols name _ haccepted hconcat hfield
  refine ⟨shown, joined, hshown, hjoined, hvalue, hdisplay, ?_⟩
  rw [hvalue, hdisplay, Except.ok.injEq]
  exact display_eq_rendered_iff value

/-- The table of all built-in providers. -/
def builtins : SymbolTable :=
  .scan providers [] {}

theorem render_concat_nested :
    builtins.vocabulary.helper? "x" = none
      ∧ builtins.vocabulary.helper? "concat" = some (.function "concat" concat)
      ∧ violation? (.object [("x", .array [.array [.ofNat 7]])]) builtins.globals = none
      ∧ ∃ shown joined : Program,
        ofSource builtins "page" "\x7b\x7bx\x7d\x7d" = .ok shown
          ∧ ofSource builtins "page" "\x7b\x7bconcat x\x7d\x7d" = .ok joined
          ∧ joined.render (.object [("x", .array [.array [.ofNat 7]])])
            = shown.render (.object [("x", .array [.array [.ofNat 7]])]) := by
  obtain ⟨shown, joined, hshown, hjoined, -, -, hsame⟩ :=
    render_concat_variable builtins "page" (.array [.array [.ofNat 7]]) rfl rfl rfl
  have hplain : (Json.array [.array [.ofNat 7]]).IsPlain := .single (.single (.number _))
  exact ⟨rfl, rfl, rfl, shown, joined, hshown, hjoined, hsame.2 (.inr (.inr hplain))⟩

/-- An array of two items has a space after its comma in braces, but not through `concat`. -/
theorem concat_parts_from_variable :
    ∃ shown joined : Program,
      ofSource builtins "page" "\x7b\x7bx\x7d\x7d" = .ok shown
        ∧ ofSource builtins "page" "\x7b\x7bconcat x\x7d\x7d" = .ok joined
        ∧ shown.render (.object [("x", .array [.ofNat 1, .ofNat 2])]) = .ok "[1, 2]"
        ∧ joined.render (.object [("x", .array [.ofNat 1, .ofNat 2])]) = .ok "[1,2]" := by
  have hrendered : (Json.array [.ofNat 1, .ofNat 2]).rendered = "[1, 2]" := by decide +kernel
  have hdisplay : display (.array [.ofNat 1, .ofNat 2]) = "[1,2]" := by decide +kernel
  obtain ⟨shown, hshown, hvalue⟩ := render_variable builtins "page"
    (.object [("x", .array [.ofNat 1, .ofNat 2])]) rfl rfl rfl
  obtain ⟨joined, hjoined, hjoin⟩ := render_concat builtins "page"
    (.object [("x", .array [.ofNat 1, .ofNat 2])]) rfl rfl rfl
  rw [hrendered] at hvalue
  rw [hdisplay] at hjoin
  exact ⟨shown, joined, hshown, hjoined, hvalue, hjoin⟩

end Program

end LiveTemplates
