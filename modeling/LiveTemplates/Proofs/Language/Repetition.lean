import LiveTemplates.Proofs.Language.Unescaped
import Mathlib.Data.ENat.Basic
import Mathlib.Data.String.Basic

set_option autoImplicit false

/-! # Repetition

A repetition gives exactly as many copies of its body as its first argument counts, if these have
no more than `2 ^ 20` bytes together; it fails if the argument is no count, or the copies have more
(`repeat_exact_and_bounded`). The product of the count and the size is formed with 64 bits only, but
a product that does not fit in them is above the limit anyway (`filter_checkedProduct?`).

The body may itself be of any size: a block of a tag renders its body apart and appends only what
the tag makes of it (`exists_of_block_tag`). So a bound on the output of a template can be read off
its outermost blocks (`allowance`): a repetition counts `2 ^ 20` bytes whatever it holds. -/

namespace LiveTemplates

namespace Builtin

/-! ## Sizes -/

theorem utf8ByteSize_trim_le (s : String) : (Text.trim s).utf8ByteSize ≤ s.utf8ByteSize := by
  have hend : ∀ cs : List Char, (Text.dropWhileEnd Text.isBlank cs).Sublist cs := fun cs => by
    simpa [Text.dropWhileEnd] using (List.dropWhile_sublist (l := cs.reverse) Text.isBlank).reverse
  rw [Text.trim, String.utf8ByteSize_ofList, ← String.utf8Len_toList s]
  exact String.utf8Len_le_of_sublist ((hend _).trans (List.dropWhile_sublist _))

theorem utf8ByteSize_join_replicate (n : Nat) (s : String) :
    (String.join (List.replicate n s)).utf8ByteSize = n * s.utf8ByteSize := by
  induction n with
  | zero => simp
  | succ n ih =>
      rw [List.replicate_succ, String.join_cons, String.utf8ByteSize_append, ih, Nat.succ_mul,
        Nat.add_comm]

/-- Without any bytes, the copies are the empty text however many there are. -/
theorem join_replicate_of_size_eq_zero {n : Nat} {s : String} (h : n * s.utf8ByteSize = 0) :
    String.join (List.replicate n s) = "" := by
  rw [← String.utf8ByteSize_eq_zero_iff, utf8ByteSize_join_replicate, h]

/-! ## The outcome of a repetition -/

/-- The first argument is this whole number of 64 bits. -/
def Counts (arguments : List Json) (n : Nat) : Prop :=
  arguments.head? = some (.number (.whole n)) ∧ n < 2 ^ 64

theorem bind_asNat?_eq_some_iff {arguments : List Json} {n : Nat} :
    arguments.head?.bind Json.asNat? = some n ↔ Counts arguments n := by
  have hbound : Number.bound = ((2 ^ 64 : Nat) : Int) := rfl
  have hnumber : ∀ number : Number,
      number.asNat? = some n ↔ number = .whole n ∧ n < 2 ^ 64 := by
    intro number
    cases number with
    | double x => simp [Number.asNat?]
    | whole i =>
        rw [Number.asNat?, hbound, Number.whole.injEq]
        split
        · rw [Option.some.injEq]
          omega
        · refine iff_of_false (Option.some_ne_none n).symm ?_
          omega
  rw [Option.bind_eq_some_iff, Counts]
  constructor
  · rintro ⟨value, hvalue, hcount⟩
    cases value with
    | number number =>
        obtain ⟨rfl, hlt⟩ := (hnumber number).1 hcount
        exact ⟨hvalue, hlt⟩
    | _ => cases hcount
  · rintro ⟨hhead, hlt⟩
    have hcount := (hnumber (.whole n)).2 ⟨rfl, hlt⟩
    exact ⟨.number (.whole n), hhead, by rwa [Json.asNat?]⟩

/-- A product above the limit is refused, whether or not it fits in 64 bits. -/
theorem filter_checkedProduct? (m n : Nat) :
    (checkedProduct? m n).filter (· ≤ repeatLimit)
      = if m * n ≤ 2 ^ 20 then some (m * n) else none := by
  have hlimit : repeatLimit = 2 ^ 20 := rfl
  have hword : Nat.pow 2 64 = 2 ^ 64 := rfl
  rw [checkedProduct?, hword, hlimit]
  by_cases hfits : m * n < 2 ^ 64
  · rw [if_pos hfits, Option.filter_some]
    simp only [decide_eq_true_eq]
  · have hlarge : ¬ m * n ≤ 2 ^ 20 := by omega
    rw [if_neg hfits, if_neg hlarge, Option.filter_none]

theorem repeatBody_of_counts {arguments : List Json} {n : Nat} (h : Counts arguments n)
    (body : String) :
    repeatBody arguments body
      = if n * body.utf8ByteSize ≤ 2 ^ 20 then .ok (String.join (List.replicate n body))
        else .error "repeat count too large" := by
  rw [repeatBody, bind_asNat?_eq_some_iff.2 h]
  dsimp only
  rw [filter_checkedProduct?]
  split_ifs with hsize
  · dsimp only
    split_ifs with hzero
    · rw [join_replicate_of_size_eq_zero hzero]
    · rfl
  · rfl

theorem repeatBody_of_not_counts {arguments : List Json} (h : ¬ ∃ n, Counts arguments n)
    (body : String) : repeatBody arguments body = .error "repeat expects a non-negative count" := by
  have hnone : arguments.head?.bind Json.asNat? = none :=
    Option.eq_none_iff_forall_ne_some.2 fun n hn => h ⟨n, bind_asNat?_eq_some_iff.1 hn⟩
  rw [repeatBody, hnone]

theorem repeatBody_eq_ok_iff {arguments : List Json} {body text : String} :
    repeatBody arguments body = .ok text ↔ ∃ n, Counts arguments n
      ∧ n * body.utf8ByteSize ≤ 2 ^ 20 ∧ text = String.join (List.replicate n body) := by
  constructor
  · intro h
    by_cases hcounts : ∃ n, Counts arguments n
    · obtain ⟨n, hn⟩ := hcounts
      rw [repeatBody_of_counts hn] at h
      split_ifs at h with hsize
      exact ⟨n, hn, hsize, (Except.ok.inj h).symm⟩
    · rw [repeatBody_of_not_counts hcounts] at h
      cases h
  · rintro ⟨n, hn, hsize, rfl⟩
    rw [repeatBody_of_counts hn, if_pos hsize]

theorem repeatBody_eq_error_iff {arguments : List Json} {body message : String} :
    repeatBody arguments body = .error message ↔
      (message = "repeat expects a non-negative count" ∧ ¬ ∃ n, Counts arguments n)
        ∨ (message = "repeat count too large"
          ∧ ∃ n, Counts arguments n ∧ 2 ^ 20 < n * body.utf8ByteSize) := by
  constructor
  · intro h
    by_cases hcounts : ∃ n, Counts arguments n
    · obtain ⟨n, hn⟩ := hcounts
      rw [repeatBody_of_counts hn] at h
      split_ifs at h with hsize
      exact .inr ⟨(Except.error.inj h).symm, n, hn, Nat.lt_of_not_le hsize⟩
    · rw [repeatBody_of_not_counts hcounts] at h
      exact .inl ⟨(Except.error.inj h).symm, hcounts⟩
  · rintro (⟨rfl, hcounts⟩ | ⟨rfl, n, hn, hsize⟩)
    · exact repeatBody_of_not_counts hcounts body
    · rw [repeatBody_of_counts hn, if_neg (Nat.not_le_of_lt hsize)]

theorem size_le_of_repeatBody {arguments : List Json} {body text : String}
    (h : repeatBody arguments body = .ok text) : text.utf8ByteSize ≤ repeatLimit := by
  obtain ⟨n, -, hsize, rfl⟩ := repeatBody_eq_ok_iff.1 h
  rw [utf8ByteSize_join_replicate]
  exact hsize

end Builtin

namespace Language

variable {setting : Setting} {state state' : State} {output output' : String}

/-! ## Blocks of tags -/

theorem eq_ok_of_unplaced {α : Type} {result : Except Reason α} {value : α}
    (h : unplaced result = .ok value) : result = .ok value := by
  cases result with
  | ok value =>
      cases h
      rfl
  | error e => cases h

theorem evaluateName_of_evaluateCall {call : Call} {name : String} {arguments : Arguments}
    (h : evaluateCall setting state call = .ok (name, arguments)) :
    evaluateName setting state call.target = .ok name := by
  rw [evaluateCall] at h
  obtain ⟨called, hcalled, h⟩ := exists_of_bind_eq_ok h
  obtain ⟨positional, -, h⟩ := exists_of_bind_eq_ok h
  obtain ⟨named, -, h⟩ := exists_of_bind_eq_ok h
  cases h
  exact hcalled

theorem exists_of_renderHelper_tag {fuel : Nat} {name : String} {apply : TemplateTag}
    {arguments : Arguments} {bindings : List String} {body : Template}
    {inverse : Option Template}
    (h : renderHelper setting fuel (.tag name apply) arguments bindings (some body) inverse state
      output = .ok (state', output')) :
    ∃ depth bodyText text, renderTemplate setting depth none body state "" = .ok (state', bodyText)
      ∧ apply arguments.values bodyText = .ok text ∧ output' = output ++ text := by
  cases fuel with
  | zero => rw [renderHelper] at h; cases h
  | succ fuel =>
      rw [renderHelper] at h
      obtain ⟨⟨inner, bodyText⟩, hbody, h⟩ := exists_of_bind_eq_ok h
      obtain ⟨text, htext, h⟩ := exists_of_bind_eq_ok h
      cases h
      cases fuel with
      | zero => rw [renderOptional] at hbody; cases hbody
      | succ fuel =>
          rw [renderOptional] at hbody
          exact ⟨fuel, bodyText, text, hbody, eq_ok_of_mapError (eq_ok_of_unplaced htext), rfl⟩

/-- A block of a tag appends what the tag makes of the text of its body, which is rendered apart. -/
theorem exists_of_block_tag {fuel : Nat} {name tag : String} {apply : TemplateTag} {call : Call}
    {bindings : List String} {body : Template} {inverse : Option Template}
    (hname : evaluateName setting state call.target = .ok name)
    (htag : setting.vocabulary.helper? name = some (.tag tag apply))
    (h : renderElement setting fuel (.block call bindings body inverse) state output
      = .ok (state', output')) :
    ∃ depth arguments bodyText text,
      renderTemplate setting depth none body state "" = .ok (state', bodyText)
        ∧ apply arguments bodyText = .ok text ∧ output' = output ++ text := by
  cases fuel with
  | zero => rw [renderElement] at h; cases h
  | succ fuel =>
      rw [renderElement] at h
      cases fuel with
      | zero => rw [renderCall] at h; cases h
      | succ fuel =>
          rw [renderCall] at h
          obtain ⟨⟨called, arguments⟩, hcall, h⟩ := exists_of_bind_eq_ok h
          have hcalled := evaluateName_of_evaluateCall (eq_ok_of_unplaced hcall)
          rw [hname, Except.ok.injEq] at hcalled
          have hhelper : setting.helper? called missingBlockHelper = some (.tag tag apply) := by
            rw [← hcalled, Setting.helper?, htag, Option.some_or]
          dsimp only at h
          rw [hhelper] at h
          obtain ⟨depth, bodyText, text, hbody, htext, heq⟩ := exists_of_renderHelper_tag h
          exact ⟨depth, arguments.values, bodyText, text, hbody, htext, heq⟩

/-! ## The allowance of a template -/

mutual

/-- The most bytes that an element can append, as far as that can be read off the outermost blocks:
a repetition has the limit, and a block of `trim` what its body has. A comment and a decoration
append nothing, a text itself; for all other elements there is no bound. -/
def Element.allowance : Element → ℕ∞
  | .text content => content.utf8ByteSize
  | .comment => 0
  | .decoration _ _ => 0
  | .block call _ body _ =>
    if call.target.asName? = some "repeat" then Builtin.repeatLimit
    else if call.target.asName? = some "trim" then allowance body
    else ⊤
  | .expression _ _ => ⊤
  | .insertion _ _ _ => ⊤

/-- What the elements of a template can append together. -/
def allowance : Template → ℕ∞
  | [] => 0
  | (_, element) :: rest => element.allowance + allowance rest

end

/-- The names of the two built-in tags stand for them. -/
structure Vocabulary.HasTags (vocabulary : Vocabulary) : Prop where
  repeats : vocabulary.helper? "repeat" = some (.tag "repeat" Builtin.repeatBody)
  trims : vocabulary.helper? "trim" = some (.tag "trim" Builtin.trim)

theorem State.Alike.refl (state : State) : state.Alike state where
  scopes := rfl
  partials := List.forall₂_same.2 fun _ _ => ⟨rfl, unescapes_refl _⟩
  bodies := List.forall₂_same.2 fun _ _ => unescapes_refl _
  bodyDepth := rfl
  indent := rfl
  current := rfl

theorem indent_of_renderElement (hescape : setting.escape = id) {fuel : Nat} {element : Element}
    (h : renderElement setting fuel element state output = .ok (state', output')) :
    state'.indent = state.indent := by
  have similar : setting.Alike setting :=
    ⟨rfl, unescapes_refl _, rfl, rfl, hescape, hescape⟩
  have hsame := (rendersAlike similar fuel).element output output (.refl element) (.refl state)
  rw [h] at hsame
  cases hsame with
  | ok hgrown => exact hgrown.indent_eq

theorem exists_of_renderTemplate_cons {fuel : Nat} {name : Option String}
    {position : Option Position} {element : Element} {rest : Template}
    (h : renderTemplate setting fuel name ((position, element) :: rest) state output
      = .ok (state', output')) :
    ∃ depth after between,
      renderElement setting depth element { state with current := name } output
          = .ok (after, between)
        ∧ renderTemplate setting fuel after.current rest after between = .ok (state', output') := by
  cases fuel with
  | zero => rw [renderTemplate] at h; cases h
  | succ fuel =>
      rw [renderTemplate, List.foldlM_cons] at h
      obtain ⟨⟨after, between⟩, hfirst, hrest⟩ := exists_of_bind_eq_ok h
      refine ⟨fuel, after, between, eq_ok_of_mapError hfirst, ?_⟩
      rwa [renderTemplate]

theorem evaluateName_of_asName? (setting : Setting) (state : State) {parameter : Parameter}
    {name : String} (h : parameter.asName? = some name) :
    evaluateName setting state parameter = .ok name := by
  cases parameter with
  | name text => rw [evaluateName, Option.some.inj h]
  | path path => rw [evaluateName, Option.some.inj h]
  | _ => cases h

mutual

theorem Element.size_le_allowance (hescape : setting.escape = id)
    (htags : setting.vocabulary.HasTags) :
    ∀ (element : Element) {fuel : Nat} {state state' : State} {output output' : String},
      state.indent = none →
      renderElement setting fuel element state output = .ok (state', output') →
      (output'.utf8ByteSize : ℕ∞) ≤ output.utf8ByteSize + element.allowance
  | .text content, fuel, state, state', output, output', hindent, h => by
      cases fuel with
      | zero => rw [renderElement] at h; cases h
      | succ fuel =>
          rw [renderElement, State.write, hindent] at h
          cases h
          rw [Element.allowance, String.utf8ByteSize_append, Nat.cast_add]
  | .comment, fuel, state, state', output, output', _, h => by
      cases fuel with
      | zero => rw [renderElement] at h; cases h
      | succ fuel =>
          rw [renderElement] at h
          cases h
          exact le_self_add
  | .decoration call body, fuel, state, state', output, output', _, h => by
      cases fuel with
      | zero => rw [renderElement] at h; cases h
      | succ fuel =>
          rw [renderElement] at h
          obtain ⟨decorated, -, h⟩ := exists_of_bind_eq_ok h
          cases h
          exact le_self_add
  | .block call bindings body inverse, fuel, state, state', output, output', hindent, h => by
      rw [Element.allowance]
      split_ifs with hrepeat htrim
      · have hname := evaluateName_of_asName? setting state hrepeat
        obtain ⟨_, _, bodyText, text, -, htext, rfl⟩ := exists_of_block_tag hname htags.repeats h
        rw [String.utf8ByteSize_append, Nat.cast_add]
        exact add_le_add_right (Nat.cast_le.2 (Builtin.size_le_of_repeatBody htext)) _
      · have hname := evaluateName_of_asName? setting state htrim
        obtain ⟨_, _, bodyText, text, hbody, htext, rfl⟩ := exists_of_block_tag hname htags.trims h
        cases htext
        have hsize := size_le_allowance hescape htags body hindent hbody
        rw [String.utf8ByteSize_empty, Nat.cast_zero, zero_add] at hsize
        rw [String.utf8ByteSize_append, Nat.cast_add]
        exact add_le_add_right
          ((Nat.cast_le.2 (Builtin.utf8ByteSize_trim_le bodyText)).trans hsize) _
      · rw [add_top]
        exact le_top
  | .expression _ _, _, _, _, _, _, _, _ => by
      rw [Element.allowance, add_top]
      exact le_top
  | .insertion _ _ _, _, _, _, _, _, _, _ => by
      rw [Element.allowance, add_top]
      exact le_top

theorem size_le_allowance (hescape : setting.escape = id) (htags : setting.vocabulary.HasTags) :
    ∀ (template : Template) {fuel : Nat} {name : Option String} {state state' : State}
      {output output' : String}, state.indent = none →
      renderTemplate setting fuel name template state output = .ok (state', output') →
      (output'.utf8ByteSize : ℕ∞) ≤ output.utf8ByteSize + allowance template
  | [], fuel, name, state, state', output, output', _, h => by
      cases fuel with
      | zero => rw [renderTemplate] at h; cases h
      | succ fuel =>
          rw [renderTemplate] at h
          cases h
          exact le_self_add
  | (position, element) :: rest, fuel, name, state, state', output, output', hindent, h => by
      obtain ⟨depth, after, between, hfirst, hrest⟩ := exists_of_renderTemplate_cons h
      have hbegin : State.indent { state with current := name } = none := hindent
      have hafter := (indent_of_renderElement hescape hfirst).trans hbegin
      calc (output'.utf8ByteSize : ℕ∞)
          ≤ between.utf8ByteSize + allowance rest :=
            size_le_allowance hescape htags rest hafter hrest
        _ ≤ output.utf8ByteSize + element.allowance + allowance rest :=
            add_le_add_left (element.size_le_allowance hescape htags hbegin hfirst) _
        _ = output.utf8ByteSize + allowance ((position, element) :: rest) := by
            rw [allowance, add_assoc]

end

end Language

namespace Program

open LiveTemplates.Builtin LiveTemplates.Language

theorem size_le_of_render {program : Program} (htags : program.vocabulary.HasTags) {data : Json}
    {text : String} (h : program.render data = .ok text) :
    (text.utf8ByteSize : ℕ∞) ≤ allowance program.template := by
  rw [render, run] at h
  split at h
  · cases h
  · have hrender := eq_ok_of_mapError (eq_ok_of_mapError h)
    rw [Setting.render] at hrender
    generalize houtcome : renderTemplate (program.setting data) nestingLimit _ _ _ _ = outcome
      at hrender
    cases outcome with
    | error fault => cases hrender
    | ok result =>
        cases hrender
        have hsize := size_le_allowance rfl htags program.template rfl houtcome
        rwa [String.utf8ByteSize_empty, Nat.cast_zero, zero_add] at hsize

/-- A repetition gives `n` copies of its body exactly if its first argument is the whole number `n`
of 64 bits and the copies have at most `2 ^ 20` bytes together. Else it fails, for want of a count
or for the size. In a template, a block of it appends such copies of the text of its body, whatever
stands in the body and whatever the data are, and so at most `2 ^ 20` bytes. What a program gives
has no more bytes than its template is allowed, where such a block counts as `2 ^ 20` and not by
what it holds. -/
theorem repeat_exact_and_bounded :
    (∀ arguments body text, repeatBody arguments body = .ok text ↔
      ∃ n, Counts arguments n ∧ n * body.utf8ByteSize ≤ 2 ^ 20
        ∧ text = String.join (List.replicate n body)
        ∧ text.utf8ByteSize = n * body.utf8ByteSize)
    ∧ (∀ arguments body message, repeatBody arguments body = .error message ↔
      (message = "repeat expects a non-negative count" ∧ ¬ ∃ n, Counts arguments n)
        ∨ (message = "repeat count too large"
          ∧ ∃ n, Counts arguments n ∧ 2 ^ 20 < n * body.utf8ByteSize))
    ∧ (∀ (setting : Language.Setting) (state state' : Language.State) (output output' : String)
        (fuel : Nat) (name tag : String) (call : Call) (bindings : List String) (body : Template)
        (inverse : Option Template),
      evaluateName setting state call.target = .ok name →
      setting.vocabulary.helper? name = some (.tag tag repeatBody) →
      renderElement setting fuel (.block call bindings body inverse) state output
        = .ok (state', output') →
      output'.utf8ByteSize ≤ output.utf8ByteSize + 2 ^ 20
        ∧ ∃ depth n bodyText,
          renderTemplate setting depth none body state "" = .ok (state', bodyText)
            ∧ output' = output ++ String.join (List.replicate n bodyText))
    ∧ (∀ (program : Program) (data : Json) (text : String), program.vocabulary.HasTags →
      program.render data = .ok text → (text.utf8ByteSize : ℕ∞) ≤ allowance program.template) := by
  refine ⟨fun arguments body text => ?_, fun arguments body message => ?_, ?_,
    fun program data text htags => size_le_of_render htags⟩
  · rw [repeatBody_eq_ok_iff]
    refine exists_congr fun n => and_congr_right fun _ => and_congr_right fun _ => ?_
    refine ⟨fun htext => ⟨htext, ?_⟩, And.left⟩
    rw [htext, utf8ByteSize_join_replicate]
  · exact repeatBody_eq_error_iff
  · intro setting state state' output output' fuel name tag call bindings body inverse hname htag h
    obtain ⟨depth, arguments, bodyText, text, hbody, htext, rfl⟩ := exists_of_block_tag hname htag h
    obtain ⟨n, -, -, heq⟩ := repeatBody_eq_ok_iff.1 htext
    refine ⟨?_, depth, n, bodyText, hbody, by rw [heq]⟩
    rw [String.utf8ByteSize_append]
    exact Nat.add_le_add_left (size_le_of_repeatBody htext) _

/-- A repetition of a trimmed repetition. -/
def nestedProgram : Program where
  name := "page"
  template :=
    [(some ⟨1, 1⟩, .block ⟨.name "repeat", [.path (.steps [.key "n"] "n")], []⟩ []
      [(some ⟨1, 13⟩, .block ⟨.name "trim", [], []⟩ []
        [(some ⟨1, 22⟩, .text " "),
          (some ⟨1, 23⟩, .block ⟨.name "repeat", [.literal (.ofNat 2)], []⟩ []
            [(some ⟨1, 35⟩, .text "ab")] none)] none)] none),
      (some ⟨1, 66⟩, .text "!")]
  vocabulary := (SymbolTable.scan providers [] {}).vocabulary
  globals := []

/-- The largest count goes with an empty body, and of two repetitions only the outer one is counted
in the allowance. -/
theorem repeat_exact_and_bounded_nested :
    repeatBody [.number (.whole (2 ^ 64 - 1 : Nat))] "" = .ok ""
      ∧ nestedProgram.vocabulary.HasTags
      ∧ nestedProgram.render (.object [("n", .ofNat 3)]) = .ok "abababababab!"
      ∧ (("abababababab!".utf8ByteSize : Nat) : ℕ∞) ≤ 2 ^ 20 + (1 + 0) := by
  have hcounts : Counts [.number (.whole (2 ^ 64 - 1 : Nat))] (2 ^ 64 - 1) := ⟨rfl, by decide⟩
  have htags : nestedProgram.vocabulary.HasTags := ⟨rfl, rfl⟩
  have htext : nestedProgram.render (.object [("n", .ofNat 3)]) = .ok "abababababab!" := rfl
  have hnothing : "" = String.join (List.replicate (2 ^ 64 - 1) "") :=
    (join_replicate_of_size_eq_zero (Nat.mul_zero _)).symm
  obtain ⟨hexact, -, -, hbounded⟩ := repeat_exact_and_bounded
  refine ⟨(hexact _ _ _).2 ⟨_, hcounts, by decide, hnothing, by decide⟩, htags, htext, ?_⟩
  exact hbounded nestedProgram _ _ htags htext

end Program

end LiveTemplates
