import LiveTemplates.Program
import LiveTemplates.Symbols.Builtin
import Mathlib.Data.List.Forall2

set_option autoImplicit false

/-! # Escaped and unescaped expressions

A program does not escape, so it does not matter which expressions of a template are written
unescaped (`escaping_changes_nothing`). A template and one that is the same but for such marks are
rendered in parallel (`rendersAlike`): each function of the renderer appends the same text to both
outputs, or fails for the same reason on both sides. The states may differ in the mark that escaping
is off, and in the templates that they hold. What is appended does not depend on what is there
already, so the two outputs need not be the same before; and the indentation afterwards is that
before. -/

namespace LiveTemplates

namespace Language

/-! ## Templates that differ in marks -/

/-- The second element is the first one with some escaped expressions, at any depth, written
unescaped. Elements may have other places in the source. -/
inductive Element.Unescapes : Element → Element → Prop
  | text (content : String) : Unescapes (.text content) (.text content)
  | comment : Unescapes .comment .comment
  | expression (escaped : Bool) (call : Call) :
      Unescapes (.expression escaped call) (.expression escaped call)
  | unescape (call : Call) : Unescapes (.expression true call) (.expression false call)
  | block (call : Call) (bindings : List String) {body body' : Template}
      {inverse inverse' : Option Template}
      (bodies : List.Forall₂ (fun entry entry' => Unescapes entry.2 entry'.2) body body')
      (inverses : Option.Rel (List.Forall₂ fun entry entry' => Unescapes entry.2 entry'.2)
        inverse inverse') :
      Unescapes (.block call bindings body inverse) (.block call bindings body' inverse')
  | decoration (call : Call) {body body' : Option Template}
      (bodies : Option.Rel (List.Forall₂ fun entry entry' => Unescapes entry.2 entry'.2)
        body body') :
      Unescapes (.decoration call body) (.decoration call body')
  | insertion (call : Call) (indent : Option String) {body body' : Option Template}
      (bodies : Option.Rel (List.Forall₂ fun entry entry' => Unescapes entry.2 entry'.2)
        body body') :
      Unescapes (.insertion call indent body) (.insertion call indent body')

end Language

/-- The same of templates, element by element. -/
abbrev Template.Unescapes (template template' : Template) : Prop :=
  List.Forall₂ (fun entry entry' => entry.2.Unescapes entry'.2) template template'

namespace Language

mutual

theorem Element.Unescapes.refl : ∀ element : Element, element.Unescapes element
  | .text content => .text content
  | .comment => .comment
  | .expression escaped call => .expression escaped call
  | .block call bindings body none => .block call bindings (unescapes_refl body) .none
  | .block call bindings body (some inverse) =>
    .block call bindings (unescapes_refl body) (.some (unescapes_refl inverse))
  | .decoration call none => .decoration call .none
  | .decoration call (some body) => .decoration call (.some (unescapes_refl body))
  | .insertion call indent none => .insertion call indent .none
  | .insertion call indent (some body) => .insertion call indent (.some (unescapes_refl body))

theorem unescapes_refl : ∀ template : Template, Template.Unescapes template template
  | [] => .nil
  | (_, element) :: rest => .cons (Element.Unescapes.refl element) (unescapes_refl rest)

end

/-! ## Computations that end alike -/

section Matched

variable {ε α β γ δ : Type} {faults : ε → ε → Prop} {values : α → β → Prop}
  {results : γ → δ → Prop}

/-- Two computations end well with related values, or badly with related faults. -/
inductive Matched (faults : ε → ε → Prop) (values : α → β → Prop) :
    Except ε α → Except ε β → Prop
  | ok {a : α} {b : β} (related : values a b) : Matched faults values (.ok a) (.ok b)
  | error {e e' : ε} (related : faults e e') : Matched faults values (.error e) (.error e')

theorem Matched.bind {first : Except ε α} {first' : Except ε β} {next : α → Except ε γ}
    {next' : β → Except ε δ} (h : Matched faults values first first')
    (hnext : ∀ a b, values a b → Matched faults results (next a) (next' b)) :
    Matched faults results (first >>= next) (first' >>= next') := by
  cases h with
  | ok hvalues => exact hnext _ _ hvalues
  | error hfaults => exact .error hfaults

theorem Matched.mono {first : Except ε α} {first' : Except ε β} {other : α → β → Prop}
    (h : Matched faults values first first') (himp : ∀ a b, values a b → other a b) :
    Matched faults other first first' := by
  cases h with
  | ok hvalues => exact .ok (himp _ _ hvalues)
  | error hfaults => exact .error hfaults

theorem Matched.of_eq {first first' : Except ε α} (h : first' = first) :
    Matched Eq Eq first first' := by
  subst h
  cases first' with
  | ok value => exact .ok rfl
  | error e => exact .error rfl

/-- Two faults have the same reason, wherever they are. -/
def RenderFault.SameReason (fault fault' : RenderFault) : Prop :=
  fault'.reason = fault.reason

theorem Matched.unplaced {first : Except Reason α} {first' : Except Reason β}
    (h : Matched Eq values first first') :
    Matched RenderFault.SameReason values (Language.unplaced first)
      (Language.unplaced first') := by
  cases h with
  | ok hvalues => exact .ok hvalues
  | error hreason => exact .error hreason.symm

end Matched

/-! ## States and settings that are alike -/

/-- Two states are the same but for the mark that escaping is off and for marks in the templates
that they hold. -/
structure State.Alike (state state' : State) : Prop where
  scopes : state'.scopes = state.scopes
  partials : List.Forall₂
    (fun entry entry' => entry.1 = entry'.1 ∧ Template.Unescapes entry.2 entry'.2)
    state.partials state'.partials
  bodies : List.Forall₂ Template.Unescapes state.bodies state'.bodies
  bodyDepth : state'.bodyDepth = state.bodyDepth
  indent : state'.indent = state.indent
  current : state'.current = state.current

/-- Two settings without escaping are the same but for marks in the template. -/
structure Setting.Alike (setting setting' : Setting) : Prop where
  name : setting'.name = setting.name
  template : Template.Unescapes setting.template setting'.template
  vocabulary : setting'.vocabulary = setting.vocabulary
  data : setting'.data = setting.data
  escape : setting.escape = id
  escape' : setting'.escape = id

theorem State.indent_marked (state : State) (keep mark : Bool) :
    (if keep then state else { state with unescaped := mark }).indent = state.indent := by
  split <;> rfl

namespace State.Alike

variable {state state' : State}

theorem start : State.Alike {} {} :=
  ⟨rfl, .nil, .nil, rfl, rfl, rfl⟩

/-- The mark that escaping is off may be set on either side or on both. -/
theorem marked (h : state.Alike state') (keep keep' mark : Bool) :
    State.Alike (if keep then state else { state with unescaped := mark })
      (if keep' then state' else { state' with unescaped := mark }) := by
  have hmarked : ∀ own own', State.Alike { state with unescaped := own }
      { state' with unescaped := own' } := fun _ _ =>
    ⟨h.scopes, h.partials, h.bodies, h.bodyDepth, h.indent, h.current⟩
  cases keep <;> cases keep' <;> exact hmarked _ _

theorem entered (h : state.Alike state') (scope : Scope) :
    State.Alike { state with scopes := scope :: state.scopes }
      { state' with scopes := scope :: state'.scopes } :=
  ⟨congrArg (scope :: ·) h.scopes, h.partials, h.bodies, h.bodyDepth, h.indent, h.current⟩

theorem left (h : state.Alike state') :
    State.Alike { state with scopes := state.scopes.tail }
      { state' with scopes := state'.scopes.tail } :=
  ⟨congrArg List.tail h.scopes, h.partials, h.bodies, h.bodyDepth, h.indent, h.current⟩

end State.Alike

variable {setting setting' : Setting} {state state' : State}

theorem Setting.Alike.helper? (similar : setting.Alike setting') (name standIn : String) :
    setting'.helper? name standIn = setting.helper? name standIn := by
  rw [Setting.helper?, Setting.helper?, similar.vocabulary]

theorem Setting.Alike.shown (similar : setting.Alike setting') (state state' : State)
    (value : Json) : state'.shown setting' value = state.shown setting value := by
  simp [State.shown, similar.escape, similar.escape']

/-! ## Arguments -/

mutual

theorem evaluate_alike (similar : setting.Alike setting') (hscopes : state'.scopes = state.scopes) :
    ∀ parameter, evaluate setting' state' parameter = evaluate setting state parameter
  | .name text => by rw [evaluate, evaluate]
  | .path path => by rw [evaluate, evaluate, similar.data, hscopes]
  | .literal value => by rw [evaluate, evaluate]
  | .call target arguments options => by
    rw [evaluate, evaluate, evaluateName_alike similar hscopes target,
      evaluateAll_alike similar hscopes arguments, evaluateNamed_alike similar hscopes options]
    simp only [similar.helper?]

theorem evaluateName_alike (similar : setting.Alike setting')
    (hscopes : state'.scopes = state.scopes) :
    ∀ parameter, evaluateName setting' state' parameter = evaluateName setting state parameter
  | .name text => by rw [evaluateName, evaluateName]
  | .path path => by rw [evaluateName, evaluateName]
  | .literal value => by rw [evaluateName, evaluateName]
  | .call target arguments options => by
    rw [evaluateName, evaluateName, evaluateName_alike similar hscopes target,
      evaluateAll_alike similar hscopes arguments, evaluateNamed_alike similar hscopes options]
    simp only [similar.helper?]

theorem evaluateAll_alike (similar : setting.Alike setting')
    (hscopes : state'.scopes = state.scopes) :
    ∀ parameters, evaluateAll setting' state' parameters = evaluateAll setting state parameters
  | [] => by rw [evaluateAll, evaluateAll]
  | parameter :: rest => by
    rw [evaluateAll, evaluateAll, evaluate_alike similar hscopes parameter,
      evaluateAll_alike similar hscopes rest]

theorem evaluateNamed_alike (similar : setting.Alike setting')
    (hscopes : state'.scopes = state.scopes) :
    ∀ options, evaluateNamed setting' state' options = evaluateNamed setting state options
  | [] => by rw [evaluateNamed, evaluateNamed]
  | (key, parameter) :: rest => by
    rw [evaluateNamed, evaluateNamed, evaluate_alike similar hscopes parameter,
      evaluateNamed_alike similar hscopes rest]

end

theorem evaluateCall_alike (similar : setting.Alike setting')
    (hscopes : state'.scopes = state.scopes) (call : Call) :
    evaluateCall setting' state' call = evaluateCall setting state call := by
  rw [evaluateCall, evaluateCall, evaluateName_alike similar hscopes,
    evaluateAll_alike similar hscopes, evaluateNamed_alike similar hscopes]

/-! ## Partials and decorators -/

section Partials

variable {partials partials' : List (String × Template)} {template template' : Template}
  {body body' inverse inverse' : Option Template}

theorem find?_partials (name : String)
    (h : List.Forall₂
      (fun entry entry' => entry.1 = entry'.1 ∧ Template.Unescapes entry.2 entry'.2)
      partials partials') :
    Option.Rel Template.Unescapes (Dictionary.find? name partials)
      (Dictionary.find? name partials') := by
  induction h with
  | nil => exact .none
  | @cons entry entry' rest rest' hentry _ ih =>
      obtain ⟨key, template⟩ := entry
      obtain ⟨key', template'⟩ := entry'
      obtain ⟨rfl, htemplate⟩ := hentry
      dsimp only [Dictionary.find?]
      split
      · exact .some htemplate
      · exact ih

theorem insert_partials (name : String) (htemplate : Template.Unescapes template template')
    (h : List.Forall₂
      (fun entry entry' => entry.1 = entry'.1 ∧ Template.Unescapes entry.2 entry'.2)
      partials partials') :
    List.Forall₂
      (fun entry entry' => entry.1 = entry'.1 ∧ Template.Unescapes entry.2 entry'.2)
      (Dictionary.insert name template partials) (Dictionary.insert name template' partials') := by
  induction h with
  | nil => exact .cons ⟨rfl, htemplate⟩ .nil
  | @cons entry entry' rest rest' hentry hrest ih =>
      obtain ⟨key, value⟩ := entry
      obtain ⟨key', value'⟩ := entry'
      obtain ⟨rfl, hvalue⟩ := hentry
      dsimp only [Dictionary.insert]
      split
      · exact .cons ⟨rfl, htemplate⟩ hrest
      · split
        · exact .cons ⟨rfl, htemplate⟩ (.cons ⟨rfl, hvalue⟩ hrest)
        · exact .cons ⟨rfl, hvalue⟩ ih

theorem getElem?_bodies {bodies bodies' : List Template}
    (h : List.Forall₂ Template.Unescapes bodies bodies') (index : Nat) :
    Option.Rel Template.Unescapes bodies[index]? bodies'[index]? := by
  induction h generalizing index with
  | nil => exact .none
  | cons hbody _ ih =>
      cases index with
      | zero => exact .some hbody
      | succ index => exact ih index

theorem rel_ite {condition : Prop} [Decidable condition]
    (hbody : Option.Rel Template.Unescapes body body')
    (hinverse : Option.Rel Template.Unescapes inverse inverse') :
    Option.Rel Template.Unescapes (if condition then body else inverse)
      (if condition then body' else inverse') := by
  split
  · exact hbody
  · exact hinverse

theorem State.Alike.partial? (similar : setting.Alike setting') (h : state.Alike state')
    (name : String) (hbody : Option.Rel Template.Unescapes body body') :
    Option.Rel (fun found found' => found'.1 = found.1 ∧ Template.Unescapes found.2 found'.2)
      (state.partial? setting name body) (state'.partial? setting' name body') := by
  have hdefined : Option.Rel Template.Unescapes
      (if name = bodyName then state.bodies[state.bodyDepth]?
        else Dictionary.find? name state.partials)
      (if name = bodyName then state'.bodies[state'.bodyDepth]?
        else Dictionary.find? name state'.partials) := by
    split
    · exact h.bodyDepth ▸ getElem?_bodies h.bodies _
    · exact find?_partials name h.partials
  unfold State.partial?
  dsimp only
  generalize (if name = bodyName then state.bodies[state.bodyDepth]?
    else Dictionary.find? name state.partials) = defined at hdefined ⊢
  generalize (if name = bodyName then state'.bodies[state'.bodyDepth]?
    else Dictionary.find? name state'.partials) = defined' at hdefined ⊢
  cases hdefined with
  | some htemplate => exact .some ⟨rfl, htemplate⟩
  | none =>
      dsimp only
      rw [similar.name]
      split
      · exact .some ⟨rfl, similar.template⟩
      · cases hbody with
        | some hbody => exact .some ⟨rfl, hbody⟩
        | none => exact .none

theorem decorate_alike (similar : setting.Alike setting') (h : state.Alike state') (call : Call)
    (hbody : Option.Rel Template.Unescapes body body') :
    Matched Eq (fun after after' => after.indent = state.indent ∧ after.Alike after')
      (decorate setting state call body) (decorate setting' state' call body') := by
  unfold decorate
  refine (Matched.of_eq (evaluateCall_alike similar h.scopes call)).bind ?_
  rintro ⟨name, arguments⟩ _ rfl
  dsimp only
  split
  · exact .error rfl
  · refine (Matched.of_eq rfl).bind fun operand _ heq => ?_
    subst heq
    cases hbody with
    | none => cases operand.value <;> exact .error rfl
    | some hbody =>
        cases operand.value with
        | string key =>
            exact .ok ⟨rfl, h.scopes, insert_partials key hbody h.partials, h.bodies, h.bodyDepth,
              h.indent, h.current⟩
        | _ => exact .error rfl

theorem decorateAll_alike (similar : setting.Alike setting')
    (htemplate : Template.Unescapes template template') {state state' : State}
    (h : state.Alike state') :
    Matched RenderFault.SameReason
      (fun after after' => after.indent = state.indent ∧ after.Alike after')
      (decorateAll setting state template) (decorateAll setting' state' template') := by
  induction htemplate generalizing state state' with
  | nil => exact .ok ⟨rfl, h⟩
  | @cons entry entry' rest rest' hentry hrest ih =>
      obtain ⟨position, element⟩ := entry
      obtain ⟨position', element'⟩ := entry'
      dsimp only at hentry
      cases hentry with
      | decoration call hbodies =>
          have hdecorate := decorate_alike similar h call hbodies
          dsimp only [decorateAll]
          generalize decorate setting state call _ = outcome at hdecorate ⊢
          generalize decorate setting' state' call _ = outcome' at hdecorate ⊢
          cases hdecorate with
          | ok hafter => exact (ih hafter.2).mono fun _ _ hlater => hafter.1 ▸ hlater
          | error hreason => exact .error hreason.symm
      | _ => exact ih h

/-- The scopes that a partial begins with: those that are there, or the place that it is given; if
it is given options, a value with them. -/
def partialScopes (data : Json) (scopes : List Scope) (arguments : Arguments) :
    Except Reason (List Scope) :=
  let scopes :=
    match arguments.positional.head?.bind Operand.place with
    | some place => [{ basePath := place }]
    | none => scopes
  if arguments.named.isEmpty then .ok scopes
  else (resolve data scopes []).map fun here =>
    let fields :=
      match here.value with
      | .object fields => fields
      | _ => []
    let merged := Dictionary.merge (arguments.named.map fun (k, o) => (k, o.value)) fields
    [{ scopes.headD {} with baseValue := some (.object merged) }]

theorem forPartial_eq (setting : Setting) (state : State) (name : String) (arguments : Arguments)
    (indent : Option String) (body : Option Template) :
    state.forPartial setting name arguments indent body
      = (partialScopes setting.data state.scopes arguments).map fun scopes =>
        { state with
          scopes, indent
          bodyDepth := if name = bodyName then state.bodyDepth + 1 else state.bodyDepth - 1
          bodies := body.toList ++ state.bodies } := by
  unfold State.forPartial partialScopes
  cases arguments.positional.head?.bind Operand.place with
  | none =>
      dsimp only
      split
      · rfl
      · cases resolve setting.data state.scopes [] <;> rfl
  | some place =>
      dsimp only
      split
      · rfl
      · cases resolve setting.data [{ basePath := place }] [] <;> rfl

theorem forPartial_alike (similar : setting.Alike setting') (h : state.Alike state')
    (name : String) (arguments : Arguments) (indent : Option String)
    (hbody : Option.Rel Template.Unescapes body body') :
    Matched Eq State.Alike (state.forPartial setting name arguments indent body)
      (state'.forPartial setting' name arguments indent body') := by
  have hbodies : List.Forall₂ Template.Unescapes (body.toList ++ state.bodies)
      (body'.toList ++ state'.bodies) := by
    cases hbody with
    | none => exact h.bodies
    | some hbody => exact .cons hbody h.bodies
  rw [forPartial_eq, forPartial_eq, similar.data, h.scopes, h.bodyDepth]
  cases partialScopes setting.data state.scopes arguments with
  | ok scopes => exact .ok ⟨rfl, h.partials, hbodies, rfl, rfl, h.current⟩
  | error reason => exact .error rfl

end Partials

/-! ## Output -/

theorem exists_indented (indent : String) (cs : List Char) :
    ∃ added, ∀ output, indented indent cs output = output ++ added := by
  induction cs with
  | nil => exact ⟨"", fun _ => by rw [indented, String.append_empty]⟩
  | cons c rest ih =>
      obtain ⟨added, hadded⟩ := ih
      by_cases hbreak : c = '\n' ∧ rest ≠ []
      · obtain ⟨rfl, hrest⟩ := hbreak
        obtain ⟨next, more, rfl⟩ := List.exists_cons_of_ne_nil hrest
        refine ⟨"\n" ++ indent ++ added, fun output => ?_⟩
        rw [indented, hadded, ← String.toList_inj]
        simp
      · refine ⟨String.singleton c ++ added, fun output => ?_⟩
        rw [indented, hadded, ← String.toList_inj]
        · simp
        · rintro next more rfl rfl
          exact hbreak ⟨rfl, by simp⟩

/-- What is written does not depend on the output so far. -/
theorem exists_write (state : State) (text : String) :
    ∃ added, ∀ output, state.write text output = output ++ added := by
  unfold State.write
  cases state.indent with
  | none => exact ⟨text, fun _ => rfl⟩
  | some indent => exact exists_indented indent text.toList

/-- The states are alike, the indentation is this one, and the same text has been appended to both
outputs. -/
structure Grown (indent : Option String) (output output' : String)
    (result result' : State × String) : Prop where
  indent_eq : result.1.indent = indent
  alike : result.1.Alike result'.1
  appended : ∃ text, result.2 = output ++ text ∧ result'.2 = output' ++ text

/-- Both renderings append the same text and keep the indentation, or fail for the same reason. -/
abbrev Outcome.Alike (indent : Option String) (output output' : String) :
    Outcome → Outcome → Prop :=
  Matched RenderFault.SameReason (Grown indent output output')

variable {indent : Option String} {output output' : String}

theorem Grown.after {text : String} {result result' : State × String}
    (h : Grown indent (output ++ text) (output' ++ text) result result') :
    Grown indent output output' result result' := by
  obtain ⟨hindent, hstate, more, heq, heq'⟩ := h
  exact ⟨hindent, hstate, text ++ more, by rw [heq, String.append_assoc],
    by rw [heq', String.append_assoc]⟩

theorem State.Alike.grown (h : state.Alike state') (output output' text : String) :
    Grown state.indent output output' (state, output ++ text) (state', output' ++ text) :=
  ⟨rfl, h, text, rfl, rfl⟩

theorem State.Alike.grown_self (h : state.Alike state') (output output' : String) :
    Grown state.indent output output' (state, output) (state', output') :=
  ⟨rfl, h, "", by rw [String.append_empty], by rw [String.append_empty]⟩

theorem State.Alike.grown_write (h : state.Alike state') (text output output' : String) :
    Grown state.indent output output' (state, state.write text output)
      (state', state'.write text output') := by
  obtain ⟨added, hadded⟩ := exists_write state text
  have hsame : state'.write text output' = state.write text output' := by
    rw [State.write, State.write, h.indent]
  rw [hsame, hadded, hadded]
  exact h.grown output output' added

/-- Of what comes first, only the text counts. -/
theorem bind_text {indent' : Option String} {first first' : Outcome}
    {next next' : State × String → Outcome} (h : Outcome.Alike indent' output output' first first')
    (hnext : ∀ state state' text, State.Alike state state' → state.indent = indent' →
      Outcome.Alike indent (output ++ text) (output' ++ text) (next (state, output ++ text))
        (next' (state', output' ++ text))) :
    Outcome.Alike indent output output' (first >>= next) (first' >>= next') := by
  refine h.bind fun ⟨state, _⟩ ⟨state', _⟩ ⟨hindent, hstate, text, heq, heq'⟩ => ?_
  dsimp only at hindent heq heq'
  subst heq heq'
  exact (hnext state state' text hstate hindent).mono fun _ _ => Grown.after

theorem bind_grown {first first' : Outcome} {next next' : State × String → Outcome}
    (h : Outcome.Alike indent output output' first first')
    (hnext : ∀ state state' text, State.Alike state state' →
      Outcome.Alike state.indent (output ++ text) (output' ++ text) (next (state, output ++ text))
        (next' (state', output' ++ text))) :
    Outcome.Alike indent output output' (first >>= next) (first' >>= next') :=
  bind_text h fun state state' text hstate hindent => hindent ▸ hnext state state' text hstate

theorem bind_same {α : Type} {first : Except RenderFault α} {next next' : α → Outcome}
    (hnext : ∀ value, Outcome.Alike indent output output' (next value) (next' value)) :
    Outcome.Alike indent output output' (first >>= next) (first >>= next') := by
  cases first with
  | ok value => exact hnext value
  | error fault => exact .error rfl

theorem Matched.at {first first' : Outcome} (h : Outcome.Alike indent output output' first first')
    (position position' : Option Position) :
    Outcome.Alike indent output output' (first.mapError (·.at position))
      (first'.mapError (·.at position')) := by
  cases h with
  | ok hgrown => exact .ok hgrown
  | error hreason => exact .error hreason

/-! ## Rendering in parallel -/

/-- With this fuel, every function of the renderer gives the same on both sides. -/
structure RendersAlike (setting setting' : Setting) (fuel : Nat) : Prop where
  template {template template' : Template} {state state' : State} (name : Option String)
    (output output' : String) (htemplate : Template.Unescapes template template')
    (h : state.Alike state') :
    Outcome.Alike state.indent output output'
      (renderTemplate setting fuel name template state output)
      (renderTemplate setting' fuel name template' state' output')
  element {element element' : Element} {state state' : State} (output output' : String)
    (helement : element.Unescapes element') (h : state.Alike state') :
    Outcome.Alike state.indent output output' (renderElement setting fuel element state output)
      (renderElement setting' fuel element' state' output')
  expression {state state' : State} (call : Call) (output output' : String)
    (h : state.Alike state') :
    Outcome.Alike state.indent output output' (renderExpression setting fuel call state output)
      (renderExpression setting' fuel call state' output')
  call {body body' inverse inverse' : Option Template} {state state' : State} (standIn : String)
    (call : Call) (bindings : List String) (output output' : String)
    (hbody : Option.Rel Template.Unescapes body body')
    (hinverse : Option.Rel Template.Unescapes inverse inverse') (h : state.Alike state') :
    Outcome.Alike state.indent output output'
      (renderCall setting fuel standIn call bindings body inverse state output)
      (renderCall setting' fuel standIn call bindings body' inverse' state' output')
  helper {body body' inverse inverse' : Option Template} {state state' : State}
    (helper : Helper) (arguments : Arguments) (bindings : List String) (output output' : String)
    (hbody : Option.Rel Template.Unescapes body body')
    (hinverse : Option.Rel Template.Unescapes inverse inverse') (h : state.Alike state') :
    Outcome.Alike state.indent output output'
      (renderHelper setting fuel helper arguments bindings body inverse state output)
      (renderHelper setting' fuel helper arguments bindings body' inverse' state' output')
  optional {template template' : Option Template} {state state' : State}
    (output output' : String) (htemplate : Option.Rel Template.Unescapes template template')
    (h : state.Alike state') :
    Outcome.Alike state.indent output output' (renderOptional setting fuel template state output)
      (renderOptional setting' fuel template' state' output')

namespace RendersAlike

variable {fuel : Nat} {body body' inverse inverse' : Option Template}

theorem zero (setting setting' : Setting) : RendersAlike setting setting' 0 where
  template _ _ _ _ _ := by
    rw [renderTemplate, renderTemplate]
    exact .error rfl
  element _ _ _ _ := by
    rw [renderElement, renderElement]
    exact .error rfl
  expression _ _ _ _ := by
    rw [renderExpression, renderExpression]
    exact .error rfl
  call _ _ _ _ _ _ _ _ := by
    rw [renderCall, renderCall]
    exact .error rfl
  helper _ _ _ _ _ _ _ _ := by
    rw [renderHelper, renderHelper]
    exact .error rfl
  optional _ _ _ _ := by
    rw [renderOptional, renderOptional]
    exact .error rfl

theorem elements_succ (ih : RendersAlike setting setting' fuel) {template template' : Template}
    {state state' : State} (output output' : String)
    (htemplate : Template.Unescapes template template') (h : state.Alike state') :
    Outcome.Alike state.indent output output'
      (template.foldlM (fun (state, output) (position, element) =>
        (renderElement setting fuel element state output).mapError (·.at position))
        (state, output))
      (template'.foldlM (fun (state, output) (position, element) =>
        (renderElement setting' fuel element state output).mapError (·.at position))
        (state', output')) := by
  induction htemplate generalizing state state' output output' with
  | nil => exact .ok (h.grown_self output output')
  | cons hentry _ ihrest =>
      rw [List.foldlM_cons, List.foldlM_cons]
      exact bind_grown ((ih.element output output' hentry h).at _ _)
        fun _ _ _ hafter => ihrest _ _ hafter

theorem template_succ (ih : RendersAlike setting setting' fuel) {template template' : Template}
    {state state' : State} (name : Option String) (output output' : String)
    (htemplate : Template.Unescapes template template') (h : state.Alike state') :
    Outcome.Alike state.indent output output'
      (renderTemplate setting (fuel + 1) name template state output)
      (renderTemplate setting' (fuel + 1) name template' state' output') := by
  have hstart : State.Alike { state with current := name } { state' with current := name } :=
    ⟨h.scopes, h.partials, h.bodies, h.bodyDepth, h.indent, rfl⟩
  rw [renderTemplate, renderTemplate]
  exact ih.elements_succ output output' htemplate hstart

theorem optional_succ (ih : RendersAlike setting setting' fuel) {state state' : State}
    (output output' : String) (hbody : Option.Rel Template.Unescapes body body')
    (h : state.Alike state') :
    Outcome.Alike state.indent output output' (renderOptional setting (fuel + 1) body state output)
      (renderOptional setting' (fuel + 1) body' state' output') := by
  cases hbody with
  | some htemplate =>
      rw [renderOptional, renderOptional]
      exact ih.template none output output' htemplate h
  | none =>
      rw [renderOptional, renderOptional]
      exact .ok (h.grown_self output output')

theorem call_succ (similar : setting.Alike setting') (ih : RendersAlike setting setting' fuel)
    {state state' : State} (standIn : String) (call : Call) (bindings : List String)
    (output output' : String) (hbody : Option.Rel Template.Unescapes body body')
    (hinverse : Option.Rel Template.Unescapes inverse inverse') (h : state.Alike state') :
    Outcome.Alike state.indent output output'
      (renderCall setting (fuel + 1) standIn call bindings body inverse state output)
      (renderCall setting' (fuel + 1) standIn call bindings body' inverse' state' output') := by
  rw [renderCall, renderCall]
  rw [evaluateCall_alike similar h.scopes]
  refine bind_same fun (name, arguments) => ?_
  dsimp only
  rw [similar.helper?]
  cases setting.helper? name standIn with
  | some helper => exact ih.helper helper arguments bindings output output' hbody hinverse h
  | none => exact .error rfl

theorem expression_succ (similar : setting.Alike setting')
    (ih : RendersAlike setting setting' fuel) {state state' : State} (call : Call)
    (output output' : String) (h : state.Alike state') :
    Outcome.Alike state.indent output output'
      (renderExpression setting (fuel + 1) call state output)
      (renderExpression setting' (fuel + 1) call state' output') := by
  rw [renderExpression, renderExpression, evaluateName_alike similar h.scopes,
    evaluate_alike similar h.scopes, similar.vocabulary]
  split
  -- whether the name of a bare call is that of a helper, it is on both sides
  all_goals
    refine bind_same fun known => ?_
    dsimp only
    split
    · exact ih.call missingHelper call [] output output' .none .none h
    · refine bind_same fun operand => ?_
      cases operand.value? with
      | some value =>
          dsimp only
          rw [similar.shown state]
          exact .ok (h.grown_write _ output output')
      | none =>
          dsimp only
          cases setting.vocabulary.helper? missingHelper with
          | some helper => exact ih.helper helper {} [] output output' .none .none h
          | none => exact .ok (h.grown_self output output')

/-- An expression gives the same however it is marked. -/
theorem marked_succ (ih : RendersAlike setting setting' fuel) {state state' : State}
    (escaped escaped' : Bool) (call : Call) (output output' : String) (h : state.Alike state') :
    Outcome.Alike state.indent output output'
      (renderElement setting (fuel + 1) (.expression escaped call) state output)
      (renderElement setting' (fuel + 1) (.expression escaped' call) state' output') := by
  rw [renderElement, renderElement]
  have hcall := ih.expression call output output' (h.marked escaped escaped' true)
  rw [State.indent_marked] at hcall
  refine bind_grown hcall fun after after' text hafter => .ok ?_
  have hmarked := (hafter.marked escaped escaped' false).grown_self (output ++ text)
    (output' ++ text)
  rwa [State.indent_marked] at hmarked

theorem insertion_succ (similar : setting.Alike setting') (ih : RendersAlike setting setting' fuel)
    {state state' : State} (call : Call) (indent : Option String) (output output' : String)
    (hbody : Option.Rel Template.Unescapes body body') (h : state.Alike state') :
    Outcome.Alike state.indent output output'
      (renderElement setting (fuel + 1) (.insertion call indent body) state output)
      (renderElement setting' (fuel + 1) (.insertion call indent body') state' output') := by
  rw [renderElement, renderElement]
  rw [evaluateCall_alike similar h.scopes]
  refine bind_same fun (name, arguments) => ?_
  have hdecorated : Matched RenderFault.SameReason
      (fun after after' => after.indent = state.indent ∧ after.Alike after')
      (decorateAll setting state (body.getD [])) (decorateAll setting' state' (body'.getD [])) := by
    cases hbody with
    | some hbody => exact decorateAll_alike similar hbody h
    | none => exact .ok ⟨rfl, h⟩
  refine hdecorated.bind fun state state' ⟨hindent, h⟩ => ?_
  rw [← hindent]
  dsimp only
  rw [h.current]
  split
  · exact .error rfl
  · have hpartial := h.partial? similar name hbody
    generalize state.partial? setting name body = found at hpartial ⊢
    generalize state'.partial? setting' name body' = found' at hpartial ⊢
    cases hpartial with
    | none => exact .error rfl
    | @some found found' hfound =>
        obtain ⟨whole, template⟩ := found
        obtain ⟨whole', template'⟩ := found'
        obtain ⟨rfl, htemplate⟩ := hfound
        dsimp only
        refine (forPartial_alike similar h name arguments indent hbody).unplaced.bind
          fun inner inner' hinner => ?_
        -- only the output is kept of what the partial leaves
        refine bind_text (ih.template whole' output output' htemplate hinner) ?_
        intro after after' text _ _
        exact .ok (h.grown_self _ _)

theorem element_succ (similar : setting.Alike setting') (ih : RendersAlike setting setting' fuel)
    {element element' : Element} {state state' : State} (output output' : String)
    (helement : element.Unescapes element') (h : state.Alike state') :
    Outcome.Alike state.indent output output'
      (renderElement setting (fuel + 1) element state output)
      (renderElement setting' (fuel + 1) element' state' output') := by
  cases helement with
  | text content =>
      rw [renderElement, renderElement]
      exact .ok (h.grown_write content output output')
  | comment =>
      rw [renderElement, renderElement]
      exact .ok (h.grown_self output output')
  | expression escaped call => exact ih.marked_succ escaped escaped call output output' h
  | unescape call => exact ih.marked_succ true false call output output' h
  | block call bindings hbody hinverse =>
      rw [renderElement, renderElement]
      exact ih.call missingBlockHelper call bindings output output' (.some hbody) hinverse h
  | decoration call hbody =>
      rw [renderElement, renderElement]
      refine (decorate_alike similar h call hbody).unplaced.bind ?_
      intro after after' ⟨hindent, hafter⟩
      exact .ok (hindent ▸ hafter.grown_self output output')
  | insertion call indent hbody =>
      exact ih.insertion_succ similar call indent output output' hbody h

/-- The items of a collection, one after the other. -/
theorem items_succ (ih : RendersAlike setting setting' fuel) {template template' : Template}
    {state state' : State} (scopes : List Scope) (output output' : String)
    (htemplate : Template.Unescapes template template') (h : state.Alike state') :
    Outcome.Alike state.indent output output'
      (scopes.foldlM (fun (state, output) scope => do
        let (inner, output) ← renderTemplate setting fuel none template
          { state with scopes := scope :: state.scopes } output
        return ({ inner with scopes := inner.scopes.tail }, output)) (state, output))
      (scopes.foldlM (fun (state, output) scope => do
        let (inner, output) ← renderTemplate setting' fuel none template'
          { state with scopes := scope :: state.scopes } output
        return ({ inner with scopes := inner.scopes.tail }, output)) (state', output')) := by
  induction scopes generalizing state state' output output' with
  | nil => exact .ok (h.grown_self output output')
  | cons scope rest ihrest =>
      rw [List.foldlM_cons, List.foldlM_cons]
      have hitem := ih.template none output output' htemplate (h.entered scope)
      refine bind_grown (bind_grown hitem ?_) ?_
      · intro inner inner' text hinner
        exact .ok (hinner.left.grown_self _ _)
      · intro after after' text hafter
        exact ihrest _ _ hafter

theorem helper_succ (similar : setting.Alike setting') (ih : RendersAlike setting setting' fuel)
    {state state' : State} (helper : Helper) (arguments : Arguments) (bindings : List String)
    (output output' : String) (hbody : Option.Rel Template.Unescapes body body')
    (hinverse : Option.Rel Template.Unescapes inverse inverse') (h : state.Alike state') :
    Outcome.Alike state.indent output output'
      (renderHelper setting (fuel + 1) helper arguments bindings body inverse state output)
      (renderHelper setting' (fuel + 1) helper arguments bindings body' inverse' state'
        output') := by
  cases helper with
  | function name apply =>
      rw [renderHelper, renderHelper]
      refine bind_same fun value => ?_
      rw [similar.shown state]
      exact .ok (h.grown _ _ _)
  | tag name apply =>
      rw [renderHelper, renderHelper]
      -- the body is rendered apart, from no output on
      refine (ih.optional "" "" hbody h).bind fun ⟨inner, _⟩ ⟨inner', _⟩ hgrown => ?_
      obtain ⟨hindent, hinner, text, heq, heq'⟩ := hgrown
      dsimp only at hindent hinner heq heq' ⊢
      rw [heq, heq', ← hindent]
      refine bind_same fun shown => ?_
      exact .ok (hinner.grown _ _ _)
  | standard name which =>
      rw [renderHelper, renderHelper]
      cases which.value? name arguments with
      | some result =>
          refine bind_same fun value => ?_
          rw [similar.shown state]
          exact .ok (h.grown _ _ _)
      | none =>
          refine bind_same fun _ => ?_
          cases which with
          | condition negated => exact ih.optional output output' (rel_ite hbody hinverse) h
          | within =>
              dsimp only
              split
              · refine bind_grown (ih.optional output output' hbody (h.entered _)) ?_
                intro inner inner' text hinner
                exact .ok (hinner.left.grown_self _ _)
              · exact ih.optional output output' hinverse h
          | each =>
              cases hbody with
              | none => exact .ok (h.grown_self output output')
              | some htemplate =>
                  dsimp only
                  split
                  · exact ih.items_succ _ output output' htemplate h
                  · exact ih.optional output output' hinverse h
          | verbatim => exact ih.optional output output' hbody h
          | _ => exact .ok (h.grown_self output output')

end RendersAlike

/-- Rendering in parallel, by induction on the fuel: each function uses the others with less of
it. -/
theorem rendersAlike (similar : setting.Alike setting') (fuel : Nat) :
    RendersAlike setting setting' fuel := by
  induction fuel with
  | zero => exact .zero setting setting'
  | succ fuel ih =>
      exact
        { template := ih.template_succ
          element := ih.element_succ similar
          expression := ih.expression_succ similar
          call := ih.call_succ similar
          helper := ih.helper_succ similar
          optional := ih.optional_succ }

theorem Setting.Alike.render (similar : setting.Alike setting') :
    Matched RenderFault.SameReason Eq setting.render setting'.render := by
  have h := (rendersAlike similar nestingLimit).template (some setting.name) "" ""
    similar.template .start
  rw [Setting.render, Setting.render, similar.name]
  generalize renderTemplate setting nestingLimit _ _ _ _ = outcome at h ⊢
  generalize renderTemplate setting' nestingLimit _ _ _ _ = outcome' at h ⊢
  cases h with
  | ok hgrown =>
      obtain ⟨-, -, text, heq, heq'⟩ := hgrown
      exact .ok (heq.trans heq'.symm)
  | error hreason => exact .error hreason

end Language

namespace Program

variable {program : Program} {template : Template}

theorem setting_alike (unescapes : Template.Unescapes program.template template) (data : Json) :
    (program.setting data).Alike ({ program with template }.setting data) :=
  ⟨rfl, unescapes, rfl, rfl, rfl, rfl⟩

/-- A template in which some escaped expressions are written unescaped, wherever they stand in it,
gives the same text on the same data, or both fail. If it is rendering that fails, it fails for the
same reason. -/
theorem escaping_changes_nothing (program : Program) (template : Template)
    (unescapes : Template.Unescapes program.template template) (data : Json) :
    ({ program with template }.render data).toOption = (program.render data).toOption
      ∧ ∀ fault, (program.setting data).render = .error fault →
        ∃ fault', ({ program with template }.setting data).render = .error fault'
          ∧ fault'.reason = fault.reason := by
  have hrender := (setting_alike unescapes data).render
  constructor
  · rw [render, render, run, run]
    dsimp only
    split
    · rfl
    · generalize (program.setting data).render = outcome at hrender ⊢
      generalize ({ program with template }.setting data).render = outcome' at hrender ⊢
      cases hrender with
      | ok heq =>
          subst heq
          rfl
      | error _ => rfl
  · intro fault hfault
    rw [hfault] at hrender
    generalize ({ program with template }.setting data).render = outcome' at hrender ⊢
    cases hrender with
    | error hreason => exact ⟨_, rfl, hreason⟩

/-- Both written forms of an unescaped expression are read as one. -/
example :
    Language.readTemplate "\x7b\x7b\x7bx\x7d\x7d\x7d"
        = .ok [(some ⟨1, 1⟩, .expression false ⟨.path (.steps [.key "x"] "x"), [], []⟩)]
      ∧ Language.readTemplate "\x7b\x7b&x\x7d\x7d"
        = .ok [(some ⟨1, 1⟩, .expression false ⟨.path (.steps [.key "x"] "x"), [], []⟩)] := by
  constructor <;> cbv

open LiveTemplates.Language in
/-- A tag around a condition, with a call in a call before it and an expression in each branch. -/
def framed (escaped : Bool) : Template :=
  let key (name : String) : Parameter := .path (.steps [.key name] name)
  [(some ⟨1, 1⟩, .block ⟨.name "trim", [], []⟩ []
    [(none, .text " "),
      (some ⟨1, 11⟩, .expression escaped ⟨.name "concat",
        [key "x", .call (.name "concat") [.literal (.string "&"), key "x"] []], []⟩),
      (some ⟨1, 33⟩, .block ⟨.name "if", [key "y"], []⟩ []
        [(some ⟨1, 43⟩, .expression true ⟨key "x", [], []⟩)]
        (some [(some ⟨1, 56⟩, .expression escaped ⟨key "x", [], []⟩)]))] none)]

/-- A program of such a template with the tag and the function that it calls. -/
def framedProgram : Program where
  name := "page"
  template := framed true
  vocabulary :=
    { functions := [("concat", Builtin.concat)], tags := [("trim", Builtin.trim)] }
  globals := []

theorem escaping_changes_nothing_framed :
    Template.Unescapes framedProgram.template (framed false)
      ∧ { framedProgram with template := framed false }.render
          (.object [("x", .string "<b>"), ("y", .bool false)])
        = .ok "<b>&<b><b>" := by
  have hunescapes : Template.Unescapes framedProgram.template (framed false) :=
    .cons (.block _ _ (.cons (.text _) (.cons (.unescape _) (.cons
      (.block _ _ (Language.unescapes_refl _) (.some (.cons (.unescape _) .nil))) .nil)))
      .none) .nil
  have hsame := (escaping_changes_nothing framedProgram (framed false) hunescapes
    (.object [("x", .string "<b>"), ("y", .bool false)])).1
  have htext : (framedProgram.render (.object [("x", .string "<b>"), ("y", .bool false)])).toOption
      = some "<b>&<b><b>" := rfl
  rw [htext] at hsame
  refine ⟨hunescapes, ?_⟩
  generalize { framedProgram with template := framed false }.render _ = outcome at hsame ⊢
  cases outcome with
  | ok text =>
      cases hsame
      rfl
  | error e => cases hsame

end Program

end LiveTemplates
