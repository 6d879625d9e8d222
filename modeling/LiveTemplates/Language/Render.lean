import LiveTemplates.Language.Helper

set_option autoImplicit false

/-! # Rendering

`renderTemplate` appends the text of a template to the output so far. The state holds what blocks,
partials and decorators change on the way. Partials may insert themselves, so the depth of nesting
is bounded by fuel. -/

namespace LiveTemplates

namespace Language

/-- What stays the same while a template is rendered. -/
structure Setting where
  name : String
  template : Template
  vocabulary : Vocabulary
  escape : String → String
  data : Json

/-- What changes while a template is rendered. -/
structure State where
  /-- Scopes, the innermost first. -/
  scopes : List Scope := [{}]
  /-- Partials defined in the template. -/
  partials : List (String × Template) := []
  /-- Bodies of the partials around, the innermost first. -/
  bodies : List Template := []
  /-- How many of these bodies are being rendered. -/
  bodyDepth : Nat := 0
  /-- What follows every line break. -/
  indent : Option String := none
  /-- The name of the template whose elements are being rendered. -/
  current : Option String := none
  /-- Values are not escaped. -/
  unescaped : Bool := false
  deriving Inhabited

/-- The state and the output, or the fault that stops rendering. -/
abbrev Outcome := Except RenderFault (State × String)

/-- The helper of a name, or the one that stands in for helpers that are missing. -/
def Setting.helper? (setting : Setting) (name standIn : String) : Option Helper :=
  (setting.vocabulary.helper? name).or (setting.vocabulary.helper? standIn)

/-- The name of the stand-in for helpers that are missing. -/
def missingHelper : String := "helperMissing"

/-- The name of the stand-in for block helpers that are missing. -/
def missingBlockHelper : String := "blockHelperMissing"

/-! ## Arguments -/

mutual

/-- The value of a parameter. -/
def evaluate (setting : Setting) (state : State) : Parameter → Except Reason Operand
  | .name text => .ok { text }
  | .path path => path.resolve setting.data state.scopes
  | .literal value => .ok (.ofValue value)
  | .call target arguments options => do
    let name ← evaluateName setting state target
    let positional ← evaluateAll setting state arguments
    let named ← evaluateNamed setting state options
    match setting.helper? name missingHelper with
    | some helper => (helper.value { positional, named }).map .ofValue
    | none => throw (.helperNotFound name)

/-- The name that a parameter stands for as the target of a call. -/
def evaluateName (setting : Setting) (state : State) : Parameter → Except Reason String
  | .name text => .ok text
  | .path path => .ok path.text
  | .literal value => .ok value.rendered
  | .call target arguments options => do
    let name ← evaluateName setting state target
    let positional ← evaluateAll setting state arguments
    let named ← evaluateNamed setting state options
    match setting.helper? name missingHelper with
    | some helper => (helper.value { positional, named }).map Json.rendered
    | none => throw (.helperNotFound name)

/-- The values of arguments. -/
def evaluateAll (setting : Setting) (state : State) :
    List Parameter → Except Reason (List Operand)
  | [] => .ok []
  | parameter :: rest => do
    let operand ← evaluate setting state parameter
    let operands ← evaluateAll setting state rest
    return operand :: operands

/-- The values of options. -/
def evaluateNamed (setting : Setting) (state : State) :
    List (String × Parameter) → Except Reason (List (String × Operand))
  | [] => .ok []
  | (key, parameter) :: rest => do
    let operand ← evaluate setting state parameter
    let operands ← evaluateNamed setting state rest
    return (key, operand) :: operands

end

/-- The name, the arguments and the options of a call. -/
def evaluateCall (setting : Setting) (state : State) (call : Call) :
    Except Reason (String × Arguments) := do
  let name ← evaluateName setting state call.target
  let positional ← evaluateAll setting state call.arguments
  let named ← evaluateNamed setting state call.options
  return (name, { positional, named })

/-! ## Output -/

/-- A text with an indentation after every line break but one at the end. -/
def indented (indent : String) : List Char → String → String
  | [], text => text
  | '\n' :: c :: rest, text => indented indent (c :: rest) (text.push '\n' ++ indent)
  | c :: rest, text => indented indent rest (text.push c)

/-- Append a text to the output. -/
def State.write (state : State) (text output : String) : String :=
  match state.indent with
  | some indent => indented indent text.toList output
  | none => output ++ text

/-- The text of a value in output. -/
def State.shown (state : State) (setting : Setting) (value : Json) : String :=
  let text := value.rendered
  if state.unescaped then text else setting.escape text

/-! ## Scopes of blocks -/

/-- The scope of a block that moves into a value. -/
def Scope.ofOperand (operand : Operand) : Scope :=
  match operand.place with
  | some place => { basePath := place }
  | none => { baseValue := some operand.value }

/-- The names that `each` binds for an item. -/
def itemBindings (bindings : List String) (placed : Bool) (key value : Json) :
    List (String × Binding) :=
  let bound := if placed then Binding.place else .value value
  match bindings with
  | [] => []
  | [name] => [(name, bound)]
  | name :: keyName :: _ => Dictionary.insert keyName (.value key) [(name, bound)]

/-- The scope of one item of a collection. -/
def itemScope (collection : Operand) (bindings : List String) (count index : Nat)
    (key : String) (keyValue value : Json) (isObject : Bool) : Scope :=
  let locals := Dictionary.ofList [("first", .bool (index = 0)), ("last", .bool (index + 1 = count)),
    (if isObject then "key" else "index", keyValue)]
  let bindings := itemBindings bindings collection.place.isSome keyValue value
  match collection.place with
  | some place => { basePath := place ++ [key], bindings, locals }
  | none => { baseValue := some value, bindings, locals }

/-- The scopes of the items of a collection, in order; none if it has no items to go through. -/
def itemScopes? (collection : Operand) (bindings : List String) : Option (List Scope) :=
  match collection.value with
  | .array items =>
    some (items.mapIdx fun index value =>
      itemScope collection bindings items.length index (toString index) (.ofNat index) value false)
  | .object fields =>
    some (fields.mapIdx fun index (key, value) =>
      itemScope collection bindings fields.length index key (.string key) value true)
  | _ => none

/-! ## Elements -/

/-- The name under which a partial finds the body that it was given. -/
def bodyName : String := "@partial-block"

/-- The template that a partial inserts, with its name if it is the whole template. -/
def State.partial? (state : State) (setting : Setting) (name : String) (body : Option Template) :
    Option (Option String × Template) :=
  let defined :=
    if name = bodyName then state.bodies[state.bodyDepth]?
    else Dictionary.find? name state.partials
  match defined with
  | some template => some (none, template)
  | none =>
    if name = setting.name then some (some name, setting.template)
    else body.map fun template => (none, template)

/-- The state in which a partial is rendered. -/
def State.forPartial (state : State) (setting : Setting) (name : String) (arguments : Arguments)
    (indent : Option String) (body : Option Template) : Except Reason State := do
  let state := { state with
    bodyDepth := if name = bodyName then state.bodyDepth + 1 else state.bodyDepth - 1 }
  let state :=
    match arguments.positional.head?.bind Operand.place with
    | some place => { state with scopes := [{ basePath := place }] }
    | none => state
  let state ←
    if arguments.named.isEmpty then pure state
    else
      let here ← resolve setting.data state.scopes []
      let fields :=
        match here.value with
        | .object fields => fields
        | _ => []
      let merged := Dictionary.merge (arguments.named.map fun (k, o) => (k, o.value)) fields
      let scope := state.scopes.headD {}
      pure { state with scopes := [{ scope with baseValue := some (.object merged) }] }
  return { state with indent, bodies := body.toList ++ state.bodies }

/-- The effect of a decorator. The only one is `inline`, which defines a partial. -/
def decorate (setting : Setting) (state : State) (call : Call) (body : Option Template) :
    Except Reason State := do
  let (name, arguments) ← evaluateCall setting state call
  if name ≠ "inline" then throw (.decoratorNotFound name)
  let operand ← arguments.required "inline" 0
  match operand.value, body with
  | .string key, some template =>
    return { state with partials := Dictionary.insert key template state.partials }
  | .string _, none => throw .bodyMissing
  | _, _ => throw (.argumentNotOfType "String")

/-- The effect of the decorators among the elements of a template. -/
def decorateAll (setting : Setting) : State → Template → Except RenderFault State
  | state, [] => .ok state
  | state, (position, .decoration call body) :: rest =>
    match decorate setting state call body with
    | .ok state => decorateAll setting state rest
    | .error reason => .error { reason, position }
  | state, _ :: rest => decorateAll setting state rest

/-- A fault without a place. -/
def unplaced {α : Type} (result : Except Reason α) : Except RenderFault α :=
  result.mapError fun reason => { reason }

mutual

/-- Render the elements of a template. The name is that of a whole template. -/
def renderTemplate (setting : Setting) : (fuel : Nat) → Option String → Template → State → String →
    Outcome
  | 0, _, _, _, _ => .error { reason := .tooDeep }
  | fuel + 1, name, template, state, output =>
    template.foldlM (fun (state, output) (position, element) =>
      (renderElement setting fuel element state output).mapError (·.at position))
      ({ state with current := name }, output)

/-- Render an element. -/
def renderElement (setting : Setting) : (fuel : Nat) → Element → State → String → Outcome
  | 0, _, _, _ => .error { reason := .tooDeep }
  | fuel + 1, element, state, output =>
    match element with
    | .text content => .ok (state, state.write content output)
    | .comment => .ok (state, output)
    | .expression escaped call => do
      let (state, output) ←
        renderExpression setting fuel call
          (if escaped then state else { state with unescaped := true }) output
      return (if escaped then state else { state with unescaped := false }, output)
    | .block call bindings body inverse =>
      renderCall setting fuel missingBlockHelper call bindings (some body) inverse state output
    | .decoration call body => do
      let state ← unplaced (decorate setting state call body)
      return (state, output)
    | .insertion call indent body => do
      let (name, arguments) ← unplaced (evaluateCall setting state call)
      let state ← decorateAll setting state (body.getD [])
      if state.current = some name then throw { reason := .includesSelf }
      match state.partial? setting name body with
      | none => throw { reason := .partialNotFound name }
      | some (whole, template) =>
        let inner ← unplaced (state.forPartial setting name arguments indent body)
        let (_, output) ← renderTemplate setting fuel whole template inner output
        return (state, output)

/-- Render an expression: a helper, or the value that it names. -/
def renderExpression (setting : Setting) : (fuel : Nat) → Call → State → String → Outcome
  | 0, _, _, _ => .error { reason := .tooDeep }
  | fuel + 1, call, state, output => do
    let known ←
      if call.isBare then
        (unplaced (evaluateName setting state call.target)).map fun name =>
          (setting.vocabulary.helper? name).isSome
      else pure true
    if known then renderCall setting fuel missingHelper call [] none none state output
    else
      let operand ← unplaced (evaluate setting state call.target)
      match operand.value? with
      | some value => return (state, state.write (state.shown setting value) output)
      | none =>
        match setting.vocabulary.helper? missingHelper with
        | some helper => renderHelper setting fuel helper {} [] none none state output
        | none => return (state, output)

/-- Render the call of a helper. -/
def renderCall (setting : Setting) : (fuel : Nat) → (standIn : String) → Call → List String →
    Option Template → Option Template → State → String → Outcome
  | 0, _, _, _, _, _, _, _ => .error { reason := .tooDeep }
  | fuel + 1, standIn, call, bindings, body, inverse, state, output => do
    let (name, arguments) ← unplaced (evaluateCall setting state call)
    match setting.helper? name standIn with
    | some helper => renderHelper setting fuel helper arguments bindings body inverse state output
    | none => throw { reason := .helperNotFound name }

/-- Render what a helper gives, or the body that it chooses. What a helper gives is not
indented. -/
def renderHelper (setting : Setting) : (fuel : Nat) → Helper → Arguments → List String →
    Option Template → Option Template → State → String → Outcome
  | 0, _, _, _, _, _, _, _ => .error { reason := .tooDeep }
  | fuel + 1, helper, arguments, bindings, body, inverse, state, output =>
    match helper with
    | .function _ _ => do
      let value ← unplaced (helper.value arguments)
      return (state, output ++ state.shown setting value)
    | .tag name apply => do
      let (state, text) ← renderOptional setting fuel body state ""
      let text ← unplaced ((apply arguments.values text).mapError (.helperFailed name))
      return (state, output ++ text)
    | .standard name which => do
      match which.value? name arguments with
      | some result =>
        let value ← unplaced result
        return (state, output ++ state.shown setting value)
      | none =>
        unplaced (which.check arguments)
        let operand := arguments.positional.headD {}
        match which with
        | .condition negated =>
          let includeZero :=
            match Dictionary.find? "includeZero" arguments.named with
            | some { value? := some (.bool b), .. } => b
            | _ => false
          renderOptional setting fuel
            (if operand.value.isTruthy includeZero != negated then body else inverse) state output
        | .within =>
          if operand.value.isTruthy false then
            let bound := if operand.place.isSome then Binding.place else .value operand.value
            let scope := { Scope.ofOperand operand with
              bindings := if bindings.length = 1 then bindings.map fun name => (name, bound) else [] }
            let (inner, output) ←
              renderOptional setting fuel body { state with scopes := scope :: state.scopes } output
            return ({ inner with scopes := inner.scopes.tail }, output)
          else renderOptional setting fuel inverse state output
        | .each =>
          match body with
          | none => return (state, output)
          | some template =>
            match itemScopes? operand bindings with
            | some (scope :: scopes) =>
              (scope :: scopes).foldlM (fun (state, output) scope => do
                let (inner, output) ← renderTemplate setting fuel none template
                  { state with scopes := scope :: state.scopes } output
                return ({ inner with scopes := inner.scopes.tail }, output)) (state, output)
            | _ => renderOptional setting fuel inverse state output
        | .verbatim => renderOptional setting fuel body state output
        | _ => return (state, output)

/-- Render a template if there is one. -/
def renderOptional (setting : Setting) : (fuel : Nat) → Option Template → State → String → Outcome
  | 0, _, _, _ => .error { reason := .tooDeep }
  | fuel + 1, template, state, output =>
    match template with
    | some template => renderTemplate setting fuel none template state output
    | none => .ok (state, output)

end

/-- How deep templates may be nested in one another. -/
def nestingLimit : Nat := 100000

/-- The text of a whole template on its data. -/
def Setting.render (setting : Setting) : Except RenderFault String :=
  (renderTemplate setting nestingLimit (some setting.name) setting.template {} "").map (·.2)

end Language

end LiveTemplates
