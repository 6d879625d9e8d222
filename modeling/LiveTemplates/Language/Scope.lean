import LiveTemplates.Language.RenderFault

set_option autoImplicit false

/-! # Scopes and paths

Every block that moves into a part of the data opens a scope. A scope says where paths begin: at a
place in the data, or at a value of its own. It also holds the names that the block binds and the
variables with an `@` before them. -/

namespace LiveTemplates

namespace Language

/-- What a bound name stands for: a value, or the place where the paths of the scope begin. -/
inductive Binding where
  | value (value : Json)
  | place
  deriving Inhabited

/-- Where paths begin, and what is known by name. -/
structure Scope where
  basePath : List String := []
  baseValue : Option Json := none
  bindings : List (String × Binding) := []
  locals : List (String × Json) := []
  deriving Inhabited

/-- An argument as it was evaluated. -/
structure Operand where
  /-- How it was written, if it was a path. -/
  text : Option String := none
  /-- Its value, unless there is none. -/
  value? : Option Json := none
  /-- Its place in the data, if it was found there. -/
  place : Option (List String) := none
  deriving Inhabited

namespace Operand

/-- The value; null if there is none. -/
def value (operand : Operand) : Json :=
  operand.value?.getD .null

/-- A value that is nowhere in the data. -/
def ofValue (value : Json) : Operand :=
  { value? := some value }

end Operand

/-- Read an index of an array: digits, perhaps after a plus sign, below `2 ^ 64`. -/
def readIndex? (key : String) : Option Nat :=
  let digits :=
    match key.toList with
    | '+' :: rest => rest
    | cs => cs
  if digits.isEmpty || digits.any fun c => !c.isDigit then none
  else
    let n := digits.foldl (fun n c => 10 * n + (c.toNat - '0'.toNat)) 0
    if n < Nat.pow 2 64 then some n else none

/-- One step into a value. -/
def step (value : Option Json) (key : String) : Except Reason (Option Json) :=
  match value with
  | some (.array items) =>
    match readIndex? key with
    | some index => .ok items[index]?
    | none => .error (.arrayIndex key)
  | some (.object fields) => .ok (Dictionary.find? key fields)
  | _ => .ok none

/-- Several steps into a value. -/
def follow (value : Option Json) : List String → Except Reason (Option Json)
  | [] => .ok value
  | key :: rest =>
    match step value key with
    | .ok next => follow next rest
    | .error reason => .error reason

/-- The keys among the steps of a path. -/
def keysOf (segments : List Segment) : List String :=
  segments.filterMap fun
    | .key name => some name
    | _ => none

/-- What a bound name stands for in the innermost scope that binds it, and where that scope
begins. -/
def findBinding? (name : String) : List Scope → Option (Binding × List String)
  | [] => none
  | scope :: rest =>
    match Dictionary.find? name scope.bindings with
    | some binding => some (binding, scope.basePath)
    | none => findBinding? name rest

/-- Follow keys from a place in the data. -/
def fromData (data : Json) (place : List String) : Except Reason Operand :=
  (follow (some data) place).map fun value =>
    { value? := value, place := if value.isSome then some place else none }

/-- Follow keys from a value. -/
def fromValue (value : Json) (keys : List String) : Except Reason Operand :=
  (follow (some value) keys).map fun value => { value? := value }

/-- Follow keys from where a scope begins. -/
def Scope.resolve (scope : Scope) (data : Json) (keys : List String) : Except Reason Operand :=
  match scope.baseValue with
  | some value => fromValue value keys
  | none => fromData data (scope.basePath ++ keys)

/-- The value at the end of a path. Scopes come innermost first. A path whose first name is bound
leads on from what the name stands for; its first segment, be it the name or a step up, is left
out. -/
def resolve (data : Json) (scopes : List Scope) (segments : List Segment) :
    Except Reason Operand :=
  let level := (segments.takeWhile (· = .up)).length
  let rest := segments.drop level
  let bound :=
    match rest with
    | .key name :: _ => findBinding? name scopes
    | _ => none
  match bound with
  | some (.value value, _) => fromValue value (keysOf segments.tail)
  | some (.place, place) => fromData data (place ++ keysOf segments.tail)
  | none =>
    if level = 0 ∧ rest.head? = some .root then fromData data (keysOf segments)
    else
      match scopes[level]?.or scopes.head? with
      | some scope => scope.resolve data (keysOf segments)
      | none => fromData data (keysOf segments)

/-- The value of a path as it was written. -/
def Path.resolve (path : Path) (data : Json) (scopes : List Scope) : Except Reason Operand :=
  match path with
  | .atSign level name text =>
    .ok { text, value? := scopes[level]?.bind fun scope => Dictionary.find? name scope.locals }
  | .steps segments text =>
    (Language.resolve data scopes segments).map fun operand => { operand with text }

end Language

end LiveTemplates
