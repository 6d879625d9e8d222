import LiveTemplates.Language.Rendered
import LiveTemplates.Language.Scope
import LiveTemplates.Symbols.Provider
import LiveTemplates.Text.Blank

set_option autoImplicit false

/-! # Helpers

A helper is called by name with evaluated arguments. Some give a value; the others render the body
of their block. A template has the standard helpers and those of its symbols, and a later one
takes the place of an earlier one of the same name. -/

namespace LiveTemplates

namespace Language

/-- The ways to compare two whole numbers. -/
inductive Comparison where
  | less
  | lessOrEqual
  | greater
  | greaterOrEqual
  deriving DecidableEq, Inhabited

/-- Whether a comparison holds. -/
def Comparison.holds : Comparison → Int → Int → Bool
  | less, x, y => x < y
  | lessOrEqual, x, y => x ≤ y
  | greater, x, y => x > y
  | greaterOrEqual, x, y => x ≥ y

/-- The helpers that every template has. -/
inductive StandardHelper where
  /-- `if` and, negated, `unless`. -/
  | condition (negated : Bool)
  | each
  | within
  | verbatim
  | log
  | lookup
  /-- `eq` and, negated, `ne`. -/
  | equality (negated : Bool)
  | comparison (which : Comparison)
  | conjunction
  | disjunction
  | negation
  | size
  deriving DecidableEq, Inhabited

/-- A helper. -/
inductive Helper where
  | standard (name : String) (which : StandardHelper)
  | function (name : String) (apply : TemplateFunction)
  | tag (name : String) (apply : TemplateTag)

/-- The standard helpers by name. -/
def standardHelpers : List (String × StandardHelper) := [
  ("if", .condition false), ("unless", .condition true), ("each", .each), ("with", .within),
  ("raw", .verbatim), ("log", .log), ("lookup", .lookup), ("eq", .equality false),
  ("ne", .equality true), ("lt", .comparison .less), ("lte", .comparison .lessOrEqual),
  ("gt", .comparison .greater), ("gte", .comparison .greaterOrEqual), ("and", .conjunction),
  ("or", .disjunction), ("not", .negation), ("len", .size)]

/-- The helpers of a template that come from its symbols. -/
structure Vocabulary where
  methods : List (String × TemplateFunction) := []
  functions : List (String × TemplateFunction) := []
  tags : List (String × TemplateTag) := []

/-- The helper of a name. -/
def Vocabulary.helper? (vocabulary : Vocabulary) (name : String) : Option Helper :=
  match Dictionary.find? name vocabulary.tags with
  | some apply => some (.tag name apply)
  | none =>
    match (Dictionary.find? name vocabulary.functions).or
        (Dictionary.find? name vocabulary.methods) with
    | some apply => some (.function name apply)
    | none => (Dictionary.find? name standardHelpers).map (.standard name)

/-- Evaluated arguments and options. -/
structure Arguments where
  positional : List Operand := []
  named : List (String × Operand) := []
  deriving Inhabited

namespace Arguments

/-- An argument that must be there. -/
def required (arguments : Arguments) (helper : String) (index : Nat) : Except Reason Operand :=
  match arguments.positional[index]? with
  | some operand => .ok operand
  | none => .error (.argumentMissing helper index)

/-- The value of an argument that must be there and is known by name. -/
def requiredNamed (arguments : Arguments) (helper name : String) (index : Nat) :
    Except Reason Json :=
  match arguments.positional[index]? with
  | some operand => .ok operand.value
  | none => .error (.namedArgumentMissing helper name)

/-- A whole number that must be there. -/
def requiredInt (arguments : Arguments) (helper name : String) (index : Nat) :
    Except Reason Int := do
  match ← arguments.requiredNamed helper name index with
  | .number n =>
    match n.asInt? with
    | some i => return i
    | none => throw (.argumentType helper name "i64")
  | _ => throw (.argumentType helper name "i64")

/-- The values of all arguments. -/
def values (arguments : Arguments) : List Json :=
  arguments.positional.map Operand.value

end Arguments

/-- The item of a collection under an index or a key; null if there is none. -/
def lookupItem : Json → Json → Json
  | .array items, index => (index.asNat?.bind fun i => items[i]?).getD .null
  | .object fields, .string key => (Dictionary.find? key fields).getD .null
  | _, _ => .null

/-- Items, fields or bytes. -/
def sizeOf : Json → Nat
  | .array items => items.length
  | .object fields => fields.length
  | .string text => text.utf8ByteSize
  | _ => 0

/-- The levels of messages. -/
def logLevels : List String :=
  ["error", "warn", "info", "debug", "trace"]

/-- Refuse a level of messages that is unknown. -/
def checkLogLevel (arguments : Arguments) : Except Reason Unit :=
  match (Dictionary.find? "level" arguments.named).bind fun o => o.value.asString? with
  | some level =>
    if logLevels.contains (Text.lowerAscii level) then .ok () else .error (.logLevel level)
  | none => .ok ()

/-- The value that a standard helper gives; none for one that renders its body. -/
def StandardHelper.value? (which : StandardHelper) (name : String) (arguments : Arguments) :
    Option (Except Reason Json) :=
  match which with
  | lookup => some do
    let collection ← arguments.required name 0
    let index ← arguments.required name 1
    return lookupItem collection.value index.value
  | equality negated => some do
    let x ← arguments.requiredNamed name "x" 0
    let y ← arguments.requiredNamed name "y" 1
    return .bool (x.same y != negated)
  | comparison relation => some do
    let x ← arguments.requiredInt name "x" 0
    let y ← arguments.requiredInt name "y" 1
    return .bool (relation.holds x y)
  | conjunction => some do
    let x ← arguments.requiredNamed name "x" 0
    let y ← arguments.requiredNamed name "y" 1
    return .bool (x.isTruthy false && y.isTruthy false)
  | disjunction => some do
    let x ← arguments.requiredNamed name "x" 0
    let y ← arguments.requiredNamed name "y" 1
    return .bool (x.isTruthy false || y.isTruthy false)
  | negation => some do
    let x ← arguments.requiredNamed name "x" 0
    return .bool (!x.isTruthy false)
  | size => some do
    let x ← arguments.requiredNamed name "x" 0
    return .ofNat (sizeOf x)
  | _ => none

/-- What a standard helper requires of its arguments before it looks at its body. -/
def StandardHelper.check (which : StandardHelper) (arguments : Arguments) : Except Reason Unit :=
  match which with
  | condition _ => (arguments.required "if" 0).map fun _ => ()
  | each => (arguments.required "each" 0).map fun _ => ()
  | within => (arguments.required "with" 0).map fun _ => ()
  | log => checkLogLevel arguments
  | _ => .ok ()

/-- The value of a helper without a body. -/
def Helper.value (helper : Helper) (arguments : Arguments) : Except Reason Json :=
  match helper with
  | .function name apply => (apply arguments.values).mapError (.helperFailed name)
  | .tag name apply =>
    ((apply arguments.values "").mapError (.helperFailed name)).map .string
  | .standard name which =>
    match which.value? name arguments with
    | some result => result
    | none => (which.check arguments).map fun _ => .string ""

end Language

end LiveTemplates
