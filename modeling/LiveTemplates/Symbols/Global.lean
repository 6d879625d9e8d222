import LiveTemplates.Json.Printer
import LiveTemplates.Symbols.Fault
import LiveTemplates.Text.Blank
import LiveTemplates.Text.Letter

set_option autoImplicit false

/-! # Declared global variables

A declaration is a type and an identifier with blanks between them. The type is known by its
simple name; a type that is not known accepts every value. Data to be rendered is checked
against the declarations: what it holds under a declared identifier must be null or of the type. -/

namespace LiveTemplates

/-- The types that can be told apart in data. -/
inductive ValueType where
  | string
  | number
  | boolean
  | array
  | object
  | any
  deriving DecidableEq, Inhabited

namespace ValueType

/-- The word for a type. -/
def text : ValueType → String
  | string => "string"
  | number => "number"
  | boolean => "boolean"
  | array => "array"
  | object => "object"
  | any => "any"

/-- The simple type names of each type. -/
def ofSimpleName (name : String) : ValueType :=
  if ["String", "string", "str", "char"].contains name then string
  else if ["int", "long", "short", "byte", "double", "float", "Integer", "Long", "Double", "Float",
      "Number", "i32", "i64", "u32", "u64", "f32", "f64"].contains name then number
  else if ["boolean", "Boolean", "bool"].contains name then boolean
  else if ["List", "Vec", "Array", "Collection", "Set"].contains name then array
  else if ["Map", "HashMap", "Object", "BTreeMap"].contains name then object
  else any

/-- The type of a written type name: what follows the last dot or colon counts, `[]` at the end
makes an array, and what follows `<` is left out. -/
def ofTypeName (name : String) : ValueType :=
  let base := (Text.lastPiece (fun c => c = '.' || c = ':') name).toList
  if ['[', ']'].isSuffixOf base then array
  else ofSimpleName (String.ofList (base.takeWhile fun c => c ≠ '<'))

/-- Whether a value is of a type. Null is of every type. -/
def accepts : ValueType → Json → Bool
  | _, .null => true
  | any, _ => true
  | string, .string _ => true
  | number, .number _ => true
  | boolean, .bool _ => true
  | array, .array _ => true
  | object, .object _ => true
  | _, _ => false

end ValueType

/-- A global variable with the type it was declared with. -/
structure GlobalVariable where
  typeName : String
  id : String
  valueType : ValueType
  deriving DecidableEq, Inhabited

namespace GlobalVariable

/-- Read a declaration. -/
def parse (declaration : String) : Except SymbolFault GlobalVariable :=
  match Text.words declaration with
  | [typeName, id] =>
    if Text.isIdentifier id then .ok ⟨typeName, id, .ofTypeName typeName⟩
    else .error (.badDeclaration (Text.trim declaration))
  | _ => .error (.badDeclaration (Text.trim declaration))

/-- What is wrong with the value that data holds for the variable, if anything is. -/
def violation? (declared : GlobalVariable) (data : Json) : Option String :=
  match data.field? declared.id with
  | some value =>
    if declared.valueType.accepts value then none
    else some ("global '" ++ declared.id ++ "' is declared as " ++ declared.typeName ++ " but got "
      ++ value.compact)
  | none => none

end GlobalVariable

end LiveTemplates
