import LiveTemplates.Json.Printer
import LiveTemplates.Symbols.Provider
import LiveTemplates.Text.Case

set_option autoImplicit false

/-! # The built-in providers

Text functions, methods of values, and tags. Functions that need text take the display form of
their argument. -/

namespace LiveTemplates

namespace Builtin

/-- The text of a value: nothing for null, a string itself, and JSON text for all else. -/
def display : Json → String
  | .null => ""
  | .string text => text
  | value => value.compact

/-- The first argument. -/
def first (function : String) : List Json → Except String Json
  | [] => .error (function ++ " expects at least one argument")
  | value :: _ => .ok value

/-- The first argument in capitals. -/
def upper : TemplateFunction := fun arguments =>
  (first "upper" arguments).map fun value => .string (Text.upper (display value))

/-- The first argument in small letters. -/
def lower : TemplateFunction := fun arguments =>
  (first "lower" arguments).map fun value => .string (Text.lower (display value))

/-- All arguments one after the other. -/
def concat : TemplateFunction := fun arguments =>
  .ok (.string (String.join (arguments.map display)))

/-- The first argument, or the second if the first is null or the empty text. -/
def orElse : TemplateFunction
  | .null :: fallback :: _ => .ok fallback
  | .string text :: fallback :: _ => .ok (if text.isEmpty then fallback else .string text)
  | value :: _ :: _ => .ok value
  | _ => .error "default expects a value and a fallback"

/-- The number of characters, items or fields. -/
def length : TemplateFunction := fun arguments =>
  match first "length" arguments with
  | .error message => .error message
  | .ok (.string text) => .ok (.ofNat text.length)
  | .ok (.array items) => .ok (.ofNat items.length)
  | .ok (.object fields) => .ok (.ofNat fields.length)
  | .ok .null => .ok (.ofNat 0)
  | .ok value => .error ("length is not defined for " ++ value.compact)

/-- The items of an array with the second argument, or a comma and a space, between them. -/
def join : TemplateFunction := fun arguments =>
  let separator :=
    match arguments with
    | _ :: value :: _ => display value
    | _ => ", "
  match first "join" arguments with
  | .error message => .error message
  | .ok (.array items) => .ok (.string (separator.intercalate (items.map display)))
  | .ok value => .error ("join expects an array, got " ++ value.compact)

/-- The body without the blanks around it. -/
def trim : TemplateTag := fun _ body =>
  .ok (Text.trim body)

/-- The most bytes that one repetition may give. -/
def repeatLimit : Nat := Nat.pow 2 20

/-- The product of two numbers of 64 bits, if it is one itself. -/
def checkedProduct? (m n : Nat) : Option Nat :=
  if m * n < Nat.pow 2 64 then some (m * n) else none

/-- The body as many times as the first argument says. -/
def repeatBody : TemplateTag := fun arguments body =>
  match arguments.head?.bind Json.asNat? with
  | none => .error "repeat expects a non-negative count"
  | some count =>
    match (checkedProduct? count body.utf8ByteSize).filter (· ≤ repeatLimit) with
    | none => .error "repeat count too large"
    | some total =>
      if total = 0 then .ok "" else .ok (String.join (List.replicate count body))

/-- The package of the built-in providers. -/
def package : String := "stencil.builtin"

/-- The built-in providers. -/
def providers : List Provider := [
  ⟨package, "strings", .functions,
    [.function "upper" upper, .function "lower" lower, .function "concat" concat,
      .function "default" orElse]⟩,
  ⟨package, "values", .methods, [.function "length" length, .function "join" join]⟩,
  ⟨package, "text", .tags, [.tag "trim" trim, .tag "repeat" repeatBody]⟩]

end Builtin

end LiveTemplates
