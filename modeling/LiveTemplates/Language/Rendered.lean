import LiveTemplates.Json.Value

set_option autoImplicit false

/-! # Values in output

How a value shows in rendered text: nothing for null, a string itself, numbers and truth values as
in JSON, an array as its items between brackets, and an object as a fixed word. -/

namespace LiveTemplates

namespace Json

mutual

/-- The text of a value in output. -/
def rendered : Json → String
  | null => ""
  | bool true => "true"
  | bool false => "false"
  | number n => n.text
  | string s => s
  | array items => "[" ++ ", ".intercalate (renderedItems items) ++ "]"
  | object _ => "[object]"

/-- The texts of items. -/
def renderedItems : List Json → List String
  | [] => []
  | item :: rest => rendered item :: renderedItems rest

end

/-- Whether a value counts as true in a condition. Zero and the numbers too small for full
precision count as false, unless `includeZero` says otherwise. -/
def isTruthy (includeZero : Bool) : Json → Bool
  | null => false
  | bool b => b
  | number (.whole i) => includeZero || i ≠ 0
  | number (.double x) => if includeZero then !x.isNan else x.isNormal
  | string s => !s.isEmpty
  | array items => !items.isEmpty
  | object fields => !fields.isEmpty

end Json

end LiveTemplates
