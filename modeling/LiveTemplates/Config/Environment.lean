import LiveTemplates.Config.Setting
import LiveTemplates.Decimal.Reading

set_option autoImplicit false

/-! # Settings from the environment

Variables whose names begin with the prefix, in any mixture of capitals, are settings. A value that
reads as a truth value, a whole number or a number is one; the values of list settings are split
at commas; all else is text. -/

namespace LiveTemplates

namespace Environment

/-- What the names of variables begin with, in small letters. -/
def nameStart : String := "stencil_"

/-- Where settings from the environment came from, in words. -/
def origin : Option String := some "the environment"

/-- The settings whose values are lists. -/
def listKeys : List String := [
  "import_packages", "import_classes", "import_methods", "import_functions", "import_tags",
  "import_variables", "import_autoscan_packages"]

/-- A whole number of 64 bits with perhaps a sign. -/
def readWhole? (text : String) : Option Int :=
  let (negative, digits) :=
    match text.toList with
    | '-' :: rest => (true, rest)
    | '+' :: rest => (false, rest)
    | cs => (false, cs)
  if digits.isEmpty || digits.any fun c => !c.isDigit then none
  else
    let n : Int := Double.digitsValue digits
    (Number.whole (if negative then -n else n)).asInt?

/-- The setting of a value. -/
def readValue (key value : String) : Setting :=
  let word := Text.lower value
  if word = "true" then .scalar origin (.bool true)
  else if word = "false" then .scalar origin (.bool false)
  else
    match readWhole? value with
    | some i => .scalar origin (.whole i)
    | none =>
      match Double.parse? value with
      | some x => .scalar origin (.real x)
      | none =>
        if listKeys.contains key then
          .list origin ((Text.splitAt (· = ',') value).map fun s => .scalar origin (.text s))
        else .scalar origin (.text value)

/-- The setting that a variable is, if it is one. -/
def readVariable? (name value : String) : Option (String × Setting) :=
  let name := (Text.lower name).toList
  if nameStart.toList.isPrefixOf name then
    let key := String.ofList (name.drop nameStart.length)
    some (key, readValue key value)
  else none

/-- The settings among the variables. -/
def settings (environment : List (String × String)) : List (String × Setting) :=
  environment.filterMap fun (name, value) => readVariable? name value

end Environment

end LiveTemplates
