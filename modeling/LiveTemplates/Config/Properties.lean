import LiveTemplates.Config.Basic

set_option autoImplicit false

/-! # Configurations from properties

Properties are keys with dots and their values, taken in order. Lists are written with commas, and
blanks around keys, values and entries do not count; unknown keys are passed over. -/

namespace LiveTemplates

namespace Configuration

/-- The entries of a list written with commas, without blanks around them and without empty
ones. -/
def splitList (value : String) : List String :=
  ((Text.splitAt (· = ',') value).map Text.trim).filter fun entry => !entry.isEmpty

/-- A truth value in words. -/
def readBool (key value : String) : Except ConfigFault Bool :=
  let word := Text.lowerAscii value
  if word = "true" ∨ word = "yes" ∨ word = "1" then .ok true
  else if word = "false" ∨ word = "no" ∨ word = "0" then .ok false
  else .error (.notBoolean key value)

/-- The configuration after one property. -/
def setProperty (config : Configuration) (key value : String) :
    Except ConfigFault Configuration :=
  let key := Text.trim key
  let value := Text.trim value
  match key with
  | "template.path" => .ok { config with templatePath := value }
  | "template.loader" => (LoaderKind.parse value).map fun loader => { config with loader }
  | "template.reloadable" =>
    (readBool key value).map fun reloadable => { config with reloadable }
  | "compile.path" =>
    .ok (if value.isEmpty then config else { config with compilePath := some value })
  | "input.encoding" => .ok { config with inputEncoding := value }
  | "import.packages" => .ok { config with packages := config.packages ++ splitList value }
  | "import.classes" => .ok { config with classes := config.classes ++ splitList value }
  | "import.methods" => .ok { config with methods := config.methods ++ splitList value }
  | "import.functions" => .ok { config with functions := config.functions ++ splitList value }
  | "import.tags" => .ok { config with tags := config.tags ++ splitList value }
  | "import.variables" => .ok { config with globals := config.globals ++ splitList value }
  | "import.autoscan" => (readBool key value).map fun autoscan => { config with autoscan }
  | "import.autoscan.packages" =>
    .ok { config with autoscanPackages := config.autoscanPackages ++ splitList value }
  | _ => .ok config

/-- The configuration after several properties. -/
def setProperties : Configuration → List (String × String) → Except ConfigFault Configuration
  | config, [] => .ok config
  | config, (key, value) :: rest =>
    match config.setProperty key value with
    | .ok config => setProperties config rest
    | .error fault => .error fault

/-- The configuration that properties describe. -/
def ofProperties (properties : List (String × String)) : Except TemplateError Configuration := do
  let config ← (setProperties {} properties).mapError .config
  config.build

end Configuration

end LiveTemplates
