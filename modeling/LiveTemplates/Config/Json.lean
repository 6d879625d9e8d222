import LiveTemplates.Config.Basic
import LiveTemplates.Json.Value
import LiveTemplates.Text.Quoted

set_option autoImplicit false

/-! # The JSON form of a configuration

A configuration is written as an object with all its settings. An object is read setting by
setting: one that is missing keeps its default, and keys that are no settings are passed over. An
array is read as the settings in their order. Reading does not check the configuration. -/

namespace LiveTemplates

/-- Why a value is no configuration. -/
inductive JsonFault where
  | type (found : Json) (expected : String)
  | variant (name : String)
  | singleKey
  | length (count : Nat)

namespace JsonFault

/-- What a value is, in words. -/
def found : Json → String
  | .null => "null"
  | .bool b => "boolean " ++ "`" ++ toString b ++ "`"
  | .number (.whole i) => "integer " ++ "`" ++ toString i ++ "`"
  | .number (.double x) => "floating point " ++ "`" ++ x.jsonText ++ "`"
  | .string s => "string " ++ Text.quoted s
  | .array _ => "sequence"
  | .object _ => "map"

/-- A fault in words. -/
def message : JsonFault → String
  | type value expected => "invalid type: " ++ found value ++ ", expected " ++ expected
  | variant name =>
    "unknown variant " ++ "`" ++ name ++ "`, expected `filesystem` or `external`"
  | singleKey => "invalid value: map, expected map with a single key"
  | length count =>
    "invalid length " ++ toString count ++ ", expected fewer elements in array"

end JsonFault

namespace Configuration

/-- A list of texts as an array. -/
def textsToJson (entries : List String) : Json :=
  .array (entries.map .string)

/-- The settings in their order, with their keys. -/
def toFields (config : Configuration) : List (String × Json) := [
  ("template_path", .string config.templatePath),
  ("input_encoding", .string config.inputEncoding),
  ("template_reloadable", .bool config.reloadable),
  ("compile_path", (config.compilePath.map Json.string).getD .null),
  ("template_loader", .string config.loader.text),
  ("import_packages", textsToJson config.packages),
  ("import_classes", textsToJson config.classes),
  ("import_methods", textsToJson config.methods),
  ("import_functions", textsToJson config.functions),
  ("import_tags", textsToJson config.tags),
  ("import_variables", textsToJson config.globals),
  ("import_autoscan", .bool config.autoscan),
  ("import_autoscan_packages", textsToJson config.autoscanPackages)]

/-- The keys of the settings in their order. -/
def fieldKeys : List String :=
  (toFields {}).map Prod.fst

/-- The object of a configuration. -/
def toJson (config : Configuration) : Json :=
  .object (Dictionary.ofList config.toFields)

/-- Read a text. -/
def readText (expected : String) : Json → Except JsonFault String
  | .string text => .ok text
  | value => .error (.type value expected)

/-- Read a truth value. -/
def readTruth : Json → Except JsonFault Bool
  | .bool b => .ok b
  | value => .error (.type value "a boolean")

/-- Read a list of texts. -/
def readTexts : Json → Except JsonFault (List String)
  | .array items => items.mapM (readText "a string")
  | value => .error (.type value "a sequence")

/-- Read the name of a kind of loader. -/
def readLoaderName (name : String) : Except JsonFault LoaderKind :=
  if name = "filesystem" then .ok .filesystem
  else if name = "external" then .ok .external
  else .error (.variant name)

/-- Read a kind of loader: its name, or an object with its name as the only key. -/
def readLoader : Json → Except JsonFault LoaderKind
  | .string name => readLoaderName name
  | .object [(name, value)] => do
    let kind ← readLoaderName name
    match value with
    | .null => return kind
    | value => throw (.type value "unit")
  | .object _ => .error .singleKey
  | value => .error (.type value "string or map")

/-- The configuration with one setting read from JSON. -/
def setField (config : Configuration) (key : String) (value : Json) :
    Except JsonFault Configuration :=
  match key with
  | "template_path" =>
    (readText "path string" value).map fun templatePath => { config with templatePath }
  | "input_encoding" =>
    (readText "a string" value).map fun inputEncoding => { config with inputEncoding }
  | "template_reloadable" =>
    (readTruth value).map fun reloadable => { config with reloadable }
  | "compile_path" =>
    match value with
    | .null => .ok { config with compilePath := none }
    | value =>
      (readText "path string" value).map fun path => { config with compilePath := some path }
  | "template_loader" => (readLoader value).map fun loader => { config with loader }
  | "import_packages" => (readTexts value).map fun packages => { config with packages }
  | "import_classes" => (readTexts value).map fun classes => { config with classes }
  | "import_methods" => (readTexts value).map fun methods => { config with methods }
  | "import_functions" => (readTexts value).map fun functions => { config with functions }
  | "import_tags" => (readTexts value).map fun tags => { config with tags }
  | "import_variables" => (readTexts value).map fun globals => { config with globals }
  | "import_autoscan" => (readTruth value).map fun autoscan => { config with autoscan }
  | "import_autoscan_packages" =>
    (readTexts value).map fun autoscanPackages => { config with autoscanPackages }
  | _ => .ok config

/-- The configuration with several settings read from JSON. -/
def setFields : Configuration → List (String × Json) → Except JsonFault Configuration
  | config, [] => .ok config
  | config, (key, value) :: rest =>
    match config.setField key value with
    | .ok config => setFields config rest
    | .error fault => .error fault

/-- The configuration of a JSON value. -/
def ofJson : Json → Except JsonFault Configuration
  | .object fields => setFields {} fields
  | .array items => do
    let config ← setFields {} (fieldKeys.zip items)
    if fieldKeys.length < items.length then throw (.length items.length)
    return config
  | value => .error (.type value "struct EngineConfig")

end Configuration

end LiveTemplates
