import LiveTemplates.Encoding
import LiveTemplates.Error
import LiveTemplates.Symbols.Global

set_option autoImplicit false

/-! # Configurations

A configuration is built up step by step from the default one and checked at the end. -/

namespace LiveTemplates

/-- Which loader an engine has: files below the template path, or files anywhere. -/
inductive LoaderKind where
  | filesystem
  | external
  deriving DecidableEq, Inhabited

namespace LoaderKind

/-- The word for a kind of loader. -/
def text : LoaderKind → String
  | filesystem => "filesystem"
  | external => "external"

/-- The kind of loader that a word stands for. -/
def parse (word : String) : Except ConfigFault LoaderKind :=
  let name := Text.lowerAscii (Text.trim word)
  if name = "filesystem" ∨ name = "file" then .ok filesystem
  else if name = "external" then .ok external
  else .error (.unknownLoader name)

end LoaderKind

/-- The settings of an engine. -/
structure Configuration where
  templatePath : String := "."
  inputEncoding : String := "utf-8"
  reloadable : Bool := false
  compilePath : Option String := none
  loader : LoaderKind := .filesystem
  packages : List String := []
  classes : List String := []
  methods : List String := []
  functions : List String := []
  tags : List String := []
  globals : List String := []
  autoscan : Bool := false
  autoscanPackages : List String := []
  deriving DecidableEq, Inhabited

/-- Refuse an encoding that cannot be read. -/
def Encoding.check (encoding : String) : Except ConfigFault Unit :=
  if isSupported encoding then .ok ()
  else .error (.unsupportedEncoding (Text.lowerAscii encoding))

theorem Encoding.check_utf8 : Encoding.check "utf-8" = .ok () := by
  have hsupported : Encoding.isSupported "utf-8" = true := by decide +kernel
  rw [check, if_pos hsupported]

namespace Configuration

/-- The lists of a configuration under the keys that messages use. -/
def lists (config : Configuration) : List (String × List String) := [
  ("import.packages", config.packages), ("import.classes", config.classes),
  ("import.methods", config.methods), ("import.functions", config.functions),
  ("import.tags", config.tags), ("import.variables", config.globals),
  ("import.autoscan.packages", config.autoscanPackages)]

/-- Whether a list has an entry of blanks only. -/
def hasEmptyEntry (entries : List String) : Bool :=
  entries.any fun entry => (Text.trim entry).isEmpty

/-- Refuse a list with an entry of blanks only. -/
def checkLists : List (String × List String) → Except ConfigFault Unit
  | [] => .ok ()
  | (key, entries) :: rest =>
    if hasEmptyEntry entries then .error (.emptyEntry key) else checkLists rest

/-- Refuse a declaration that cannot be read. -/
def checkVariables : List String → Except SymbolFault Unit
  | [] => .ok ()
  | declaration :: rest =>
    match GlobalVariable.parse declaration with
    | .ok _ => checkVariables rest
    | .error fault => .error fault

/-- Refuse a configuration that no engine can have. -/
def validate (config : Configuration) : Except TemplateError Unit := do
  if config.templatePath.isEmpty then throw (.config .emptyTemplatePath)
  (Encoding.check config.inputEncoding).mapError .config
  (checkLists config.lists).mapError .config
  (checkVariables config.globals).mapError .symbol

/-- The configuration, if it is valid. -/
def build (config : Configuration) : Except TemplateError Configuration :=
  config.validate.map fun _ => config

end Configuration

end LiveTemplates
