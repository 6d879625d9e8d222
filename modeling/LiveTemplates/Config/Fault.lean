import LiveTemplates.Files.Fault

set_option autoImplicit false

/-! # Why a configuration is refused -/

namespace LiveTemplates

/-- What is wrong with a configuration. -/
inductive ConfigFault where
  | emptyTemplatePath
  | unsupportedEncoding (encoding : String)
  | emptyEntry (key : String)
  | notBoolean (key value : String)
  | unknownLoader (name : String)
  /-- A file that does not follow the rules of its format. -/
  | unreadable
  /-- A setting of the wrong type. -/
  | unfit (explanation : String)
  | rootInaccessible (path : String) (fault : FileFault)
  | rootNotDirectory (path : String)
  | loaderUninitialized (kind : String)
  /-- Refused by whoever builds the engine. -/
  | refused (explanation : String)
  deriving DecidableEq

/-- A fault in words. -/
def ConfigFault.message : ConfigFault → String
  | emptyTemplatePath => "template path must not be empty"
  | unsupportedEncoding encoding =>
    s!"unsupported input encoding '{encoding}', only UTF-8 is supported"
  | emptyEntry key => s!"{key} contains an empty entry"
  | notBoolean key value => s!"{key}: expected a boolean, got '{value}'"
  | unknownLoader name => s!"unknown template loader '{name}'"
  | unreadable => "<syntax>"
  | unfit explanation => explanation
  | rootInaccessible path fault =>
    "template path " ++ path ++ " is not accessible: " ++ fault.message
  | rootNotDirectory path => s!"template path {path} is not a directory"
  | loaderUninitialized kind => s!"{kind} loader used before initialize"
  | refused explanation => explanation

end LiveTemplates
