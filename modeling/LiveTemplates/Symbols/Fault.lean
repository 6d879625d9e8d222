set_option autoImplicit false

/-! # What can be wrong with an import -/

namespace LiveTemplates

/-- What the symbols of a provider are: methods of a first argument, free functions, or tags that
wrap a part of a template. -/
inductive Capability where
  | methods
  | functions
  | tags
  deriving DecidableEq, Inhabited

/-- The word for a capability. -/
def Capability.text : Capability → String
  | methods => "methods"
  | functions => "functions"
  | tags => "tags"

/-- Why a declared import is refused. -/
inductive SymbolFault where
  | badDeclaration (declaration : String)
  | badClass (qualified : String)
  | unknownProvider (name : String)
  | wrongCapability (qualified : String) (provided wanted : Capability)
  deriving DecidableEq, Inhabited

/-- A fault in words. -/
def SymbolFault.message : SymbolFault → String
  | badDeclaration declaration =>
    s!"global variable must be declared as '<type> <id>', got '{declaration}'"
  | badClass qualified => s!"invalid class import '{qualified}'"
  | unknownProvider name => s!"unknown provider module '{name}'"
  | wrongCapability qualified provided wanted =>
    "provider module '" ++ qualified ++ "' provides " ++ provided.text ++ ", not " ++ wanted.text

end LiveTemplates
