import LiveTemplates.Json.Value
import LiveTemplates.Symbols.Fault
import LiveTemplates.Text.Blank
import LiveTemplates.Text.Quoted

set_option autoImplicit false

/-! # Providers

A provider belongs to a package, has one capability, and exports functions and tags under names.
The providers that are there are given as a list, in which one is found by its qualified name or
by its own name if no other has it. -/

namespace LiveTemplates

/-- A function of its arguments. -/
abbrev TemplateFunction := List Json → Except String Json

/-- A tag: a function of its arguments and of the text of its body. -/
abbrev TemplateTag := List Json → String → Except String String

/-- A function or a tag under a name. -/
inductive Export where
  | function (name : String) (apply : TemplateFunction)
  | tag (name : String) (apply : TemplateTag)

/-- The name of an export. -/
def Export.name : Export → String
  | function name _ => name
  | tag name _ => name

/-- An export under another name. -/
def Export.rename (name : String) : Export → Export
  | function _ apply => function name apply
  | tag _ apply => tag name apply

/-- The kind and the name of an export. -/
def Export.describe : Export → String
  | function name _ => "Function(" ++ Text.quoted name ++ ")"
  | tag name _ => "Tag(" ++ Text.quoted name ++ ")"

/-- A named group of exports with one capability. -/
structure Provider where
  package : String
  name : String
  capability : Capability
  exports : List Export

namespace Provider

/-- The package and the name. -/
def qualifiedName (provider : Provider) : String :=
  provider.package ++ "." ++ provider.name

/-- Whether a package is another one or below it. -/
def isWithin (package other : List Char) : Bool :=
  package == other || (other ++ ['.']).isPrefixOf package

/-- Whether the provider is in a package or below it. -/
def inPackage (provider : Provider) (package : String) : Bool :=
  isWithin provider.package.toList package.toList

/-- The provider of a qualified name, or of a name that only one provider has. -/
def find? (providers : List Provider) (name : String) : Option Provider :=
  let name := Text.trim name
  match providers.find? fun provider => provider.qualifiedName = name with
  | some provider => some provider
  | none =>
    match providers.filter fun provider => provider.name = name with
    | [provider] => some provider
    | _ => none

/-- The providers in one of the packages, or all if no package is given. -/
def scan (providers : List Provider) (packages : List String) : List Provider :=
  providers.filter fun provider => packages.isEmpty || packages.any provider.inPackage

end Provider

end LiveTemplates
