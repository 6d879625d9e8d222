import LiveTemplates.Dictionary
import LiveTemplates.Symbols.Global
import LiveTemplates.Symbols.Provider
import LiveTemplates.Text.Quoted

set_option autoImplicit false

/-! # Symbol tables

A symbol table holds what a template may name: imported packages and classes, methods, functions
and tags of the providers that were added, and declared globals. Adding a provider a second time
changes nothing; of two exports of one name in one capability the later added counts. -/

namespace LiveTemplates

/-- What a template may name. -/
structure SymbolTable where
  packages : List String := []
  classes : List (String × String) := []
  methods : List (String × TemplateFunction) := []
  functions : List (String × TemplateFunction) := []
  tags : List (String × TemplateTag) := []
  globals : List (String × GlobalVariable) := []
  /-- Qualified names of the providers added, in order. -/
  modules : List String := []

namespace SymbolTable

/-- Import a package. -/
def addPackage (table : SymbolTable) (package : String) : SymbolTable :=
  let package := Text.trim package
  if table.packages.contains package then table
  else { table with packages := table.packages ++ [package] }

/-- Import a class under its simple name. -/
def addClass (table : SymbolTable) (qualified : String) : Except SymbolFault SymbolTable :=
  let qualified := Text.trim qualified
  let simple := Text.lastPiece (fun c => c = '.' || c = ':') qualified
  if simple.isEmpty then .error (.badClass qualified)
  else .ok { table with classes := Dictionary.insert simple qualified table.classes }

/-- Add an export if it is of the kind that a capability has. -/
def addExport (capability : Capability) (table : SymbolTable) (entry : Export) : SymbolTable :=
  match capability, entry with
  | .methods, .function name apply =>
    { table with methods := Dictionary.insert name apply table.methods }
  | .functions, .function name apply =>
    { table with functions := Dictionary.insert name apply table.functions }
  | .tags, .tag name apply => { table with tags := Dictionary.insert name apply table.tags }
  | _, _ => table

/-- Add a provider, unless one of its qualified name was added before. -/
def addProvider (table : SymbolTable) (provider : Provider) : SymbolTable :=
  if table.modules.contains provider.qualifiedName then table
  else
    let table := provider.exports.foldl (addExport provider.capability) table
    { table with modules := table.modules ++ [provider.qualifiedName] }

/-- Add the provider of a name, which must have a given capability. -/
def addProviderNamed (providers : List Provider) (wanted : Capability) (table : SymbolTable)
    (name : String) : Except SymbolFault SymbolTable :=
  match Provider.find? providers name with
  | none => .error (.unknownProvider name)
  | some provider =>
    if provider.capability = wanted then .ok (table.addProvider provider)
    else .error (.wrongCapability provider.qualifiedName provider.capability wanted)

/-- Declare a global; a later declaration of an identifier takes the place of an earlier one. -/
def addGlobal (table : SymbolTable) (declared : GlobalVariable) : SymbolTable :=
  { table with globals := Dictionary.insert declared.id declared table.globals }

/-- Add all providers in some packages, or all there are if no package is given. -/
def scan (providers : List Provider) (packages : List String) (table : SymbolTable) :
    SymbolTable :=
  (Provider.scan providers packages).foldl addProvider table

/-- The qualified name of an imported class. -/
def class? (table : SymbolTable) (simple : String) : Option String :=
  Dictionary.find? simple table.classes

/-- The method of a name. -/
def method? (table : SymbolTable) (name : String) : Option TemplateFunction :=
  Dictionary.find? name table.methods

/-- The function of a name. -/
def function? (table : SymbolTable) (name : String) : Option TemplateFunction :=
  Dictionary.find? name table.functions

/-- The tag of a name. -/
def tag? (table : SymbolTable) (name : String) : Option TemplateTag :=
  Dictionary.find? name table.tags

/-- The global of an identifier. -/
def global? (table : SymbolTable) (id : String) : Option GlobalVariable :=
  Dictionary.find? id table.globals

/-- What the function of a name, or else the method, makes of arguments. -/
def call? (table : SymbolTable) (name : String) (arguments : List Json) :
    Option (Except String Json) :=
  ((table.function? name).or (table.method? name)).map fun apply => apply arguments

/-- A dictionary between braces. -/
def describeEntries {α : Type} (describe : α → String) (entries : List (String × α)) : String :=
  "\x7b" ++ ", ".intercalate (entries.map fun (key, value) =>
    Text.quoted key ++ ": " ++ describe value) ++ "\x7d"

/-- The type's name as it stands in descriptions. -/
def describeType : ValueType → String
  | .string => "String"
  | .number => "Number"
  | .boolean => "Boolean"
  | .array => "Array"
  | .object => "Object"
  | .any => "Any"

/-- A global variable with its fields. -/
def describeGlobal (declared : GlobalVariable) : String :=
  "GlobalVariable \x7b type_name: " ++ Text.quoted declared.typeName ++ ", id: "
    ++ Text.quoted declared.id ++ ", value_type: " ++ describeType declared.valueType ++ " \x7d"

/-- The table with its fields. -/
def describe (table : SymbolTable) : String :=
  "SymbolTable \x7b packages: " ++ Text.quotedList table.packages
    ++ ", classes: " ++ describeEntries Text.quoted table.classes
    ++ ", methods: " ++ Text.quotedList (Dictionary.keys table.methods)
    ++ ", functions: " ++ Text.quotedList (Dictionary.keys table.functions)
    ++ ", tags: " ++ Text.quotedList (Dictionary.keys table.tags)
    ++ ", globals: " ++ describeEntries describeGlobal table.globals
    ++ ", modules: " ++ Text.quotedList table.modules ++ " \x7d"

end SymbolTable

end LiveTemplates
