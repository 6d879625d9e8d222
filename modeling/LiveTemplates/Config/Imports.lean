import LiveTemplates.Config.Basic
import LiveTemplates.Symbols.Table

set_option autoImplicit false

/-! # The symbol table of a configuration -/

namespace LiveTemplates

namespace SymbolTable

/-- Declare globals in order. -/
def addDeclarations : SymbolTable → List String → Except SymbolFault SymbolTable
  | table, [] => .ok table
  | table, declaration :: rest =>
    match GlobalVariable.parse declaration with
    | .ok declared => addDeclarations (table.addGlobal declared) rest
    | .error fault => .error fault

/-- The symbols that a configuration imports, and those found by the scan if it asks for one. -/
def ofConfiguration (providers : List Provider) (config : Configuration) :
    Except SymbolFault SymbolTable := do
  let table := config.packages.foldl addPackage {}
  let table ← config.classes.foldlM addClass table
  let table ← config.methods.foldlM (addProviderNamed providers .methods) table
  let table ← config.functions.foldlM (addProviderNamed providers .functions) table
  let table ← config.tags.foldlM (addProviderNamed providers .tags) table
  let table ← table.addDeclarations config.globals
  return if config.autoscan then table.scan providers config.autoscanPackages else table

end SymbolTable

end LiveTemplates
