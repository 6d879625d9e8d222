import LiveTemplates.Error
import LiveTemplates.Language.Layout
import LiveTemplates.Language.Render
import LiveTemplates.Symbols.Table

set_option autoImplicit false

/-! # Compiled templates

A program is a template with the vocabulary it was compiled with and the globals that were
declared. Running it checks the data against the globals in key order and then renders. Values are
not escaped. -/

namespace LiveTemplates

/-- A compiled template. -/
structure Program where
  name : String
  template : Template
  vocabulary : Language.Vocabulary
  globals : List (String × GlobalVariable)

namespace SymbolTable

/-- The helpers that a table gives to templates. -/
def vocabulary (table : SymbolTable) : Language.Vocabulary :=
  { methods := table.methods, functions := table.functions, tags := table.tags }

end SymbolTable

namespace Program

/-- Compile a source under a name. -/
def compile (symbols : SymbolTable) (name source : String) : Except SyntaxFault Program :=
  (Language.readTemplate source).map fun template =>
    { name, template, vocabulary := symbols.vocabulary, globals := symbols.globals }

/-- What is wrong with the value of the first declared global that has a wrong one. -/
def violation? (data : Json) : List (String × GlobalVariable) → Option String
  | [] => none
  | (_, declared) :: rest =>
    match declared.violation? data with
    | some explanation => some explanation
    | none => violation? data rest

/-- What stays the same while the program runs. -/
def setting (program : Program) (data : Json) : Language.Setting :=
  { name := program.name, template := program.template, vocabulary := program.vocabulary
    escape := id, data }

/-- The text of the template on data, or an explanation of what went wrong. -/
def run (program : Program) (data : Json) : Except String String :=
  match violation? data program.globals with
  | some explanation => .error explanation
  | none => (program.setting data).render.mapError fun fault => fault.message program.name

/-- The program of a source. -/
def ofSource (symbols : SymbolTable) (name source : String) : Except TemplateError Program :=
  (compile symbols name source).mapError (.compilation name)

/-- The text of the template on data. -/
def render (program : Program) (data : Json) : Except TemplateError String :=
  (program.run data).mapError (.render program.name)

end Program

end LiveTemplates
