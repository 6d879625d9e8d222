import LiveTemplates.Program
import LiveTemplates.Units

set_option autoImplicit false

/-! # Templates that are handed out

A live template is a compiled unit together with the fingerprint of the source it was made from. It
goes on working when its source changes or its engine is gone. -/

namespace LiveTemplates

/-- What comes of compiling a source. -/
inductive Compilation where
  | program (program : Runnable)
  | rejected (error : TemplateError)
  /-- The compiler itself broke down. -/
  | broken (explanation : String)

/-- Compiles a source under a name. -/
abbrev Compiler := (name source : String) → Compilation

/-- The compiler that gives templates the helpers and the globals of a table. -/
def Compiler.ofSymbols (symbols : SymbolTable) : Compiler := fun name source =>
  match Program.ofSource symbols name source with
  | .ok program => .program program.run
  | .error e => .rejected e

/-- A compiled unit and what it was made from. -/
structure LiveTemplate where
  /-- The canonical name of its source; none if the source has no name. -/
  name : Option String
  unit : ExecutableUnit
  /-- The mark that the source bore. -/
  fingerprint : Option Fingerprint
  /-- The text it was compiled from. -/
  source : String
  /-- The number of the engine that made it. -/
  engine : Nat

namespace LiveTemplate

/-- Whether two templates are the same instance: the same unit of the same engine. -/
def isSame (a b : LiveTemplate) : Bool :=
  a.engine = b.engine && a.unit.id = b.unit.id

@[simp] theorem isSame_self (template : LiveTemplate) : template.isSame template = true := by
  simp [isSame]

/-- Render on data. -/
def render (template : LiveTemplate) (data : Json) : Except TemplateError String :=
  template.unit.run data

/-- Render on data that may be impossible to express. -/
def renderWith (template : LiveTemplate) (data : Except String Json) :
    Except TemplateError String :=
  match data with
  | .ok data => template.render data
  | .error fault =>
    .error (.render template.unit.name ("render data is not serializable: " ++ fault))

/-- A template in full, without its program. -/
def describe (template : LiveTemplate) (compiledAt : String) : String :=
  "CompiledTemplate \x7b name: "
    ++ (match template.name with
      | some name => "Some(" ++ Text.quoted name ++ ")"
      | none => "None")
    ++ ", unit: " ++ template.unit.describe compiledAt ++ ", fingerprint: "
    ++ (match template.fingerprint with
      | some fingerprint => "Some(Fingerprint(" ++ toString fingerprint.value ++ "))"
      | none => "None")
    ++ ", .. \x7d"

end LiveTemplate

end LiveTemplates
