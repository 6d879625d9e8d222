import LiveTemplates.Config.Fault
import LiveTemplates.Language.Template
import LiveTemplates.Name
import LiveTemplates.Symbols.Fault

set_option autoImplicit false

/-! # Errors of the engine -/

namespace LiveTemplates

/-- Why an operation of the engine fails. -/
inductive TemplateError where
  | resourceNotFound (name : String)
  | compilation (name : String) (fault : SyntaxFault)
  | engineNotInitialized
  | invalidName (spelling : String) (fault : Name.Fault)
  | io (name : String) (fault : FileFault)
  | render (name explanation : String)
  | config (fault : ConfigFault)
  | symbol (fault : SymbolFault)
  /-- The production of a cache entry broke down, perhaps with a message. -/
  | producerAborted (key : String) (explanation : Option String)
  /-- A lookup gave up waiting. -/
  | timedOut (key : String) (milliseconds : Nat)
  deriving DecidableEq

/-- An error in words. -/
def TemplateError.message : TemplateError → String
  | resourceNotFound name => s!"Resource not found: {name}"
  | compilation name fault => "Compilation failed for " ++ name ++ ": " ++ fault.message
  | engineNotInitialized => "Template engine is not initialized"
  | invalidName spelling fault =>
    "Invalid resource name '" ++ spelling ++ "': " ++ fault.message
  | io name fault => "IO error reading " ++ name ++ ": " ++ fault.message
  | render name explanation => s!"Render error in {name}: {explanation}"
  | config fault => "Configuration error: " ++ fault.message
  | symbol fault => "Symbol resolution error: " ++ fault.message
  | producerAborted key explanation =>
    "Producer for key " ++ Text.quoted key ++ " aborted: task N panicked"
      ++ (match explanation with
        | some text => " with message " ++ Text.quoted text
        | none => "")
  | timedOut key milliseconds =>
    "Timed out after " ++ toString milliseconds ++ "ms waiting for key " ++ Text.quoted key

namespace Name

/-- The canonical name of a spelling, as the engine asks for it. -/
def canonicalOrError (spelling : String) : Except TemplateError String :=
  (canonical spelling).mapError (.invalidName spelling)

end Name

/-! ## Computations that end well -/

section Outcomes

variable {ε ε' α β : Type}

/-- If two computations one after the other end well, each of them does. -/
theorem exists_of_bind_eq_ok {first : Except ε α} {next : α → Except ε β} {result : β}
    (h : first >>= next = .ok result) : ∃ value, first = .ok value ∧ next value = .ok result := by
  cases first with
  | ok value => exact ⟨value, rfl, h⟩
  | error e => cases h

@[simp] theorem mapError_ok (f : ε → ε') (value : α) :
    (Except.ok value : Except ε α).mapError f = .ok value := rfl

@[simp] theorem mapError_error (f : ε → ε') (e : ε) :
    (Except.error e : Except ε α).mapError f = .error (f e) := rfl

theorem eq_ok_of_mapError {f : ε → ε'} {result : Except ε α} {value : α}
    (h : result.mapError f = .ok value) : result = .ok value := by
  cases result with
  | ok value =>
      cases h
      rfl
  | error e => cases h

end Outcomes

end LiveTemplates
