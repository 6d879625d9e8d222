import LiveTemplates.Language.Template

set_option autoImplicit false

/-! # What can go wrong while rendering -/

namespace LiveTemplates

namespace Language

/-- Why rendering stops. -/
inductive Reason where
  | helperNotFound (name : String)
  | partialNotFound (name : String)
  | decoratorNotFound (name : String)
  | includesSelf
  | argumentMissing (helper : String) (index : Nat)
  | namedArgumentMissing (helper argument : String)
  | argumentType (helper argument type : String)
  | argumentNotOfType (type : String)
  | bodyMissing
  | arrayIndex (key : String)
  | logLevel (level : String)
  | helperFailed (helper message : String)
  | tooDeep
  deriving DecidableEq, Inhabited

/-- A reason in words. -/
def Reason.message : Reason → String
  | helperNotFound name => s!"Helper not found {name}"
  | partialNotFound name => s!"Partial not found {name}"
  | decoratorNotFound name => s!"Decorator not found {name}"
  | includesSelf => "Can not include current template in partial"
  | argumentMissing helper index =>
    s!"Helper/Decorator {helper} param at index {index} required but not found"
  | namedArgumentMissing helper argument =>
    s!"Helper/Decorator {helper} param with name {argument} required but not found"
  | argumentType helper argument type =>
    s!"Helper/Decorator {helper} param with name {argument} type mismatch for {type}"
  | argumentNotOfType type => s!"Invalid param type, {type} expected"
  | bodyMissing => "Block content required"
  | arrayIndex key => s!"Cannot access array/vector with string index, {key}"
  | logLevel level => s!"Invalid logging level: {level}"
  | helperFailed helper message => s!"{helper}: {message}"
  | tooDeep => "Templates are nested too deeply"

/-- A reason and the place in the template, if one is known. -/
structure RenderFault where
  reason : Reason
  position : Option Position := none
  deriving DecidableEq, Inhabited

/-- The same fault at a place, unless it already has one. -/
def RenderFault.at (fault : RenderFault) (position : Option Position) : RenderFault :=
  { fault with position := fault.position.or position }

/-- A fault in words, for a template of a name. -/
def RenderFault.message (fault : RenderFault) (template : String) : String :=
  match fault.position with
  | none => fault.reason.message
  | some position =>
    "Error rendering \"" ++ template ++ "\" line " ++ toString position.line ++ ", col "
      ++ toString position.column ++ ": " ++ fault.reason.message

end Language

end LiveTemplates
