import LiveTemplates.Json.Value
import LiveTemplates.Text.Quoted

set_option autoImplicit false

/-! # Templates as syntax trees

A template is a list of elements. What stands between double braces is a call: a target, arguments
and named options. A call without arguments and options may also just name a value. -/

namespace LiveTemplates

namespace Language

/-- A line and a column, both from one. -/
structure Position where
  line : Nat
  column : Nat
  deriving DecidableEq, Inhabited

/-- A step of a path. -/
inductive Segment where
  | key (name : String)
  /-- Up to the scope around, `..`. -/
  | up
  /-- To the whole data, `@root`. -/
  | root
  /-- The sign `@` of a variable. -/
  | sign
  deriving DecidableEq, Inhabited

/-- The path of a value. Its text is kept, because it may also be the name of a helper. -/
inductive Path where
  /-- A variable of the scope so many levels up. -/
  | atSign (level : Nat) (name : String) (text : String)
  | steps (segments : List Segment) (text : String)
  deriving DecidableEq, Inhabited

/-- The text of a path. -/
def Path.text : Path → String
  | atSign _ _ text => text
  | steps _ text => text

/-- An argument, or the target of a call. -/
inductive Parameter where
  | name (text : String)
  | path (path : Path)
  | literal (value : Json)
  | call (target : Parameter) (arguments : List Parameter) (options : List (String × Parameter))
  deriving Inhabited

/-- The name that a parameter is, if it is one. -/
def Parameter.asName? : Parameter → Option String
  | name text => some text
  | path p => some p.text
  | _ => none

/-- A target with its arguments and its options, the options in key order. -/
structure Call where
  target : Parameter
  arguments : List Parameter
  options : List (String × Parameter)
  deriving Inhabited

/-- Whether a call is no more than its target. -/
def Call.isBare (call : Call) : Bool :=
  call.arguments.isEmpty && call.options.isEmpty

/-- An element of a template. Elements come with the position of their tag, except the branches of
a chain of alternatives. -/
inductive Element where
  | text (content : String)
  | comment
  /-- A value or a helper; escaped unless written with three braces or `&`. -/
  | expression (escaped : Bool) (call : Call)
  /-- A helper with a body, names for what it binds, and perhaps an alternative body. -/
  | block (call : Call) (bindings : List String) (body : List (Option Position × Element))
      (inverse : Option (List (Option Position × Element)))
  /-- A decorator, which changes how the rest is rendered. -/
  | decoration (call : Call) (body : Option (List (Option Position × Element)))
  /-- A partial: another template in this place, perhaps with a body of its own. -/
  | insertion (call : Call) (indent : Option String)
      (body : Option (List (Option Position × Element)))
  deriving Inhabited

end Language

/-- A template. -/
abbrev Template := List (Option Language.Position × Language.Element)

/-- Why a source is no template. -/
inductive SyntaxFault where
  | malformed
  /-- A literal that cannot be read. -/
  | unreadable (literal : String)
  /-- A block that is closed by another name; the word tells helpers from decorators. -/
  | mismatched (word opened closed : String) (position : Language.Position)
  deriving DecidableEq, Inhabited

/-- A fault in words. -/
def SyntaxFault.message : SyntaxFault → String
  | malformed => "invalid handlebars syntax"
  | unreadable literal => "invalid parameter " ++ Text.quoted literal
  | mismatched word opened closed position =>
    word ++ " " ++ Text.quoted opened ++ " was opened, but " ++ Text.quoted closed
      ++ " is closing at " ++ toString position.line ++ ":" ++ toString position.column

end LiveTemplates
