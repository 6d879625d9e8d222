import LiveTemplates.Json.Parser
import LiveTemplates.Language.Template
import LiveTemplates.Text.Cursor

set_option autoImplicit false

/-! # Reading what stands between braces

Names, paths, literals, subexpressions in parentheses, named options and bindings. Tokens may have
blanks between them, except inside a path. A literal is recognised by its outline and then read as
JSON; one that cannot be read makes the whole template unfit, which is noticed only later, so every
reader tells which of its literals is the first that could not be read. -/

namespace LiveTemplates

namespace Language

open Reader

/-- Blanks between tokens. -/
def blanks : Reader Unit := fun cursor =>
  some ((), cursor.skip fun c => c = ' ' || c = '\t' || c = '\n' || c = '\r')

/-- A character of a name. -/
def isNameChar (c : Char) : Bool :=
  c.isAlphanum || c = '_' || c = '$' || c = '-' || 0x80 ≤ c.toNat

/-- A name. -/
def identifier : Reader String :=
  takeWhile1 isNameChar

/-! ## Paths -/

/-- What separates the steps of a path. -/
def pathSeparator : Reader Unit :=
  char '/' <|> char '.'

/-- A step: a name, or anything between brackets. -/
def pathItem : Reader String :=
  identifier <|> do
    char '['
    let name ← takeWhile (· ≠ ']')
    char ']'
    return name

/-- A step after a separator. -/
def pathStep : Reader String := do
  pathSeparator
  pathItem

/-- The variable that a list of steps names, if it begins with the sign of one. -/
def scopedName? : List Segment → Option (Nat × String)
  | .sign :: rest =>
    let level := (rest.takeWhile (· = .up)).length
    match rest.drop level with
    | .key name :: _ => some (level, name)
    | _ => none
  | _ => none

/-- A path. -/
def readPath (fuel : Nat) : Reader Path := do
  let first ← get
  let _ ← optionally ((do exactly ['t', 'h', 'i', 's']; pathSeparator) <|> exactly ['.', '/'])
  let root ← optionally (do exactly ['@', 'r', 'o', 'o', 't']; pathSeparator)
  let sign ← flag '@'
  let ups ← many (do exactly ['.', '.']; pathSeparator) fuel []
  let item ← pathItem
  let items ← many pathStep fuel []
  let last ← get
  let keys := (item :: items).filter (· ≠ "this")
  let segments :=
    (if root.isSome then [.root] else []) ++ (if sign then [.sign] else [])
      ++ ups.map (fun _ => .up) ++ keys.map .key
  let text := String.ofList (first.upTo last)
  match scopedName? segments with
  | some (level, name) => return .atSign level name text
  | none => return .steps segments text

/-! ## Literals -/

/-- A string up to its closing quote; backslash escapes are those of JSON and the quote. -/
def quotedOutline (quote : Char) (fuel : Nat) : Reader Unit := do
  char quote
  let _ ← many (do
    let c ← satisfy (· ≠ quote)
    if c = '\\' then
      let e ← satisfy fun e => e = quote || "\\/bfnrtu".toList.contains e
      if e = 'u' then
        let hex := satisfy fun h => (Json.hexDigit? h).isSome
        let _ ← hex
        let _ ← hex
        let _ ← hex
        let _ ← hex) fuel []
  char quote

/-- A string in either kind of quotes. -/
def stringOutline (fuel : Nat) : Reader Unit :=
  quotedOutline '"' fuel <|> quotedOutline '\'' fuel

/-- A number. -/
def numberOutline : Reader Unit := do
  let _ ← optionally (char '-')
  let _ ← takeWhile1 Char.isDigit
  let _ ← optionally (char '.')
  let _ ← takeWhile Char.isDigit
  let _ ← optionally do
    char 'E'
    let _ ← optionally (char '-')
    takeWhile1 Char.isDigit
  refuse (satisfy isNameChar)

/-- One of the words that are literals. -/
def wordOutline (word : List Char) : Reader Unit := do
  exactly word
  refuse (satisfy isNameChar)

/-- A literal, with arrays and objects of literals. -/
def literalOutline : (fuel : Nat) → Reader Unit
  | 0 => failure
  | fuel + 1 =>
    let literal := literalOutline fuel
    let entry : Reader Unit := do
      stringOutline fuel
      blanks
      char ':'
      blanks
      literal
    let listOf (item : Reader Unit) : Reader Unit := do
      let _ ← optionally (do blanks; item)
      let _ ← many (do blanks; char ','; blanks; item) fuel []
    stringOutline fuel
      <|> (do char '['; listOf literal; blanks; char ']')
      <|> (do char '\x7b'; listOf entry; blanks; char '\x7d')
      <|> numberOutline
      <|> wordOutline ['n', 'u', 'l', 'l']
      <|> wordOutline ['t', 'r', 'u', 'e']
      <|> wordOutline ['f', 'a', 'l', 's', 'e']

/-- Take the backslash from quotes in a text between single quotes, and put one before double
quotes. -/
def requote : List Char → List Char
  | '\\' :: '\'' :: rest => '\'' :: requote rest
  | '"' :: rest => '\\' :: '"' :: requote rest
  | c :: rest => c :: requote rest
  | [] => []

/-- The value of a literal. -/
def literalValue? : List Char → Option Json
  | '\'' :: rest => Json.parse? (String.ofList ('"' :: requote rest.dropLast ++ ['"']))
  | text => Json.parse? (String.ofList text)

/-- A literal, and its text if it could not be read. -/
def readLiteral (fuel : Nat) : Reader (Parameter × Option String) := do
  let text ← spelling (literalOutline fuel)
  match literalValue? text with
  | some value => return (.literal value, none)
  | none => return (.literal .null, some (String.ofList text))

/-! ## Calls -/

/-- What follows the target: arguments and options, and the first literal that could not be read. -/
structure Operands where
  arguments : List Parameter := []
  options : List (String × Parameter) := []
  unread : Option String := none

/-- Whether nothing follows the target. -/
def Operands.isEmpty (operands : Operands) : Bool :=
  operands.arguments.isEmpty && operands.options.isEmpty

/-- One more argument, or one more option if it has a key. -/
def Operands.add (operands : Operands) (key : Option String) (value : Parameter)
    (unread : Option String) : Operands :=
  match key with
  | none =>
    { operands with
      arguments := operands.arguments ++ [value], unread := operands.unread.or unread }
  | some key =>
    { operands with
      options := Dictionary.insert key value operands.options, unread := operands.unread.or unread }

/-- A word that cannot be an argument. -/
def keyword : Reader Unit := do
  exactly ['a', 's'] <|> exactly ['e', 'l', 's', 'e']
  blanks
  refuse (satisfy isNameChar)

mutual

/-- An argument. -/
def readArgument : (fuel : Nat) → Reader (Parameter × Option String)
  | 0 => failure
  | fuel + 1 => do
    refuse keyword
    readLiteral fuel
      <|> (do return (.path (← readPath fuel), none))
      <|> readSubexpression fuel

/-- A call in parentheses. -/
def readSubexpression : (fuel : Nat) → Reader (Parameter × Option String)
  | 0 => failure
  | fuel + 1 => do
    char '('
    blanks
    let result ← (do
        let name ← identifier
        let operands ← readOperands fuel {}
        if operands.isEmpty then failure
        return (Parameter.call (.name name) operands.arguments operands.options, operands.unread))
      <|> (do return (Parameter.call (.path (← readPath fuel)) [] [], none))
    blanks
    char ')'
    return result

/-- Arguments and options as long as there are any, added to those before. -/
def readOperands : (fuel : Nat) → Operands → Reader Operands
  | 0, operands => pure operands
  | fuel + 1, operands => do
    let key ← optionally (do
      blanks
      let key ← identifier
      blanks
      char '='
      blanks
      let (value, unread) ← readArgument fuel
      return (key, value, unread))
    match key with
    | some (key, value, unread) => readOperands fuel (operands.add (some key) value unread)
    | none =>
      match ← optionally (do blanks; readArgument fuel) with
      | some (value, unread) => readOperands fuel (operands.add none value unread)
      | none => return operands

end

/-- A call with the names it binds, and the first of its literals that could not
be read. -/
structure Head where
  call : Call
  bindings : List String := []
  unread : Option String := none
  deriving Inhabited

/-- A path or a subexpression as a target. -/
def readTarget (fuel : Nat) : Reader (Parameter × Option String) :=
  readSubexpression fuel <|> (do return (.path (← readPath fuel), none))

/-- A target alone. -/
def readBare (fuel : Nat) : Reader Head := do
  let (target, unread) ← readTarget fuel
  return { call := ⟨target, [], []⟩, unread }

/-- A name with operands, or a target alone. -/
def readCall (fuel : Nat) : Reader Head :=
  (do
    let name ← identifier
    let operands ← readOperands fuel {}
    if operands.isEmpty then failure
    return { call := ⟨.name name, operands.arguments, operands.options⟩,
             unread := operands.unread })
  <|> readBare fuel

/-- One or two names between bars after the word `as`. -/
def readBindings : Reader (List String) := do
  exactly ['a', 's']
  blanks
  char '|'
  blanks
  let first ← identifier
  blanks
  let second ← optionally identifier
  blanks
  char '|'
  return first :: second.toList

/-- A name with operands and bindings. -/
def readBlockHead (fuel : Nat) : Reader Head := do
  let name ← identifier
  let operands ← readOperands fuel {}
  blanks
  let bindings ← optionally readBindings
  return { call := ⟨.name name, operands.arguments, operands.options⟩,
           bindings := bindings.getD [], unread := operands.unread }

/-- A character of the name of a partial. -/
def isPartialNameChar (c : Char) : Bool :=
  (isNameChar c && c ≠ '$') || c = '/' || c = '.'

/-- The name of a partial: a word that may hold slashes and dots but no dollar sign, or a text in
single quotes, which may hold quotes after backslashes. -/
def partialName (fuel : Nat) : Reader String :=
  takeWhile1 isPartialNameChar <|> do
    let text ← spelling (do
      refuse (exactly ['\'', '\''])
      char '\''
      let _ ← many (exactly ['\\', '\''] <|> do let _ ← satisfy (· ≠ '\'')) fuel []
      char '\'')
    return String.ofList text

/-- A partial with its operands. -/
def readPartialHead (fuel : Nat) : Reader Head := do
  let (target, unread) ← (do return (Parameter.name (← partialName fuel), none)) <|> readTarget fuel
  let operands ← readOperands fuel {}
  return { call := ⟨target, operands.arguments, operands.options⟩,
           unread := unread.or operands.unread }

end Language

end LiveTemplates
