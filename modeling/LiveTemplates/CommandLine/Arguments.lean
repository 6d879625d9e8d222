import LiveTemplates.Assoc
import LiveTemplates.Text.Blank

set_option autoImplicit false

/-! # Arguments of the command

The command has three verbs with arguments of their own, and options that may stand before or after
the verb. An option takes a value, which follows as the next argument or is attached to it. An
option may be given once before the verb and once after it, and the later counts. Two dashes end
the options. Arguments are read one by one, so the first that cannot be right decides. -/

namespace LiveTemplates

namespace CommandLine

/-- What can be asked for. -/
inductive Verb where
  | render
  | check
  | probe
  deriving DecidableEq, Inhabited

/-- The word for a verb. -/
def Verb.word : Verb → String
  | .render => "render"
  | .check => "check"
  | .probe => "exists"

/-- The verb of a word. -/
def Verb.ofWord? (word : String) : Option Verb :=
  [Verb.render, .check, .probe].find? fun verb => verb.word = word

/-- How many arguments a verb can take; none if any number. -/
def Verb.room : Verb → Option Nat
  | .check => none
  | _ => some 1

/-- The options with a value. -/
inductive Choice where
  | config
  | root
  | logLevel
  | data
  deriving DecidableEq, Inhabited

namespace Choice

/-- The long name of an option. -/
def long : Choice → String
  | config => "config"
  | root => "root"
  | logLevel => "log-level"
  | data => "data"

/-- The short name of an option. -/
def short? : Choice → Option Char
  | config => some 'c'
  | root => some 'r'
  | logLevel => none
  | data => some 'd'

/-- The options that can be given at a place: before the verb, or after it. -/
def allowed (verb : Option Verb) : List Choice :=
  [config, root, logLevel] ++ (if verb = some .render then [data] else [])

/-- Whether an option takes a value. Paths must not be empty. -/
def accepts (choice : Choice) (value : String) : Bool :=
  match choice with
  | config | root => !value.isEmpty
  | logLevel | data => true

end Choice

/-- A command that is complete. -/
inductive Command where
  | render (name : String) (data : Option String)
  | check (names : List String)
  | probe (name : String)
  deriving DecidableEq, Inhabited

/-- What to do, and with which configuration. -/
structure Invocation where
  config : Option String
  root : Option String
  command : Command
  deriving DecidableEq, Inhabited

/-- What arguments ask for. -/
inductive Request where
  | run (invocation : Invocation)
  /-- Help on the command, or on a verb. -/
  | help (verb : Option Verb)
  /-- Help on asking for help. -/
  | helpOnHelp
  | version
  /-- The arguments cannot be understood. -/
  | misuse
  deriving DecidableEq, Inhabited

/-- How far the arguments have been read. -/
structure Reading where
  verb : Option Verb := none
  /-- Options given before the verb. -/
  outer : List (Choice × String) := []
  /-- Options given after the verb, or before it while there is none. -/
  inner : List (Choice × String) := []
  /-- An option whose value has to follow. -/
  pending : Option Choice := none
  /-- Arguments of the verb, last one first. -/
  names : List String := []
  /-- Whether the options have ended. -/
  ended : Bool := false
  deriving Inhabited

namespace Reading

/-- Give an option its value. -/
def give (reading : Reading) (choice : Choice) (value : String) : Except Request Reading :=
  if !choice.accepts value || (Assoc.find? choice reading.inner).isSome then .error .misuse
  else .ok { reading with inner := (choice, value) :: reading.inner, pending := none }

/-- Read the long name of an option, perhaps with its value. -/
def long (reading : Reading) (name : String) (value : Option String) : Except Request Reading :=
  if reading.pending.isSome then .error .misuse
  else if name = "help" then .error (if value.isSome then .misuse else .help reading.verb)
  else if name = "version" ∧ reading.verb.isNone then
    .error (if value.isSome then .misuse else .version)
  else
    match (Choice.allowed reading.verb).find? fun choice => choice.long = name, value with
    | some choice, some value => reading.give choice value
    | some choice, none =>
      if (Assoc.find? choice reading.inner).isSome then .error .misuse
      else .ok { reading with pending := some choice }
    | none, _ => .error .misuse

/-- Read the short name of an option, perhaps with its value. -/
def short (reading : Reading) (name : Char) (rest : List Char) : Except Request Reading :=
  if reading.pending.isSome then .error .misuse
  else if name = 'h' then .error (.help reading.verb)
  else if name = 'V' ∧ reading.verb.isNone then .error .version
  else
    match (Choice.allowed reading.verb).find? fun choice => choice.short? = some name, rest with
    | some choice, [] => reading.long choice.long none
    | some choice, '=' :: value => reading.give choice (String.ofList value)
    | some choice, value => reading.give choice (String.ofList value)
    | none, _ => .error .misuse

/-- Read an argument of the verb. -/
def name (reading : Reading) (verb : Verb) (text : String) : Except Request Reading :=
  match verb.room with
  | some room =>
    if reading.names.length < room then .ok { reading with names := text :: reading.names }
    else .error .misuse
  | none => .ok { reading with names := text :: reading.names }

/-- Read an argument that is no option: the value of one, a verb, or an argument of the verb. -/
def plain (reading : Reading) (text : String) : Except Request Reading :=
  match reading.pending, reading.verb with
  | some choice, _ => reading.give choice text
  | none, some verb => reading.name verb text
  | none, none =>
    match Verb.ofWord? text with
    | some verb =>
      if reading.ended then .error .misuse
      else .ok { verb := some verb, outer := reading.inner }
    | none => .error .misuse

/-- Read an argument. -/
def argument (reading : Reading) (text : String) : Except Request Reading :=
  if reading.ended then reading.plain text
  else
    match text.toList with
    | ['-', '-'] =>
      if reading.pending.isSome then .error .misuse else .ok { reading with ended := true }
    | '-' :: '-' :: body =>
      let name := String.ofList (body.takeWhile (· ≠ '='))
      match body.dropWhile (· ≠ '=') with
      | [] => reading.long name none
      | _ :: value => reading.long name (some (String.ofList value))
    | '-' :: name :: rest => reading.short name rest
    | _ => reading.plain text

/-- The value of an option: that after the verb, else that before it. -/
def value? (reading : Reading) (choice : Choice) : Option String :=
  (Assoc.find? choice reading.inner).or (Assoc.find? choice reading.outer)

/-- What has been asked for when all arguments are read. -/
def request (reading : Reading) : Request :=
  let run (command : Command) : Request :=
    .run { config := reading.value? .config, root := reading.value? .root, command }
  if reading.pending.isSome then .misuse
  else
    match reading.verb, reading.names with
    | some .render, [name] => run (.render name (reading.value? .data))
    | some .probe, [name] => run (.probe name)
    | some .check, names => run (.check names.reverse)
    | _, _ => .misuse

end Reading

/-- The word that asks for help. -/
def helpWord : String := "help"

/-- Help on the verb that a word names. -/
def helpOn : List String → Request
  | [] => .help none
  | [word] =>
    if word = helpWord then .helpOnHelp
    else
      match Verb.ofWord? word with
      | some verb => .help (some verb)
      | none => .misuse
  | _ => .misuse

/-- Read arguments from some point on. -/
def readFrom : Reading → List String → Request
  | reading, [] => reading.request
  | reading, text :: rest =>
    if text = helpWord ∧ reading.verb.isNone ∧ reading.pending.isNone ∧ !reading.ended then
      helpOn rest
    else
      match reading.argument text with
      | .ok reading => readFrom reading rest
      | .error request => request

/-- What arguments ask for. -/
def read (arguments : List String) : Request :=
  readFrom {} arguments

end CommandLine

end LiveTemplates
