import LiveTemplates.Config.Json
import LiveTemplates.Text.Case

set_option autoImplicit false

/-! # Settings as they stand in files

A setting is a scalar, a list or a table, and knows where it came from. Files and the environment
are laid over one another key by key: a table is merged into the table below it, anything else
takes its place. Capitals in keys do not count, and a key may be a path of names and indices. Texts
and truth values are taken leniently: a number or a truth value is as good as its text, and a text
may stand for a truth value. -/

namespace LiveTemplates

/-- A setting without parts. -/
inductive Scalar where
  | nothing
  | bool (value : Bool)
  | whole (value : Int)
  | real (value : Double)
  | text (value : String)
  deriving DecidableEq, Inhabited

/-- A setting and where it came from. -/
inductive Setting where
  | scalar (origin : Option String) (value : Scalar)
  | list (origin : Option String) (items : List Setting)
  | table (origin : Option String) (entries : List (String × Setting))
  deriving Inhabited

namespace Setting

/-- The table without entries. -/
def empty : Setting := .table none []

/-- The setting that is not there. -/
def missing : Setting := .scalar none .nothing

/-- The entries of a table; none for all else. -/
def entries : Setting → List (String × Setting)
  | table _ entries => entries
  | _ => []

/-- The items of a list; none for all else. -/
def items : Setting → List Setting
  | list _ items => items
  | _ => []

/-- Where a setting came from. -/
def origin : Setting → Option String
  | scalar origin _ => origin
  | list origin _ => origin
  | table origin _ => origin

/-- Where a table came from; what is no table gives way to a table that came from nowhere. -/
def tableOrigin : Setting → Option String
  | table origin _ => origin
  | _ => none

/-- Where a list came from; what is no list gives way to a list that came from nowhere. -/
def listOrigin : Setting → Option String
  | list origin _ => origin
  | _ => none

/-! ## Laying over -/

/-- A step of a key that is a path. -/
inductive Step where
  | name (name : String)
  | index (index : Int)
  deriving DecidableEq, Inhabited

/-- A character of a name in a path. -/
def isStepChar (c : Char) : Bool :=
  c.isAlphanum || c = '_' || c = '-' || c = ' '

/-- The steps after the first name of a path. -/
def readSteps? : (fuel : Nat) → List Char → Option (List Step)
  | 0, _ => none
  | _ + 1, [] => some []
  | fuel + 1, '.' :: rest =>
    let name := rest.takeWhile isStepChar
    if name.isEmpty then none
    else (readSteps? fuel (rest.dropWhile isStepChar)).map (.name (String.ofList name) :: ·)
  | fuel + 1, '[' :: rest =>
    let rest := rest.dropWhile fun c => c = ' ' || c = '\t'
    let (negative, rest) :=
      match rest with
      | '-' :: rest => (true, rest)
      | rest => (false, rest)
    let digits := rest.takeWhile Char.isDigit
    let n : Int := digits.foldl (fun (n : Int) c => 10 * n + (c.toNat - '0'.toNat : Nat)) 0
    let index := if negative then -n else n
    match (rest.dropWhile Char.isDigit).dropWhile fun c => c = ' ' || c = '\t' with
    | ']' :: rest =>
      if digits.isEmpty || (Number.whole index).asInt?.isNone then none
      else (readSteps? fuel rest).map (.index index :: ·)
    | _ => none
  | _ + 1, _ => none

/-- The path that a key is; a key that is no path is one name. -/
def readPath (key : String) : List Step :=
  let cs := key.toList
  let name := cs.takeWhile isStepChar
  let rest := cs.dropWhile isStepChar
  if name.isEmpty then [.name key]
  else
    match readSteps? (rest.length + 1) rest with
    | some steps => .name (String.ofList name) :: steps
    | none => [.name key]

mutual

/-- Put a setting under a name of a table. A table is laid over what is there, anything else takes
its place. -/
def put (name : String) (below : Setting) : Setting → Setting
  | .table _ incoming =>
    let key := Text.lower name
    .table below.tableOrigin (Dictionary.insert key
      (putAll ((Dictionary.find? key below.entries).getD empty) incoming) below.entries)
  | value => .table below.tableOrigin (Dictionary.insert (Text.lower name) value below.entries)

/-- Put entries into a table. -/
def putAll (below : Setting) : List (String × Setting) → Setting
  | [] => below
  | (name, value) :: rest => putAll (put name below value) rest

end

/-- Put a setting where a path leads. Tables and lists on the way are made if they are missing. -/
def assign (value : Setting) : List Step → Setting → Setting
  | [], _ => value
  | [.name name], below => put name below value
  | .name name :: rest, below =>
    let key := Text.lower name
    .table below.tableOrigin (Dictionary.insert key
      (assign value rest ((Dictionary.find? key below.entries).getD missing)) below.entries)
  | .index index :: rest, below =>
    let items := below.items
    let place := if 0 ≤ index then index.toNat else (items.length - index.natAbs)
    let items := items ++ List.replicate (place + 1 - items.length) missing
    .list below.listOrigin (items.modify place (assign value rest))

/-- Lay the entries of a source over a table. -/
def overlay (below : Setting) (source : List (String × Setting)) : Setting :=
  source.foldl (fun below (key, value) => assign value (readPath key) below) below

/-! ## Taking settings -/

/-- A double with a point, if it is finite. -/
def pointed (x : Double) : String :=
  let text := x.plainText
  if !x.isFinite || text.contains '.' then text else text ++ ".0"

/-- What a setting is, in words. -/
def found : Setting → String
  | scalar _ .nothing => "unit value"
  | scalar _ (.bool b) => JsonFault.found (.bool b)
  | scalar _ (.whole i) => JsonFault.found (.number (.whole i))
  | scalar _ (.real x) => "floating point " ++ "`" ++ pointed x ++ "`"
  | scalar _ (.text s) => JsonFault.found (.string s)
  | list _ _ => "sequence"
  | table _ _ => "map"

/-- What a setting is, in words that tell the width of whole numbers and write numbers plainly. -/
def foundPlain : Setting → String
  | scalar _ (.whole i) => "64-bit integer " ++ "`" ++ toString i ++ "`"
  | scalar _ (.real x) => "floating point " ++ "`" ++ x.plainText ++ "`"
  | setting => setting.found

/-- The fault of a file whose whole content is no table. -/
def notTable (setting : Setting) (file : String) : ConfigFault :=
  .unfit ("invalid type: " ++ setting.foundPlain ++ ", expected a map in " ++ file ++ " in " ++ file)

/-- The fault of a setting of the wrong type, with its key and where it came from. -/
def wrongType (setting : Setting) (expected key : String) : ConfigFault :=
  .unfit ("invalid type: " ++ setting.found ++ ", expected " ++ expected ++ " for key " ++ "`"
    ++ key ++ "`"
    ++ (match setting.origin with
      | some origin => " in " ++ origin
      | none => ""))

/-- The text of a scalar. -/
def toText (key : String) (setting : Setting) : Except ConfigFault String :=
  match setting with
  | .scalar _ (.text s) => .ok s
  | .scalar _ (.bool b) => .ok (toString b)
  | .scalar _ (.whole i) => .ok (toString i)
  | .scalar _ (.real x) => .ok x.plainText
  | setting => .error (setting.wrongType "a string" key)

/-- The truth value of a scalar. -/
def toTruth (key : String) (setting : Setting) : Except ConfigFault Bool :=
  match setting with
  | .scalar _ (.bool b) => .ok b
  | .scalar _ (.whole i) => .ok (i ≠ 0)
  | .scalar _ (.real x) => .ok !x.isZero
  | .scalar origin (.text s) =>
    let word := Text.lower s
    if ["1", "true", "on", "yes"].contains word then .ok true
    else if ["0", "false", "off", "no"].contains word then .ok false
    else .error ((Setting.scalar origin (.text word)).wrongType "a boolean" key)
  | setting => .error (setting.wrongType "a boolean" key)

/-- The texts of the items of a list. -/
def toTexts (key : String) (setting : Setting) : Except ConfigFault (List String) :=
  match setting with
  | .list _ items =>
    (items.zipIdx).mapM fun (item, index) => item.toText (key ++ "[" ++ toString index ++ "]")
  | setting => .error (.unfit ("invalid type: " ++ setting.found ++ ", expected a sequence"))

/-- The kind of loader that a word stands for, in any mixture of capitals. -/
def loaderOfWord (word : String) : Except ConfigFault LoaderKind :=
  match Text.lower word with
  | "filesystem" => .ok .filesystem
  | "external" => .ok .external
  | _ => .error (.unfit ("enum LoaderKind does not have variant constructor " ++ word))

/-- The kind of loader of a setting: a text, or a table with one key. -/
def toLoader (setting : Setting) : Except ConfigFault LoaderKind :=
  match setting with
  | .scalar _ (.text word) => loaderOfWord word
  | .table _ [(word, _)] => loaderOfWord word
  | _ => .error (.unfit ("value of enum LoaderKind should be represented by either string or "
      ++ "table with exactly one key"))

/-- The configuration with one setting taken. -/
def take (config : Configuration) (key : String) (value : Setting) :
    Except ConfigFault Configuration :=
  match key with
  | "template_path" =>
    (value.toText key).map fun templatePath => { config with templatePath }
  | "input_encoding" =>
    (value.toText key).map fun inputEncoding => { config with inputEncoding }
  | "template_reloadable" => (value.toTruth key).map fun reloadable => { config with reloadable }
  | "compile_path" =>
    match value with
    | .scalar _ .nothing => .ok { config with compilePath := none }
    | value => (value.toText key).map fun path => { config with compilePath := some path }
  | "template_loader" => value.toLoader.map fun loader => { config with loader }
  | "import_packages" => (value.toTexts key).map fun packages => { config with packages }
  | "import_classes" => (value.toTexts key).map fun classes => { config with classes }
  | "import_methods" => (value.toTexts key).map fun methods => { config with methods }
  | "import_functions" => (value.toTexts key).map fun functions => { config with functions }
  | "import_tags" => (value.toTexts key).map fun tags => { config with tags }
  | "import_variables" => (value.toTexts key).map fun globals => { config with globals }
  | "import_autoscan" => (value.toTruth key).map fun autoscan => { config with autoscan }
  | "import_autoscan_packages" =>
    (value.toTexts key).map fun autoscanPackages => { config with autoscanPackages }
  | _ => .ok config

/-- The configuration with several settings taken. -/
def takeAll : Configuration → List (String × Setting) → Except ConfigFault Configuration
  | config, [] => .ok config
  | config, (key, value) :: rest =>
    match take config key value with
    | .ok config => takeAll config rest
    | .error fault => .error fault

end Setting

end LiveTemplates
