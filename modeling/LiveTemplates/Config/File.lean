import LiveTemplates.Config.Environment
import LiveTemplates.Config.Ini
import LiveTemplates.Config.Toml
import LiveTemplates.Config.Yaml
import LiveTemplates.Files.Tree

set_option autoImplicit false

/-! # Configurations from files

The extension of a file tells its format. A file that is missing is looked for under its name with
each known extension added, and where none is found, or the format is not known, or the file is no
text, there are simply no settings. What a file holds has to be a table. Settings of the environment
are laid over those of the file. -/

namespace LiveTemplates

/-- The formats of configuration files. -/
inductive FileFormat where
  | toml
  | json
  | yaml
  | ini
  deriving DecidableEq, Inhabited

namespace Setting

mutual

/-- The setting that a JSON value is. -/
def ofJson (origin : Option String) : Json → Setting
  | .null => .scalar origin .nothing
  | .bool b => .scalar origin (.bool b)
  | .number n =>
    match n, n.asInt? with
    | _, some i => .scalar origin (.whole i)
    | .whole i, none => .scalar origin (.real (.ofInt i))
    | .double x, none => .scalar origin (.real x)
  | .string s => .scalar origin (.text s)
  | .array items => .list origin (ofItems origin items)
  | .object fields => .table origin (ofFields origin fields)

/-- The settings that the items of an array are. -/
def ofItems (origin : Option String) : List Json → List Setting
  | [] => []
  | item :: rest => ofJson origin item :: ofItems origin rest

/-- The settings that the fields of an object are. -/
def ofFields (origin : Option String) : List (String × Json) → List (String × Setting)
  | [] => []
  | (key, value) :: rest => (key, ofJson origin value) :: ofFields origin rest

end

end Setting

namespace FileFormat

/-- The extensions of all formats. -/
def extensions : List (String × FileFormat) :=
  [("toml", toml), ("json", json), ("yaml", yaml), ("yml", yaml), ("ini", ini)]

/-- The format of a file by its name. -/
def ofPath? (path : String) : Option FileFormat :=
  (Path.extension? path).bind fun extension => Assoc.find? extension extensions

/-- What a text holds; none if the text does not follow the rules of the format. -/
def read? (format : FileFormat) (origin : Option String) (text : String) : Option Setting :=
  match format with
  | toml => Toml.parse? origin text
  | yaml => Yaml.parse? origin text
  | ini => Ini.parse? origin text
  | json => (Json.parse? text).map (Setting.ofJson origin)

end FileFormat

namespace Configuration

/-- The file that a path names, perhaps with an extension added, and its format. -/
def findFile? (tree : Tree) (path : String) : Option (String × FileFormat) :=
  if tree.isFile path then (FileFormat.ofPath? path).map fun format => (path, format)
  else
    (FileFormat.extensions.map fun (extension, format) => (path ++ "." ++ extension, format)).find?
      fun candidate => tree.isFile candidate.1

/-- One list of names as seen from another: up to where they part and down again. -/
def seenFrom : (base names : List String) → List String
  | b :: base, name :: names =>
    if b = name then seenFrom base names
    else List.replicate (base.length + 1) ".." ++ name :: names
  | base, names => List.replicate base.length ".." ++ names

/-- How messages call a file: by the way to it from the folder that is open. -/
def displayPath (tree : Tree) (path : String) : String :=
  "/".intercalate (seenFrom tree.start (tree.origin path ++ Path.components path))

/-- The settings of the file that a path names. -/
def fileSettings (tree : Tree) (path : String) :
    Except ConfigFault (List (String × Setting)) :=
  match findFile? tree path with
  | none => .ok []
  | some (path, format) =>
    match (tree.read path).toOption.bind fun bytes => (Utf8.decode bytes).toOption with
    | none => .ok []
    | some text =>
      let file := displayPath tree path
      match format.read? (some file) text with
      | some (.table _ entries) => .ok entries
      | some setting => .error (setting.notTable file)
      | none => .error .unreadable

/-- The settings of a file with those of the environment laid over them, unchecked. -/
def readSettings (tree : Tree) (path : String) (environment : List (String × String)) :
    Except ConfigFault Configuration := do
  let fromFile ← fileSettings tree path
  let settings := (Setting.empty.overlay fromFile).overlay (Environment.settings environment)
  Setting.takeAll {} settings.entries

/-- The configuration of a file and the environment. -/
def ofFile (tree : Tree) (path : String) (environment : List (String × String)) :
    Except TemplateError Configuration := do
  let config ← (readSettings tree path environment).mapError .config
  config.build

end Configuration

end LiveTemplates
