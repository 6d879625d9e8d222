import LiveTemplates.CommandLine.Help
import LiveTemplates.Lifecycle
import LiveTemplates.Symbols.Builtin

set_option autoImplicit false

/-! # Running the command

The command loads its configuration, installs an engine and does what it is asked. What it prints,
what it complains about and its exit code depend on the arguments, the variables and the files
alone. The files that it may look at can be told in advance, up to what the configuration says. -/

namespace LiveTemplates

namespace CommandLine

/-- What comes of a command. -/
structure Outcome where
  code : Nat := 0
  output : String := ""
  /-- What went wrong, in words. -/
  complaint : Option String := none
  /-- The files as they are afterwards. -/
  files : Tree := {}

/-- The configuration that a command asks for: that of a file and the variables, or the default
one, perhaps with another root. -/
def configuration (files : Tree) (environment : List (String × String)) (invocation : Invocation) :
    Except String Configuration := do
  let config ←
    match invocation.config with
    | some path =>
      (Configuration.ofFile files path environment).mapError fun e =>
        "failed to load " ++ path ++ ": " ++ e.message
    | none => .ok {}
  match invocation.root with
  | some root => ({ config with templatePath := root }.build).mapError TemplateError.message
  | none => return config

/-- The text of a file that holds render data. -/
def dataFile (files : Tree) (path : String) : Except String String :=
  match files.read path with
  | .error fault => .error ("failed to read " ++ path ++ ": " ++ fault.message)
  | .ok bytes =>
    (Utf8.decode bytes).mapError fun _ =>
      "failed to read " ++ path ++ ": stream did not contain valid UTF-8"

/-- Render data: nothing in particular, JSON text, or the path of a file with such a text. -/
def renderData (files : Tree) : Option String → Except String Json
  | none => .ok (.object [])
  | some text => do
    let text ←
      match text.toList with
      | '@' :: path => dataFile files (String.ofList path)
      | _ => .ok text
    match Json.parse? text with
    | some data => return data
    | none => throw "render data is not valid JSON"

/-- Compile templates one after the other: what there is to print, and how many failed. -/
def checkAll : Host → Engine → List String → Host × String × Nat
  | host, _, [] => (host, "", 0)
  | host, engine, name :: rest =>
    let (host, outcome) := host.template engine name
    let engine := (host.engine? engine.number).getD engine
    let (line, failed) :=
      match outcome with
      | .ok template =>
        ("ok      " ++ template.name.getD name ++ " (" ++ template.unit.generation.text ++ ")\n", 0)
      | .error e => ("failed  " ++ name ++ ": " ++ e.message ++ "\n", 1)
    let (host, lines, failures) := checkAll host engine rest
    (host, line ++ lines, failed + failures)

/-- Do what a command asks with an engine. -/
def perform (host : Host) (engine : Engine) : Command → Outcome
  | .render name data =>
    match renderData host.world.files data with
    | .error complaint => { code := 1, complaint := some complaint, files := host.world.files }
    | .ok data =>
      let (host, outcome) := host.run engine fun engine world => engine.render world name data
      match outcome with
      | .ok output => { output, files := host.world.files }
      | .error e =>
        { code := 1, complaint := some ("failed to render " ++ name ++ ": " ++ e.message)
          files := host.world.files }
  | .check names =>
    let (host, output, failures) := checkAll host engine names
    if failures = 0 then { output, files := host.world.files }
    else
      { code := 1, output, files := host.world.files
        complaint := some
          (toString failures ++ " of " ++ toString names.length ++ " templates failed") }
  | .probe name =>
    let (_, found) := engine.hasResource host.world name
    if found then { output := name ++ " exists\n", files := host.world.files }
    else { code := 1, complaint := some (name ++ " does not exist"), files := host.world.files }

/-- Run a command that is complete. -/
def runInvocation (files : Tree) (now : Moment) (environment : List (String × String))
    (invocation : Invocation) : Outcome :=
  match configuration files environment invocation with
  | .error complaint => { code := 1, complaint := some complaint, files }
  | .ok config =>
    let host : Host := { providers := Builtin.providers, world := { files, now } }
    match host.install (host.builderOf { config }) with
    | (_, .error e) =>
      { code := 1, files
        complaint := some ("failed to initialize template engine: " ++ e.message) }
    | (host, .ok number) =>
      match host.engine? number with
      | some engine => perform host engine invocation.command
      | none => { files }

/-- Run the command. -/
def run (files : Tree) (now : Moment) (environment : List (String × String))
    (arguments : List String) : Outcome :=
  match read arguments with
  | .run invocation => runInvocation files now environment invocation
  | .help verb => { output := helpText verb, files }
  | .helpOnHelp => { output := helpOnHelpText, files }
  | .version => { output := commandName ++ " " ++ version ++ "\n", files }
  | .misuse => { code := 2, files }

/-! ## Files that matter -/

/-- The names of templates in a command. -/
def Command.names : Command → List String
  | .render name _ => [name]
  | .check names => names
  | .probe name => [name]

/-- The paths at which a configuration may be. -/
def configPaths : Option String → List String
  | some path => path :: FileFormat.extensions.map fun entry => path ++ "." ++ entry.1
  | none => []

/-- The path of the file with render data, if there is one. -/
def dataPaths : Command → List String
  | .render _ (some data) =>
    match data.toList with
    | '@' :: path => [String.ofList path]
    | _ => []
  | _ => []

/-- The paths of templates below the root of a configuration, and the root itself. -/
def templatePaths (config : Configuration) (names : List String) : List String :=
  let root :=
    match config.loader with
    | .filesystem => config.templatePath
    | .external => "/"
  root :: names.filterMap fun name =>
    match Name.canonical name with
    | .ok name => some (Path.join root (Path.relative name))
    | .error _ => none

/-- The paths that a command may look at, as far as the files known so far tell. -/
def paths (files : Tree) (environment : List (String × String)) (arguments : List String) :
    List String :=
  match read arguments with
  | .run invocation =>
    let templates :=
      match configuration files environment invocation with
      | .ok config => templatePaths config invocation.command.names
      | .error _ => []
    configPaths invocation.config ++ dataPaths invocation.command ++ templates
  | _ => []

end CommandLine

end LiveTemplates
