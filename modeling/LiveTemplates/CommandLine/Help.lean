import LiveTemplates.CommandLine.Arguments

set_option autoImplicit false

/-! # Help on the command

The texts that explain the command and its verbs. In a list of options the explanations begin in
one column, two blanks to the right of the longest option. -/

namespace LiveTemplates

namespace CommandLine

/-- The name of the command. -/
def commandName : String := "stencil"

namespace Choice

/-- What an option is for. -/
def purpose : Choice → String
  | config => "Configuration file (TOML, YAML or JSON); STENCIL_* variables override it"
  | root => "Template root, overriding the configuration"
  | logLevel => "Log level: trace, debug, info, warn or error [default: warn]"
  | data => "Render data as inline JSON, or @path to read it from a file"

/-- The word that stands for the value of an option. -/
def placeholder : Choice → String
  | config => "CONFIG"
  | root => "ROOT"
  | logLevel => "LOG_LEVEL"
  | data => "DATA"

/-- How an option is written. -/
def usage (choice : Choice) : String :=
  (match choice.short? with
    | some c => String.ofList ['-', c, ',', ' ']
    | none => "    ")
    ++ "--" ++ choice.long ++ " <" ++ choice.placeholder ++ ">"

end Choice

namespace Verb

/-- What a verb does. -/
def purpose : Verb → String
  | render => "Render a named template to stdout"
  | check => "Compile a named template and report problems"
  | probe => "Report whether a template resource exists"

/-- The argument of a verb as usage texts write it. -/
def argument : Verb → String
  | check => "[NAMES]..."
  | _ => "<NAME>"

end Verb

/-- Lines of terms and explanations, with the explanations in one column. -/
def glossary (entries : List (String × String)) : String :=
  let width := entries.foldl (fun width entry => max width entry.1.length) 0
  String.join (entries.map fun (term, explanation) =>
    "  " ++ term ++ String.ofList (List.replicate (width - term.length + 2) ' ') ++ explanation
      ++ "\n")

/-- The options that can be given at a place, in the order of the help texts. -/
def helpOptions (verb : Option Verb) : List (String × String) :=
  let choices : List Choice :=
    match verb with
    | some .render => [.config, .data, .root, .logLevel]
    | _ => [.config, .root, .logLevel]
  choices.map (fun choice => (choice.usage, choice.purpose))
    ++ [("-h, --help", "Print help")]
    ++ (if verb.isNone then [("-V, --version", "Print version")] else [])

/-- What the word that asks for help does. -/
def helpPurpose : String := "Print this message or the help of the given subcommand(s)"

/-- The verbs with what they do. -/
def helpVerbs : List (String × String) :=
  [Verb.render, .check, .probe].map (fun verb => (verb.word, verb.purpose))
    ++ [(helpWord, helpPurpose)]

/-- The help on the command, or on a verb. -/
def helpText : Option Verb → String
  | none =>
    "Render templates from a template root\n\nUsage: " ++ commandName ++ " [OPTIONS] <COMMAND>\n\n"
      ++ "Commands:\n" ++ glossary helpVerbs ++ "\nOptions:\n" ++ glossary (helpOptions none)
  | some verb =>
    verb.purpose ++ "\n\nUsage: " ++ commandName ++ " " ++ verb.word ++ " [OPTIONS] "
      ++ verb.argument ++ "\n\nArguments:\n  " ++ verb.argument ++ "  \n\nOptions:\n"
      ++ glossary (helpOptions (some verb))

/-- The help on asking for help. -/
def helpOnHelpText : String :=
  helpPurpose ++ "\n\nUsage: " ++ commandName ++ " " ++ helpWord ++ " [COMMAND]...\n\nArguments:\n"
    ++ glossary [("[COMMAND]...", "Print help for the subcommand(s)")]

end CommandLine

end LiveTemplates
