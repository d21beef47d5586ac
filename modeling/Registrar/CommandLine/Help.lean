import Registrar.CommandLine.Grammar
import Registrar.CommandLine.Report

/-!
# Help texts

The help of a program or a command is made from what it accepts: what it is for, how it is written,
and a line for each command, value and option. At length, options of the program have lines of their
own for what they mean.

## Main definitions

* `ProgramSpec.help` — the help text for a topic.
-/

namespace Registrar

namespace Arguments

/-- Pairs of a term and its meaning, the meanings below each other. -/
def glossary (entries : List (String × String)) : List String :=
  let width := entries.foldl (fun width entry => max width entry.1.length) 0
  entries.map fun entry => "  " ++ Report.padRight width entry.1 ++ "  " ++ entry.2

/-- An option as help texts show it. -/
def OptionSpec.term (spec : OptionSpec) : String :=
  let letter :=
    match spec.short with
    | some letter => String.ofList ['-', letter, ',', ' ']
    | none => "    "
  letter ++ "--" ++ spec.long ++ " <" ++ spec.valueName ++ ">"

/-- What stands in for an option that is not given, as help texts show it. -/
def OptionSpec.defaultNote (spec : OptionSpec) : Option String :=
  spec.default.map fun value => "[default: " ++ value ++ "]"

/-- What an option means, in one line. -/
def OptionSpec.meaning (spec : OptionSpec) : String :=
  match spec.defaultNote with
  | some note => spec.help ++ " " ++ note
  | none => spec.help

/-- The key by which options of the same rank are sorted. -/
def OptionSpec.sortKey (spec : OptionSpec) : String :=
  match spec.short with
  | some letter => String.ofList [letter, '0']
  | none => spec.long

/-- The options of a command: by their places among those of the program and of the command. -/
def CommandSpec.orderedOptions (spec : CommandSpec) (program : ProgramSpec) : List OptionSpec :=
  let ranked := program.options.zipIdx ++ spec.options.zipIdx
  (ranked.mergeSort fun a b =>
    a.2 < b.2 || (a.2 == b.2 && decide (a.1.sortKey ≤ b.1.sortKey))).map Prod.fst

/-- How a command is written. -/
def CommandSpec.usage (spec : CommandSpec) (program : ProgramSpec) : String :=
  " ".intercalate (["Usage:", program.name, spec.name, "[OPTIONS]"] ++
    spec.values.map fun value => "<" ++ value.name ++ ">")

/-- The help text of a command. -/
def CommandSpec.help (spec : CommandSpec) (program : ProgramSpec) : String :=
  let values := spec.values.map fun value => ("<" ++ value.name ++ ">", value.help)
  let options := (spec.orderedOptions program).map (fun option => (option.term, option.meaning)) ++
    [("-h, --help", "Print help")]
  Report.lines ([spec.about, "", spec.usage program] ++
    (if values.isEmpty then [] else "" :: "Arguments:" :: glossary values) ++
    "" :: "Options:" :: glossary options)

namespace ProgramSpec

/-- What the command for help is for. -/
def helpAbout : String :=
  "Print this message or the help of the given subcommand(s)"

/-- The commands with what they are for. -/
def commandLines (program : ProgramSpec) : List String :=
  glossary (program.commands.map (fun spec => (spec.name, spec.about)) ++ [("help", helpAbout)])

/-- The head of the help text of a program. -/
def helpHead (program : ProgramSpec) (about : String) : List String :=
  [about, "", "Usage: " ++ program.name ++ " [OPTIONS] <COMMAND>", "", "Commands:"] ++
    program.commandLines ++ ["", "Options:"]

/-- The help text of a program, in short. -/
def shortHelp (program : ProgramSpec) : String :=
  let options := program.options.map fun option => (option.term, option.meaning)
  Report.lines (program.helpHead program.about ++
    glossary (options ++ [("-h, --help", "Print help (see more with '--help')"),
      ("-V, --version", "Print version")]))

/-- The lines of an option in a help text at length. -/
def longEntry (term : String) (meaning : List String) : List String :=
  ("  " ++ term) :: meaning.map fun line => "          " ++ line

/-- The help text of a program, at length. -/
def longHelp (program : ProgramSpec) : String :=
  let options := program.options.map fun option =>
    longEntry option.term
      (match option.defaultNote with
        | some note => [option.help, "", note]
        | none => [option.help])
  Report.lines (program.helpHead program.longAbout ++
    [""].intercalate (options ++
      [longEntry "-h, --help" ["Print help (see a summary with '-h')"],
        longEntry "-V, --version" ["Print version"]]))

/-- The help text of the command for help. -/
def helpOfHelp (program : ProgramSpec) : String :=
  Report.lines (
    [helpAbout, "", "Usage: " ++ program.name ++ " help [COMMAND]...", "", "Arguments:"] ++
      glossary [("[COMMAND]...", "Print help for the subcommand(s)")])

/-- The help text for a topic. -/
def help (program : ProgramSpec) (topic : HelpTopic) (atLength : Bool) : String :=
  match topic with
  | .program => if atLength then program.longHelp else program.shortHelp
  | .command spec => spec.help program
  | .helpCommand => program.helpOfHelp

end ProgramSpec

end Arguments

end Registrar
