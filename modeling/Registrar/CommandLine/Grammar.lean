import Registrar.Number.Reading

/-!
# Arguments

A command line is a list of arguments: options with values and the name of a command, then the
options and the values that the command takes. Options are written `--name value`, `--name=value`,
`-n value`, `-nvalue` or `-n=value`. After `--` every argument is a value. Some options may stand
before the name of the command or after it; one after it wins.

An argument that asks for help is answered at once, unless one before it was wrong.

## Main definitions

* `ValueKind`, `OptionSpec`, `ValueSpec`, `CommandSpec`, `ProgramSpec` — what a program accepts.
* `ProgramSpec.read` — reads a command line.
-/

namespace Registrar

namespace Arguments

/-! ### What a program accepts -/

/-- Which texts a value may be. -/
inductive ValueKind where
  | text
  /-- A path, which is not empty. -/
  | path
  | number
deriving DecidableEq, Repr

/-- Whether a text is a value of the kind. -/
def ValueKind.accepts (kind : ValueKind) (text : String) : Bool :=
  match kind with
  | .text => true
  | .path => !text.isEmpty
  | .number => (Binary64.ofText? text).isSome

/-- An option with a value. -/
structure OptionSpec where
  /-- The name after two hyphens. -/
  long : String
  /-- The letter after one hyphen. -/
  short : Option Char
  kind : ValueKind
  /-- The name of the value in help texts. -/
  valueName : String
  help : String
  /-- The value if the option is not given. -/
  default : Option String
deriving DecidableEq, Repr

/-- A value that stands by itself. -/
structure ValueSpec where
  /-- The name of the value in help texts. -/
  name : String
  kind : ValueKind
  help : String
deriving DecidableEq, Repr

/-- A command with the values and the options that only it takes. -/
structure CommandSpec where
  name : String
  about : String
  values : List ValueSpec
  options : List OptionSpec
deriving DecidableEq, Repr

/-- A program with the options that all its commands take. -/
structure ProgramSpec where
  name : String
  version : String
  about : String
  longAbout : String
  options : List OptionSpec
  commands : List CommandSpec
deriving DecidableEq, Repr

/-! ### What is found -/

/-- Whose help is asked for. -/
inductive HelpTopic where
  | program
  | command (spec : CommandSpec)
  | helpCommand
deriving DecidableEq, Repr

/-- Why the reading of arguments ends early. -/
inductive Stop where
  /-- An argument is wrong or missing. -/
  | misuse
  /-- Help is asked for, in short or at length. -/
  | help (topic : HelpTopic) (atLength : Bool)
  | version
deriving DecidableEq, Repr

/-- The values that are given for options, by their long names. -/
abbrev Given := List (String × String)

/-- The options and values that are given. -/
structure Found where
  command : String
  values : List String
  given : Given
deriving DecidableEq, Repr

/-- The value of an option. -/
def Found.option? (found : Found) (long : String) : Option String :=
  found.given.lookup long

/-! ### Options -/

/-- An argument that starts with a hyphen. -/
inductive Flag where
  /-- A name after two hyphens, and what follows an equals sign. -/
  | long (name : String) (attached : Option String)
  /-- Letters after one hyphen. -/
  | short (letters : List Char)
deriving DecidableEq, Repr

/-- An argument as a flag, if it is one. A single hyphen is none. -/
def flag? (argument : String) : Option Flag :=
  match argument.toList with
  | '-' :: '-' :: rest =>
    let name := String.ofList (rest.takeWhile (· != '='))
    match rest.dropWhile (· != '=') with
    | [] => some (.long name none)
    | _ :: value => some (.long name (some (String.ofList value)))
  | '-' :: letter :: letters => some (.short (letter :: letters))
  | _ => none

/-- Adds the value of an option. An option is given once, with a value it takes. -/
def give (spec : OptionSpec) (value : String) (given : Given) : Except Stop Given :=
  if (given.lookup spec.long).isSome || !spec.kind.accepts value then .error .misuse
  else .ok (given ++ [(spec.long, value)])

/-- The option that a flag names, with the value that is attached to it. -/
def optionOf? (options : List OptionSpec) : Flag → Option (OptionSpec × Option String)
  | .long name attached => (options.find? fun spec => spec.long == name).map (·, attached)
  | .short [] => none
  | .short (letter :: rest) =>
    (options.find? fun spec => spec.short == some letter).map fun spec =>
      match rest with
      | [] => (spec, none)
      | '=' :: value => (spec, some (String.ofList value))
      | value => (spec, some (String.ofList value))

/-- The end that a flag asks for, if it is no option: help for the topic, or the version if
`versioned`. -/
def stopOf (topic : HelpTopic) (versioned : Bool) : Flag → Stop
  | .long "help" none => .help topic true
  | .long "version" none => if versioned then .version else .misuse
  | .short ('h' :: _) => .help topic false
  | .short ('V' :: _) => if versioned then .version else .misuse
  | _ => .misuse

/-- Reads a flag and the value of its option, which is attached to it or the next argument. -/
def readFlag (topic : HelpTopic) (versioned : Bool) (options : List OptionSpec) (flag : Flag)
    (arguments : List String) (given : Given) : Except Stop (List String × Given) :=
  match optionOf? options flag with
  | none => .error (stopOf topic versioned flag)
  | some (spec, some value) => (give spec value given).map (arguments, ·)
  | some (spec, none) =>
    match arguments with
    | [] => .error .misuse
    | value :: rest =>
      if (flag? value).isSome then .error .misuse else (give spec value given).map (rest, ·)

/-! ### Levels -/

/-- Reads the arguments of a command: its values are the arguments that are no flags. -/
def readCommand (spec : CommandSpec) (options : List OptionSpec) :
    Nat → List String → List String → Given → Except Stop (List String × Given)
  | 0, _, _, _ => .error .misuse
  | _ + 1, [], values, given => .ok (values, given)
  | fuel + 1, argument :: rest, values, given =>
    if argument = "--" then do return (← rest.foldlM takeValue values, given)
    else
      match flag? argument with
      | some flag => do
        let (rest, given) ← readFlag (.command spec) false options flag rest given
        readCommand spec options fuel rest values given
      | none => do readCommand spec options fuel rest (← takeValue values argument) given
where
  /-- Adds one more value, if the command takes it. -/
  takeValue (values : List String) (value : String) : Except Stop (List String) :=
    match spec.values[values.length]? with
    | some expected =>
      if expected.kind.accepts value then .ok (values ++ [value]) else .error .misuse
    | none => .error .misuse

/-- Options that are given after the name of a command win over those before it. -/
def mergeGiven (outer inner : Given) : Given :=
  inner ++ outer.filter fun option => (inner.lookup option.1).isNone

namespace ProgramSpec

/-- The topic of the help command, which may name one command. -/
def helpTopic (program : ProgramSpec) : List String → Except Stop HelpTopic
  | [] => .ok .program
  | ["help"] => .ok .helpCommand
  | [name] =>
    match program.commands.find? fun spec => spec.name == name with
    | some spec => .ok (.command spec)
    | none => .error .misuse
  | _ => .error .misuse

/-- The values of options that are not given. -/
def defaults (program : ProgramSpec) : Given :=
  program.options.filterMap fun spec => spec.default.map (spec.long, ·)

/-- Reads arguments up to the name of the command, and then those of the command. -/
def readFrom (program : ProgramSpec) : Nat → List String → Given → Except Stop Found
  | 0, _, _ => .error .misuse
  | _ + 1, [], _ => .error .misuse
  | fuel + 1, argument :: rest, given =>
    match program.commands.find? fun spec => spec.name == argument with
    | some spec => do
      let (values, inner) ←
        readCommand spec (program.options ++ spec.options) (rest.length + 1) rest [] []
      if values.length < spec.values.length then throw .misuse
      return ⟨spec.name, values, mergeGiven (mergeGiven program.defaults given) inner⟩
    | none =>
      if argument = "help" then do throw (.help (← program.helpTopic rest) true)
      else
        match flag? argument with
        | some flag => do
          let (rest, given) ← readFlag .program true program.options flag rest given
          readFrom program fuel rest given
        | none => .error .misuse

/-- Reads a command line. -/
def read (program : ProgramSpec) (arguments : List String) : Except Stop Found :=
  program.readFrom (arguments.length + 1) arguments []

end ProgramSpec

end Arguments

end Registrar
