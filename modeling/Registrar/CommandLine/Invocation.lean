import Registrar.CommandLine.Grammar
import Registrar.Version

/-!
# Invocations

What the arguments of the command line ask for: a command with its values, the address of the
service and the format of results.

## Main definitions

* `client` — what the command line accepts.
* `Command`, `Invocation` — what is asked for.
* `Invocation.ofArguments` — reads the arguments.
-/

namespace Registrar

open Arguments in
/-- What the command line accepts. -/
def client : ProgramSpec where
  name := "campus-insight-cli"
  version := version
  about := "Query course-section and room datasets"
  longAbout := "Campus Insight CLI.\n" ++
    "Register section and room datasets, run JSON query trees against them, and rate rooms."
  options := [
    ⟨"api-url", none, .text, "API_URL", "API server URL", some "http://localhost:4321"⟩,
    ⟨"format", some 'f', .text, "FORMAT", "Output format (table, json, csv)", some "table"⟩]
  commands := [
    ⟨"datasets", "List registered datasets", [], []⟩,
    ⟨"add", "Register a dataset from a JSON array of records",
      [⟨"ID", .text, "Dataset id (no underscores)"⟩,
        ⟨"KIND", .text, "Dataset kind (sections, rooms)"⟩,
        ⟨"PATH", .path, "Path to the JSON records file"⟩], []⟩,
    ⟨"remove", "Remove a dataset", [⟨"ID", .text, "Dataset id"⟩], []⟩,
    ⟨"query", "Run a query tree read from a JSON file",
      [⟨"PATH", .path, "Path to the query file (\"-\" for stdin)"⟩], []⟩,
    ⟨"review", "Show the review summary for a room",
      [⟨"ROOM", .text, "Room name, e.g. DMP_110"⟩], []⟩,
    ⟨"rate", "Rate a room between 0 and 5",
      [⟨"ROOM", .text, "Room name"⟩, ⟨"SCORE", .number, "Score"⟩], []⟩,
    ⟨"status", "Show server status", [], []⟩,
    ⟨"config", "Generate default config file", [],
      [⟨"output", some 'o', .path, "OUTPUT", "Output path (default: stdout)", none⟩]⟩]

/-- What can be asked for. -/
inductive Command where
  | datasets
  | add (id kind path : String)
  | remove (id : String)
  /-- A query in a file; a hyphen stands for the standard input. -/
  | query (path : String)
  | review (room : String)
  | rate (room : String) (score : Binary64)
  | status
  /-- The settings document, into a file or onto the standard output. -/
  | config (output : Option String)
deriving DecidableEq, Repr

/-- A command with what all commands take. -/
structure Invocation where
  apiUrl : String
  format : String
  command : Command
deriving DecidableEq, Repr

namespace Command

/-- The command of what is found among the arguments. -/
def ofFound? (found : Arguments.Found) : Option Command :=
  match found.command, found.values with
  | "datasets", [] => some datasets
  | "add", [id, kind, path] => some (add id kind path)
  | "remove", [id] => some (remove id)
  | "query", [path] => some (query path)
  | "review", [room] => some (review room)
  | "rate", [room, score] => (Binary64.ofText? score).map (rate room)
  | "status", [] => some status
  | "config", [] => some (config (found.option? "output"))
  | _, _ => none

end Command

namespace Invocation

/-- What the arguments ask for. -/
def ofArguments (arguments : List String) : Except Arguments.Stop Invocation := do
  let found ← client.read arguments
  match Command.ofFound? found with
  | some command =>
    return ⟨(found.option? "api-url").getD "", (found.option? "format").getD "", command⟩
  | none => throw .misuse

end Invocation

end Registrar
