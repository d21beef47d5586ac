import Registrar.Number.Decimal

/-!
# The environment

Settings and directories depend on variables of the environment. A directory that a variable names
counts only if its path is absolute.

## Main definitions

* `Environment` — the variables.
* `joinPath` — a path below a directory.
* `Environment.dataDirectory?` — where programs keep their data.
-/

namespace Registrar

/-- Whether a path starts at the root. -/
def isAbsolutePath (path : String) : Bool :=
  path.toList.head? == some '/'

/-- A path below a directory. A path that is absolute stays as it is. -/
def joinPath (directory path : String) : String :=
  if isAbsolutePath path then path
  else if directory.isEmpty || directory.toList.getLast? == some '/' then directory ++ path
  else directory ++ "/" ++ path

/-- What a program finds around it. -/
structure Environment where
  /-- The values of the variables, by their names. -/
  values : List (String × String)
  /-- The home directory that the system knows for the user. -/
  userHome : Option String
deriving Inhabited, Repr

namespace Environment

/-- The value of a variable. -/
def get? (environment : Environment) (name : String) : Option String :=
  environment.values.lookup name

/-- The home directory. -/
def home? (environment : Environment) : Option String :=
  match environment.get? "HOME" with
  | some home => if home.isEmpty then environment.userHome else some home
  | none => environment.userHome

/-- The directory that a variable names, or else one below the home directory. -/
def directory? (environment : Environment) (name belowHome : String) : Option String :=
  match (environment.get? name).filter isAbsolutePath with
  | some directory => some directory
  | none => environment.home?.map fun home => joinPath home belowHome

/-- Where programs keep their data. -/
def dataDirectory? (environment : Environment) : Option String :=
  environment.directory? "XDG_DATA_HOME" ".local/share"

/-- Where programs keep their settings. -/
def settingsDirectory? (environment : Environment) : Option String :=
  environment.directory? "XDG_CONFIG_HOME" ".config"

end Environment

/-- The number that a text of digits with an optional plus sign stands for, if it is below `bound`.
-/
def boundedNat? (bound : Nat) (text : String) : Option Nat :=
  let digits :=
    match text.toList with
    | '+' :: rest => rest
    | rest => rest
  (natOfText? digits).filter fun n => n < bound

end Registrar
