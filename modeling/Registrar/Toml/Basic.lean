import Registrar.Number.Binary64

/-!
# Settings documents

A settings document is a TOML document: a table of named values, which may be tables themselves.

## Main definitions

* `Toml` — a value.
* `Toml.member?` — the value of a name in a table.
-/

namespace Registrar

/-- A value in a settings document. -/
inductive Toml where
  | string (value : String)
  | integer (value : Int)
  | real (value : Binary64)
  | bool (value : Bool)
  /-- A date, a time of day or both, as written. -/
  | datetime (text : String)
  | array (items : List Toml)
  | table (members : List (String × Toml))
deriving Inhabited

namespace Toml

/-- The value of a name, if this is a table that has it. -/
def member? (value : Toml) (name : String) : Option Toml :=
  match value with
  | table members => members.lookup name
  | _ => none

end Toml

end Registrar
