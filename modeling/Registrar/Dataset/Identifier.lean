import Registrar.Text.Blank

/-!
# Dataset ids and qualified keys

Queries name a field together with its dataset: the id, an underscore, the name of the field. The
first underscore is the border, so an id may hold none; and an id may not be blank.

## Main definitions

* `isValidId` — which texts may name a dataset.
* `qualify`, `splitKey?` — join and split qualified keys.
-/

namespace Registrar

/-- Stands between the id of a dataset and the name of a field. -/
def keySeparator : Char := '_'

/-- Whether a text may name a dataset: it is not blank and holds no separator. -/
def isValidId (id : String) : Bool :=
  !isBlankText id && !id.toList.contains keySeparator

/-- The key of a field of a dataset. -/
def qualify (id field : String) : String :=
  id ++ "_" ++ field

/-- The id and the field name of a key, split at the first separator. -/
def splitKey? (key : String) : Option (String × String) :=
  match key.toList.dropWhile (· != keySeparator) with
  | [] => none
  | _ :: field =>
    some (String.ofList (key.toList.takeWhile (· != keySeparator)), String.ofList field)

end Registrar
