import Registrar.Number.Binary64

/-!
# JSON values

A JSON value is a tree. Whole numbers that fit 64 bits are kept exactly; every other number is a
64-bit floating-point number. An object is the list of its members. A text may write members in any
order and more than once; the canonical form has them in increasing order of their names, each once,
and the last one written counts.

## Main definitions

* `Json` — a value.
* `Json.canonical` — members in order, each once.
* `Json.member?`, `Json.string?`, `Json.items?`, `Json.members?`, `Json.number?` — views.
-/

namespace Registrar

/-- A JSON value. -/
inductive Json where
  | null
  | bool (value : Bool)
  | integer (value : Int)
  | real (value : Binary64)
  | string (value : String)
  | array (items : List Json)
  | object (members : List (String × Json))
deriving Inhabited

namespace Json

/-! ### Canonical form -/

/-- Puts a member in its place among members in order; a member of the same name gives way. -/
def insertMember {α : Type} (name : String) (value : α) :
    List (String × α) → List (String × α)
  | [] => [(name, value)]
  | (other, kept) :: rest =>
    if name < other then (name, value) :: (other, kept) :: rest
    else if name = other then (name, value) :: rest
    else (other, kept) :: insertMember name value rest

/-- The members in increasing order of their names, each once, the last one written counting. -/
def sortMembers {α : Type} (members : List (String × α)) : List (String × α) :=
  members.foldl (fun sorted member => insertMember member.1 member.2 sorted) []

mutual

/-- The value with all objects in order. -/
def canonical : Json → Json
  | array items => array (canonicalItems items)
  | object members => object (sortMembers (canonicalMembers members))
  | other => other

/-- The items of an array, each in canonical form. -/
def canonicalItems : List Json → List Json
  | [] => []
  | item :: items => canonical item :: canonicalItems items

/-- The members of an object, each in canonical form. -/
def canonicalMembers : List (String × Json) → List (String × Json)
  | [] => []
  | (name, value) :: members => (name, canonical value) :: canonicalMembers members

end

/-! ### Views -/

/-- The text, if the value is a string. -/
def string? : Json → Option String
  | string value => some value
  | _ => none

/-- The items, if the value is an array. -/
def items? : Json → Option (List Json)
  | array items => some items
  | _ => none

/-- The members, if the value is an object. -/
def members? : Json → Option (List (String × Json))
  | object members => some members
  | _ => none

/-- The member of the given name, if the value is an object that has one. -/
def member? (name : String) : Json → Option Json
  | object members => members.lookup name
  | _ => none

/-- The member of the given name, `null` standing in for what is missing. -/
def member (name : String) (value : Json) : Json :=
  (value.member? name).getD null

/-- The number nearest to the value, if it is a number. -/
def number? : Json → Option Binary64
  | integer value => some (Binary64.ofInt value)
  | real value => some value
  | _ => none

/-- The value as a natural number, if it is a whole number that is not negative. -/
def nat? : Json → Option Nat
  | integer value => if 0 ≤ value then some value.toNat else none
  | _ => none

/-- A natural number as a value. -/
def ofNat (n : Nat) : Json :=
  integer n

/-- A list of texts as a value. -/
def ofStrings (texts : List String) : Json :=
  array (texts.map string)

/-- A number as a value; what is not finite has no spelling and becomes `null`. -/
def ofNumber (x : Binary64) : Json :=
  if x.isFinite then real x else null

end Json

end Registrar
