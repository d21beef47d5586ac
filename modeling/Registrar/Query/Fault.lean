import Registrar.Json.Printer
import Registrar.Query.Basic
import Registrar.Text.Quoted

/-!
# Faults of a query text

What can be wrong with a query, as causes. `Fault.message` words each of them.

## Main definitions

* `Fault` — a cause; `Fault.message` is its text.
-/

namespace Registrar

/-- What is wrong with a query. Parts of the query are named by the words used in the query. -/
inductive Fault where
  | notObject (what : String)
  | notArray (what : String)
  | emptyArray (what : String)
  /-- An object that should have one member has another number of them. -/
  | notSingle (what : String) (members : Nat)
  | unexpectedKey (key : String)
  | unexpectedOption (key : String)
  | missing (what : String)
  /-- The dataset cannot be told: the named list does not start with a text. -/
  | noDatasetKey (what : String)
  | unqualified (key : String)
  | invalidId (id : String)
  | keyNotText (found : Json)
  | otherDataset (key id expected : String)
  | unknownField (key : String)
  | wrongKind (key : String) (expected : FieldKind)
  | transformationMembers
  | duplicateName (name : String)
  | badName (name : String)
  | unknownAggregate (name : String)
  | columnNotText (found : Json)
  | unknownColumn (name : String)
  | orderKeyNotText (found : Json)
  | orderKeyNotShown (key : String)
  | orderMembers
  | directionNotText
  | unknownDirection (text : String)
  | missingOrderKeys
  | emptyOrderKeys
  | orderShape (found : Json)
  | unknownFilter (tag : String)
  | patternNotText (found : Json)
  | operandNotNumber (op : Comparator) (found : Json)
  | innerStar (pattern : String)
  /-- The library of regular expressions does not compile a pattern, for the reason given. -/
  | uncompiled (pattern reason : String)

namespace Fault

/-- How a kind of field is called. -/
def kindName : FieldKind → String
  | .measure => "numeric"
  | .text => "string"

/-- The text of a fault. -/
def message : Fault → String
  | notObject what => what ++ " must be an object"
  | notArray what => what ++ " must be an array"
  | emptyArray what => what ++ " must be a non-empty array"
  | notSingle what members => what ++ " must have exactly one key, got " ++ toString members
  | unexpectedKey key => "unexpected top-level key " ++ quoted key
  | unexpectedOption key => "unexpected OPTIONS key " ++ quoted key
  | missing what => "missing " ++ what
  | noDatasetKey what => what ++ " must start with a dataset key"
  | unqualified key => quoted key ++ " is not a dataset-qualified key"
  | invalidId id => "Invalid dataset id: " ++ quoted id
  | keyNotText found => "key must be a string, got " ++ found.compact
  | otherDataset key id expected =>
    "key " ++ quoted key ++ " references dataset " ++ quoted id ++ ", but the query uses " ++
      quoted expected
  | unknownField key => "unknown field in key " ++ quoted key
  | wrongKind key expected =>
    "key " ++ quoted key ++ " must reference a " ++ kindName expected ++ " field"
  | transformationMembers => "TRANSFORMATIONS must have exactly GROUP and APPLY"
  | duplicateName name => "duplicate APPLY name " ++ quoted name
  | badName name => "APPLY name " ++ quoted name ++ " must be non-empty and contain no '_'"
  | unknownAggregate name => "unknown APPLY token " ++ quoted name
  | columnNotText found => "column must be a string, got " ++ found.compact
  | unknownColumn name => "column " ++ quoted name ++ " is neither a GROUP key nor an APPLY name"
  | orderKeyNotText found => "ORDER key must be a string, got " ++ found.compact
  | orderKeyNotShown key => "ORDER key " ++ quoted key ++ " is not in COLUMNS"
  | orderMembers => "ORDER must have exactly dir and keys"
  | directionNotText => "ORDER dir must be a string"
  | unknownDirection text => "ORDER dir must be UP or DOWN, got " ++ quoted text
  | missingOrderKeys => "ORDER is missing keys"
  | emptyOrderKeys => "ORDER keys must be non-empty"
  | orderShape found => "ORDER must be a string or an object, got " ++ found.compact
  | unknownFilter tag => "unknown filter " ++ quoted tag
  | patternNotText found => "IS value must be a string, got " ++ found.compact
  | operandNotNumber op found => op.tag ++ " value must be a number, got " ++ found.compact
  | innerStar pattern =>
    "wildcard '*' may only appear at the start or end of an IS pattern: " ++ quoted pattern
  | uncompiled pattern reason => "wildcard pattern " ++ quoted pattern ++ ": " ++ reason

end Fault

end Registrar
