import Registrar.Query.Basic

/-!
# Defects of an execution

What can stop a query while it runs over records: too many results, or a defect. Lookup defects
speak of a field or a cell that is not there; a query that was checked against the schema of its
records has none of them. Arithmetic defects are met in sums and averages only.

## Main definitions

* `Defect` — a cause; `Defect.message` is its text.
* `ExecutionError` — too many results, or a defect.
-/

namespace Registrar

/-- What can go wrong in a record, a group or a sum. -/
inductive Defect where
  /-- A filter needs a field of some kind that the record does not have. -/
  | noFieldOfKind (kind : FieldKind) (key : FieldKey)
  /-- A group or an aggregate needs a field that the record does not have. -/
  | noField (key : FieldKey)
  /-- A column needs a field that the record does not have. -/
  | noColumnField (column : String)
  /-- A column is not among the cells of a group. -/
  | noCell (column : String)
  /-- A numeric aggregate met a text. -/
  | textAggregate
  /-- An aggregate over no records at all. -/
  | emptyGroup
  /-- The number has no decimal of 96 bits. -/
  | noDecimal (value : Binary64)
  | sumOverflow
  | averageOverflow
deriving DecidableEq, Repr

namespace Defect

/-- How a kind of field is called. -/
def kindName : FieldKind → String
  | .measure => "numeric"
  | .text => "string"

/-- The text of a defect. -/
def message : Defect → String
  | noFieldOfKind kind key => "record has no " ++ kindName kind ++ " field for key " ++ key.key
  | noField key => "record has no field for key " ++ key.key
  | noColumnField column => "record has no field for column " ++ column
  | noCell column => "group row has no column " ++ column
  | textAggregate => "numeric aggregate over a string field"
  | emptyGroup => "aggregate over an empty group"
  | noDecimal value => value.plainText ++ " has no decimal representation"
  | sumOverflow => "decimal overflow in aggregate"
  | averageOverflow => "decimal overflow in AVG"

end Defect

/-- Why an execution has no result. -/
inductive ExecutionError where
  /-- There would be more rows than allowed. -/
  | tooLarge (rows limit : Nat)
  | defect (cause : Defect)
deriving DecidableEq, Repr

end Registrar
