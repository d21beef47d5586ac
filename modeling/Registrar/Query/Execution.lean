import Registrar.Query.Aggregation
import Registrar.Query.Selection
import Registrar.Query.Sorting

/-!
# Executing a query

The records that match the filter are counted against the limit, or, if the query has groups, the
groups are. Then each record or group becomes a row of the selected columns, and the rows are
sorted. The limit is checked before any aggregate is computed.

## Main definitions

* `Output` — the result of a query.
* `execute` — runs a query over records.
-/

namespace Registrar

variable {α : Type} [HasFields α]

/-- The result of a query. -/
structure Output where
  /-- The names of the columns, in order, as often as they were selected. -/
  columns : List String
  rows : List Row
  /-- The number of records looked at. -/
  recordsScanned : Nat
deriving DecidableEq, Inhabited, Repr

/-- A result has at most this many rows unless configured otherwise. -/
def defaultMaxResults : Nat := 5000

/-- Refuses more rows than allowed. -/
def checkLimit (rows limit : Nat) : Except ExecutionError Unit :=
  if limit < rows then .error (.tooLarge rows limit) else .ok ()

/-- A defect as the reason for no result. -/
def liftDefect {β : Type} (result : Except Defect β) : Except ExecutionError β :=
  result.mapError .defect

/-- The cell of a record in a column. -/
def recordCell (record : α) (column : Column) : Except Defect (String × FieldValue) :=
  let value :=
    match column with
    | .field key => field? record key.field
    | .applied _ => none
  (orDefect (.noColumnField column.name) value).map fun value => (column.name, value)

/-- The row of a record. -/
def recordRow (columns : List Column) (record : α) : Except Defect Row := do
  let cells ← columns.mapM (recordCell record)
  return Row.empty.insertAll cells

/-- The cells of a row in the selected columns. -/
def Row.project (row : Row) (columns : List Column) : Except Defect Row := do
  let cells ← columns.mapM fun column =>
    (orDefect (.noCell column.name) (row.get? column.name)).map fun value => (column.name, value)
  return Row.empty.insertAll cells

/-- The rows of the records that match. -/
def recordRows (columns : List Column) (limit : Nat) (matched : List α) :
    Except ExecutionError (List Row) := do
  checkLimit matched.length limit
  liftDefect (matched.mapM (recordRow columns))

/-- The rows of the groups of the records that match. -/
def groupRows (transformations : Transformations) (columns : List Column) (limit : Nat)
    (matched : List α) : Except ExecutionError (List Row) := do
  let groups ← liftDefect (groupRecords transformations.group matched)
  checkLimit groups.length limit
  let rows ← liftDefect (groups.mapM (aggregateRow transformations))
  liftDefect (rows.mapM fun row => row.project columns)

/-- Runs a query over records. -/
def execute (query : Query) (records : List α) (limit : Nat) : Except ExecutionError Output := do
  let matched ← liftDefect (query.filter.evaluate records)
  let rows ←
    match query.transformations with
    | some transformations => groupRows transformations query.columns limit matched
    | none => recordRows query.columns limit matched
  let rows :=
    match query.order with
    | some order => sortRows order rows
    | none => rows
  return ⟨query.columnNames, rows, records.length⟩

end Registrar
