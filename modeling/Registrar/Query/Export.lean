import Registrar.Query.Execution
import Registrar.Text.Csv

/-!
# Exporting results

A result goes out as a JSON document, with the number of rows and of records looked at, or as
comma-separated values with a line of column names. Both keep the order of the columns and of the
rows.

## Main definitions

* `Output.toJson` — the JSON document.
* `Output.toCsv` — the comma-separated values.
-/

namespace Registrar

namespace Output

/-- The result as a JSON document, with the time in milliseconds that it took. -/
def toJson (output : Output) (elapsed : Nat) : Json :=
  .object [("result", .array (output.rows.map Row.toJson)), ("columns", .ofStrings output.columns),
    ("meta", .object [("execution_time_ms", .ofNat elapsed),
      ("row_count", .ofNat output.rows.length),
      ("records_scanned", .ofNat output.recordsScanned)])]

/-- The fields of a row in the given columns; a cell that is not there is an empty field. -/
def csvFields (columns : List String) (row : Row) : List String :=
  columns.map fun column => ((row.get? column).map FieldValue.display).getD ""

/-- The result as comma-separated values. -/
def toCsv (output : Output) : String :=
  Csv.encode (output.columns :: output.rows.map (csvFields output.columns))

end Output

end Registrar
