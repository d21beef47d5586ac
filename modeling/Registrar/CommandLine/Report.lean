import Registrar.Json.Printer
import Registrar.Number.Layout
import Registrar.Text.Csv

/-!
# Reports

The command line shows what the service answers. Answers are read leniently: what is missing or has
another type than expected is shown by a stand-in, and never an error.

A table gives every column the width of its widest cell. A name counts in bytes towards the width of
its column, every cell in characters; so the name of a column is never cut, and all lines of a table
have as many characters.

## Main definitions

* `Report.table`, `Report.csv` — the rows of a query.
* `Report.review` — the reviews of a room.
* `Report.datasets` — a list of datasets.
* `Report.health` — how the service is.
-/

namespace Registrar

namespace Report

/-- Lines, each with its end. -/
def lines (texts : List String) : String :=
  String.join (texts.map (· ++ "\n"))

/-- The text with blanks after it up to a width in characters. -/
def padRight (width : Nat) (text : String) : String :=
  text ++ String.ofList (List.replicate (width - text.length) ' ')

/-- The text with blanks before it up to a width in characters. -/
def padLeft (width : Nat) (text : String) : String :=
  String.ofList (List.replicate (width - text.length) ' ') ++ text

/-- The text of a member, or a stand-in. -/
def textOr (standIn : String) (name : String) (value : Json) : String :=
  (value.member name).string?.getD standIn

/-- The natural number of a member, or zero. -/
def countOf (name : String) (value : Json) : Nat :=
  (value.member name).nat?.getD 0

/-! ### Parts -/

/-- A number of seconds in its two largest units. -/
def duration (seconds : Nat) : String :=
  if seconds < 60 then toString seconds ++ "s"
  else if seconds < 3600 then toString (seconds / 60) ++ "m " ++ toString (seconds % 60) ++ "s"
  else if seconds < 86400 then
    toString (seconds / 3600) ++ "h " ++ toString (seconds % 3600 / 60) ++ "m"
  else toString (seconds / 86400) ++ "d " ++ toString (seconds % 86400 / 3600) ++ "h"

/-- A cell of a table. -/
def tableCell : Json → String
  | .string text => text
  | .null => "-"
  | other => other.compact

/-- A field of comma-separated values. -/
def csvField : Json → String
  | .string text => text
  | .null => ""
  | other => other.compact

/-- The texts of an array; what is no text is left out. -/
def texts (value : Json) : List String :=
  (value.items?.getD []).filterMap Json.string?

/-- The names of the columns of an answer. -/
def columnNames (answer : Json) : List String :=
  texts (answer.member "columns")

/-- The texts of an array in one line. -/
def joined (value : Json) : String :=
  ", ".intercalate (texts value)

/-! ### Reviews -/

/-- A line about the reviews of a room. -/
def review (summary : Json) : String :=
  let average :=
    match (summary.member "average").number? with
    | some average => average.fixedText 2
    | none => "-"
  lines [textOr "-" "room" summary ++ ": average " ++ average ++ " over " ++
    toString (countOf "count" summary) ++ " review(s)"]

/-! ### Rows of a query -/

/-- The widths of columns with the given names and rows of cells. -/
def widths (names : List String) (rows : List (List String)) : List Nat :=
  names.zipIdx.map fun (name, i) =>
    rows.foldl (fun width row => max width ((row[i]?).getD "").length) name.utf8ByteSize

/-- A line of cells, padded to the widths. -/
def tableLine (widths : List Nat) (cells : List String) : String :=
  " | ".intercalate ((cells.zip widths).map fun (cell, width) => padRight width cell)

/-- The rule below the names. -/
def tableRule (widths : List Nat) : String :=
  String.ofList (List.replicate (widths.foldr (· + ·) 0 + 3 * (widths.length - 1)) '-')

/-- The cells of the rows of an answer in its columns. -/
def tableRows (names : List String) (rows : List Json) : List (List String) :=
  rows.map fun row => names.map fun name => tableCell (row.member name)

/-- The rows of an answer as a table. -/
def table (answer : Json) : String :=
  match (answer.member "result").items? with
  | none => lines ["No data"]
  | some [] => lines ["No rows matched"]
  | some rows =>
    let names := columnNames answer
    let cells := tableRows names rows
    let widths := widths names cells
    lines (tableLine widths names :: tableRule widths :: cells.map (tableLine widths) ++
      ["", toString rows.length ++ " row(s)"])

/-- The rows of an answer as comma-separated values. -/
def csv (answer : Json) : String :=
  let names := columnNames answer
  let rows := (answer.member "result").items?.getD []
  Csv.encode (names :: rows.map fun row => names.map fun name => csvField (row.member name))

/-! ### Datasets -/

/-- The line of a dataset in a list. -/
def datasetLine (id kind rows created : String) : String :=
  padRight 20 id ++ " " ++ padRight 10 kind ++ " " ++ padLeft 8 rows ++ "  " ++ created

/-- What is shown when there are no datasets. -/
def noDatasets : String :=
  lines ["No datasets registered yet.", "", "Add one with:",
    "  campus-insight-cli add sections sections ./sections.json"]

/-- A list of datasets. -/
def datasets (infos : List Json) : String :=
  lines (datasetLine "ID" "Kind" "Rows" "Created" :: String.ofList (List.replicate 64 '-') ::
    infos.map fun info =>
      datasetLine (textOr "-" "id" info) (textOr "-" "kind" info)
        (toString (countOf "num_rows" info)) (textOr "-" "created_at" info))

/-! ### Health -/

/-- How the service is, shown by a program of the given version. -/
def health (version : String) (answer : Json) : String :=
  lines (["Campus Insight v" ++ version, "", "API Status: " ++ textOr "unknown" "status" answer,
      "Server version: " ++ textOr "-" "version" answer, "",
      "Storage: " ++ textOr "-" "storage" answer,
      "  Datasets: " ++ toString (countOf "datasets" answer),
      "  Loaded in memory: " ++ toString (countOf "loaded_datasets" answer),
      "  Reviewed rooms: " ++ toString (countOf "reviewed_rooms" answer)] ++
    match (answer.member "uptime_seconds").nat? with
    | some uptime => ["", "Uptime: " ++ duration uptime]
    | none => [])

end Report

end Registrar
