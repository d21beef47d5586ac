/-!
# Comma-separated values

A record is a line of fields with commas between them. A field that holds a comma, a quote or a line
break is put in quotes, with quotes inside it written twice. A record that would leave its line
empty is written as an empty field in quotes, so that no record is lost.

## Main definitions

* `Csv.encodeRecord`, `Csv.encode` — write records.
-/

namespace Registrar

namespace Csv

/-- Whether a character forces its field into quotes. -/
def needsQuotes (c : Char) : Bool :=
  c == ',' || c == '"' || c == '\n' || c == '\r'

/-- A field between quotes, quotes inside it written twice. -/
def quoteField (field : List Char) : List Char :=
  '"' :: field.flatMap (fun c => if c = '"' then ['"', '"'] else [c]) ++ ['"']

/-- A field, in quotes if it has to be. -/
def encodeField (field : String) : List Char :=
  if field.toList.any needsQuotes then quoteField field.toList else field.toList

/-- The fields after the first one, each after a comma. -/
def encodeTail (fields : List String) : List Char :=
  fields.flatMap fun field => ',' :: encodeField field

/-- The fields of a record with commas between them. -/
def encodeFields : List String → List Char
  | [] => []
  | field :: fields => encodeField field ++ encodeTail fields

/-- A record with its line end. -/
def encodeRecord (fields : List String) : List Char :=
  let line := encodeFields fields
  (if line.isEmpty then ['"', '"'] else line) ++ ['\n']

/-- Records, one after the other. -/
def encode (records : List (List String)) : String :=
  String.ofList (records.flatMap encodeRecord)

end Csv

end Registrar
