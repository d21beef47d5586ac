import Registrar.Json.Printer
import Registrar.Storage.DocumentScan
import Registrar.Storage.Error
import Registrar.Text.Percent

/-!
# Dataset files

A dataset is kept as a JSON document with its id, its time and its records, the records under the
name of their kind. Beside it stands a small document with what listings show of it. Reading is as
strict about records as ingestion is; unknown members are ignored, and a member written twice is
refused.

The file names are the percent-encoded id with an extension, so every id has a file name of its own
that is a single name on the disk.

## Main definitions

* `Dataset.toDocument`, `readDataset` — the document of a dataset.
* `readInfo` — reads the document for listings.
* `readDocument` — reads the text of a document, with the place of what is wrong.
* `dataFileName`, `infoFileName`, `idOfFileName?` — names and ids.
-/

namespace Registrar

/-! ### Names -/

/-- The file of a dataset. -/
def dataFileName (id : String) : String :=
  Percent.encode id ++ ".json"

/-- The file with what listings show of a dataset. -/
def infoFileName (id : String) : String :=
  Percent.encode id ++ ".info"

/-- The name under which a file is written before it is moved into place. -/
def temporaryName (name : String) : String :=
  name ++ ".tmp"

/-- What stands before the extension of a dataset file. The last point starts the extension, unless
the name starts with it. -/
def stemOfDataFile? (name : String) : Option String :=
  let reversed := name.toList.reverse
  let extension := reversed.takeWhile (· != '.')
  match reversed.dropWhile (· != '.') with
  | _ :: stem =>
    if extension.reverse = "json".toList ∧ stem ≠ [] then some (String.ofList stem.reverse)
    else none
  | [] => none

/-- The id of the dataset that a file of this name holds. -/
def idOfFileName? (name : String) : Option String :=
  (stemOfDataFile? name).bind Percent.decode?

/-! ### Documents -/

namespace RecordSet

/-- Records under the name of their kind. -/
def toDocument (set : RecordSet) : Json :=
  .object [("kind", .string set.kind.name),
    ("records", .array (set.toList.map Record.toStoredJson))]

end RecordSet

namespace Dataset

/-- The document of a dataset. -/
def toDocument (dataset : Dataset) : Json :=
  .object [("id", .string dataset.id), ("created_at", .string dataset.createdAt.text),
    ("data", dataset.records.toDocument)]

end Dataset

/-- What is expected in the place of a point in time. -/
def timestampText : String := "an RFC 3339 formatted date and time string"

/-- What is expected in the place of records under the name of their kind. -/
def recordSetText : String := "adjacently tagged enum RecordSet"

/-- Finds a name that is written twice. -/
def repeatedName? (names : List String) : List String → List (String × Json) → Option String
  | _, [] => none
  | seen, (name, _) :: members =>
    if names.contains name then
      if seen.contains name then some name else repeatedName? names (name :: seen) members
    else repeatedName? names seen members

/-- The members of a document with the given names, which may also be an array of their values. -/
def documentMembers (what : String) (names : List String) (value : Json) :
    Except ReadingFault (List (String × Json)) :=
  match value with
  | .object members =>
    match repeatedName? names [] members with
    | some name => .error (.duplicateField name)
    | none => .ok members
  | .array items =>
    if items.length = names.length then .ok (names.zip items)
    else if items.length < names.length then
      .error (.wrongLength items.length (what ++ " with " ++ toString names.length ++ " elements"))
    else .error (.wrongLength items.length "fewer elements in array")
  | other => .error (.wrongType other what)

/-- The kind of a given name, written as a text or as the only member of an object. -/
def readKindName (value : Json) : Except ReadingFault DatasetKind :=
  match value with
  | .string "sections" => .ok .sections
  | .string "rooms" => .ok .rooms
  | .object [("sections", .null)] => .ok .sections
  | .object [("rooms", .null)] => .ok .rooms
  | other => .error (.wrongType other "variant `sections` or `rooms`")

/-- A point in time. -/
def readTimestamp (value : Json) : Except ReadingFault Timestamp := do
  match Timestamp.ofText? (← readText value) with
  | some time => return time
  | none => throw (.wrongType value timestampText)

/-- A number of rows. -/
def readCount (value : Json) : Except ReadingFault Nat :=
  match value.nat? with
  | some n => .ok n
  | none => .error (.wrongType value "a natural number")

/-- Records under the name of their kind. -/
def readRecordSet (value : Json) : Except ReadingFault RecordSet := do
  let members ← documentMembers recordSetText ["kind", "records"] value
  let kind ← requireField readKindName "kind" members
  requireField (RecordSet.ofJson kind) "records" members

/-- What the document of a dataset holds. -/
structure DatasetDocument where
  id : String
  createdAt : Timestamp
  records : RecordSet
deriving DecidableEq, Repr

/-- Reads the document of a dataset. -/
def readDataset (value : Json) : Except ReadingFault DatasetDocument := do
  let members ← documentMembers "struct DatasetFile" ["id", "created_at", "data"] value
  return {
    id := ← requireField readText "id" members
    createdAt := ← requireField readTimestamp "created_at" members
    records := ← requireField readRecordSet "data" members }

/-- Reads the document for listings. -/
def readInfo (value : Json) : Except ReadingFault DatasetInfo := do
  let members ← documentMembers "struct DatasetInfo" ["id", "kind", "num_rows", "created_at"] value
  return {
    id := ← requireField readText "id" members
    kind := ← requireField readKindName "kind" members
    rows := ← requireField readCount "num_rows" members
    createdAt := ← requireField readTimestamp "created_at" members }

/-! ### Texts of documents

The scans of the documents tell what is wrong with a text, and where. They also find the parts that
count in a text with members that are no JSON values but have the form of one. -/

open Json (Scan)

/-- The names of the kinds. -/
def kindNames : List String :=
  [DatasetKind.sections, .rooms].map DatasetKind.name

/-- Scans a point in time. -/
def scanTimestamp : Scan Json :=
  Scan.checked timestampText fun text =>
    match Timestamp.read text.toList with
    | .ok _ => .ok ()
    | .error fault => .error fault.message

/-- Scans a field of a record. -/
def scanField : FieldKind → Scan Json
  | .measure => Scan.measure
  | .text => Scan.text

/-- Scans the records of a kind. -/
def scanRecords (kind : DatasetKind) : Scan Json :=
  Scan.list (Scan.fieldsOf kind.recordName
    (kind.layout.map fun spec => (spec.name, scanField spec.kind)))

/-- Scans records under the name of their kind; records that come before it are not placed. -/
def scanRecordSet : Scan Json :=
  let tagged : Json.Scan.Tagged :=
    { what := recordSetText
      tag := "kind"
      content := "records"
      shapes := [DatasetKind.sections, .rooms].map fun kind =>
        (kind.name, scanRecords kind, fun value => (RecordSet.ofJson kind value).map fun _ => ()) }
  tagged.scan (Json.nestingLimit - 2)

/-- Scans the document of a dataset. -/
def scanDataset : Scan Json :=
  Scan.fieldsOf "DatasetFile"
    [("id", Scan.text), ("created_at", scanTimestamp), ("data", scanRecordSet)]

/-- Scans the document for listings. -/
def scanInfo : Scan Json :=
  Scan.fieldsOf "DatasetInfo"
    [("id", Scan.text), ("kind", Scan.choice kindNames), ("num_rows", Scan.count),
      ("created_at", scanTimestamp)]

/-- Reads the text of a document. What cannot be read at once is scanned for what is wrong. -/
def readDocument {α : Type} (read : Json → Except ReadingFault α) (scan : Scan Json)
    (text : String) : Except StorageError α :=
  match (Json.parseMembers? text).map read with
  | some (.ok document) => .ok document
  | _ =>
    match Json.scanText scan text with
    | .ok value => (read value).mapError .ofReadingFault
    | .error reason => .error (.serialization reason)

end Registrar
