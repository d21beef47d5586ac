import Registrar.Dataset.Record
import Registrar.Text.Quoted

/-!
# Reading records

Records arrive as JSON. Reading is strict: every field of the kind has to be there with the right
type, and nothing is converted except that whole numbers become measures. Members that are no field
are ignored. A record may also be an array of its fields in the order of the layout.

Faults are reported for the first record that has one. Within a record the members are read in the
order in which they are written, and the first of the wrong type is reported; only then is the first
missing field looked for, in the order of the layout.

## Main definitions

* `ReadingFault` — what is wrong with a value; `ReadingFault.message` says it.
* `Section.ofJson`, `Room.ofJson` — a record.
* `RecordSet` — records of one kind; `RecordSet.ofJson` reads them.
-/

namespace Registrar

/-- What is wrong with a JSON value that should be records. -/
inductive ReadingFault where
  /-- The value has another type than the one described. -/
  | wrongType (found : Json) (expected : String)
  /-- The named field is not there. -/
  | missingField (name : String)
  /-- The named field is there twice. -/
  | duplicateField (name : String)
  /-- An array has fewer or more items than the one described. -/
  | wrongLength (length : Nat) (expected : String)
  /-- The value is neither a number nor a text. -/
  | noFieldValue

namespace ReadingFault

/-- What was found, as messages say it. -/
def describe : Json → String
  | .null => "null"
  | .bool true => "boolean `true`"
  | .bool false => "boolean `false`"
  | .integer value => "integer `" ++ toString value ++ "`"
  | .real value => "floating point `" ++ value.jsonText ++ "`"
  | .string value => "string " ++ quoted value
  | .array _ => "sequence"
  | .object _ => "map"

/-- The text of a fault. -/
def message : ReadingFault → String
  | wrongType found expected => "invalid type: " ++ describe found ++ ", expected " ++ expected
  | missingField name => "missing field `" ++ name ++ "`"
  | duplicateField name => "duplicate field `" ++ name ++ "`"
  | wrongLength length expected =>
    "invalid length " ++ toString length ++ ", expected " ++ expected
  | noFieldValue => "data did not match any variant of untagged enum Value"

end ReadingFault

/-! ### Fields -/

/-- A text. -/
def readText : Json → Except ReadingFault String
  | .string value => .ok value
  | other => .error (.wrongType other "a string")

/-- A measure: any number. -/
def readMeasure (value : Json) : Except ReadingFault Binary64 :=
  match value.number? with
  | some x => .ok x
  | none => .error (.wrongType value "f64")

/-- A field of the given kind. -/
def readField (kind : FieldKind) (value : Json) : Except ReadingFault FieldValue :=
  match kind with
  | .measure => (readMeasure value).map .number
  | .text => (readText value).map .text

/-- A member of the given name, read by `read`. -/
def requireField {α : Type} (read : Json → Except ReadingFault α) (name : String)
    (members : List (String × Json)) : Except ReadingFault α :=
  match members.lookup name with
  | some value => read value
  | none => .error (.missingField name)

/-- Goes through the members as they are written; a field must have its type and must not have been
`seen` before. -/
def checkMembers (layout : List FieldSpec) :
    List String → List (String × Json) → Except ReadingFault Unit
  | _, [] => .ok ()
  | seen, (name, value) :: members =>
    match layout.find? fun spec => spec.name == name with
    | none => checkMembers layout seen members
    | some spec =>
      if seen.contains name then .error (.duplicateField name)
      else do
        let _ ← readField spec.kind value
        checkMembers layout (name :: seen) members

/-- The members that the items of an array stand for. -/
def nameItems (layout : List FieldSpec) (items : List Json) : List (String × Json) :=
  (layout.map FieldSpec.name).zip items

/-! ### Records -/

/-- The members of a record that is written as an object or as an array; `what` names the record. -/
def recordMembers (what : String) (layout : List FieldSpec) (value : Json) :
    Except ReadingFault (List (String × Json)) :=
  match value with
  | .object members => do
    checkMembers layout [] members
    return members
  | .array items => do
    let members := nameItems layout items
    checkMembers layout [] members
    if items.length < layout.length then
      throw (.wrongLength items.length
        ("struct " ++ what ++ " with " ++ toString layout.length ++ " elements"))
    if layout.length < items.length then
      throw (.wrongLength items.length "fewer elements in array")
    return members
  | other => throw (.wrongType other ("struct " ++ what))

namespace Section

/-- A section from its members. -/
def ofMembers (members : List (String × Json)) : Except ReadingFault Section := do
  return {
    uuid := ← requireField readText "uuid" members
    id := ← requireField readText "id" members
    title := ← requireField readText "title" members
    instructor := ← requireField readText "instructor" members
    dept := ← requireField readText "dept" members
    year := ← requireField readMeasure "year" members
    avg := ← requireField readMeasure "avg" members
    pass := ← requireField readMeasure "pass" members
    fail := ← requireField readMeasure "fail" members
    audit := ← requireField readMeasure "audit" members }

/-- Reads a section. -/
def ofJson (value : Json) : Except ReadingFault Section :=
  recordMembers "Section" layout value >>= ofMembers

end Section

namespace Room

/-- A room from its members. -/
def ofMembers (members : List (String × Json)) : Except ReadingFault Room := do
  return {
    fullname := ← requireField readText "fullname" members
    shortname := ← requireField readText "shortname" members
    number := ← requireField readText "number" members
    name := ← requireField readText "name" members
    address := ← requireField readText "address" members
    lat := ← requireField readMeasure "lat" members
    lon := ← requireField readMeasure "lon" members
    seats := ← requireField readMeasure "seats" members
    purpose := ← requireField readText "type" members
    furniture := ← requireField readText "furniture" members
    href := ← requireField readText "href" members }

/-- Reads a room. -/
def ofJson (value : Json) : Except ReadingFault Room :=
  recordMembers "Room" layout value >>= ofMembers

end Room

/-! ### Sets of records -/

/-- Records of one kind, in order. -/
inductive RecordSet where
  | sections (records : List Section)
  | rooms (records : List Room)
deriving DecidableEq, Inhabited, Repr

namespace RecordSet

/-- The kind of the records. -/
def kind : RecordSet → DatasetKind
  | sections _ => .sections
  | rooms _ => .rooms

/-- The number of records. -/
def length : RecordSet → Nat
  | sections records => records.length
  | rooms records => records.length

/-- Whether there are no records. -/
def isEmpty (set : RecordSet) : Bool :=
  set.length == 0

/-- The records, in order. -/
def toList : RecordSet → List Record
  | sections records => records.map .ofSection
  | rooms records => records.map .ofRoom

/-- Reads the items of an array with `read`. -/
def readItems {α : Type} (read : Json → Except ReadingFault α) (value : Json) :
    Except ReadingFault (List α) :=
  match value with
  | .array items => items.mapM read
  | other => .error (.wrongType other "a sequence")

/-- Reads an array of records of the given kind. -/
def ofJson (kind : DatasetKind) (value : Json) : Except ReadingFault RecordSet :=
  match kind with
  | .sections => (readItems Section.ofJson value).map .sections
  | .rooms => (readItems Room.ofJson value).map .rooms

end RecordSet

/-- Reads a number or a text. -/
def FieldValue.ofJson (value : Json) : Except ReadingFault FieldValue :=
  match FieldValue.ofJson? value with
  | some value => .ok value
  | none => .error .noFieldValue

end Registrar
