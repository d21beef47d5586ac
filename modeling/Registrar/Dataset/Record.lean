import Registrar.Dataset.Kind

/-!
# Records

A section is one offering of a course in a year; a room is one bookable room. Both are flat: every
field is a number or a text and has a name. The order of the fields in the structures is the order
in which a record may be written without names.

## Main definitions

* `Section`, `Room`, `Record` — the records.
* `FieldSpec` — name and kind of a field; `DatasetKind.layout` lists those of a kind in order.
* `Attributes` — a record of arbitrary fields.
-/

namespace Registrar

/-- One offering of a course. -/
structure Section where
  /-- Identifies the offering. -/
  uuid : String
  /-- Number of the course. -/
  id : String
  title : String
  instructor : String
  /-- Code of the department. -/
  dept : String
  year : Binary64
  /-- Average grade. -/
  avg : Binary64
  /-- Number of students who passed. -/
  pass : Binary64
  /-- Number of students who failed. -/
  fail : Binary64
  /-- Number of auditors. -/
  audit : Binary64
deriving DecidableEq, Inhabited, Repr

/-- A bookable room. -/
structure Room where
  /-- Full name of the building. -/
  fullname : String
  /-- Short name of the building. -/
  shortname : String
  /-- Number of the room in the building. -/
  number : String
  /-- Name of the room. -/
  name : String
  /-- Address of the building. -/
  address : String
  /-- Latitude of the building. -/
  lat : Binary64
  /-- Longitude of the building. -/
  lon : Binary64
  seats : Binary64
  /-- What the room is made for; the field is called `type`. -/
  purpose : String
  furniture : String
  /-- Address of the page about the room. -/
  href : String
deriving DecidableEq, Inhabited, Repr

/-- A record of either kind. -/
inductive Record where
  | ofSection (record : Section)
  | ofRoom (record : Room)
deriving DecidableEq, Inhabited, Repr

/-- Name and kind of a field. -/
structure FieldSpec where
  name : String
  kind : FieldKind
deriving DecidableEq, Repr

/-! ### Fields by name -/

namespace Section

/-- The field of the given name. -/
def field? (record : Section) (name : String) : Option FieldValue :=
  match name with
  | "uuid" => some (.text record.uuid)
  | "id" => some (.text record.id)
  | "title" => some (.text record.title)
  | "instructor" => some (.text record.instructor)
  | "dept" => some (.text record.dept)
  | "year" => some (.number record.year)
  | "avg" => some (.number record.avg)
  | "pass" => some (.number record.pass)
  | "fail" => some (.number record.fail)
  | "audit" => some (.number record.audit)
  | _ => none

/-- The fields in the order of the structure. -/
def layout : List FieldSpec :=
  [⟨"uuid", .text⟩, ⟨"id", .text⟩, ⟨"title", .text⟩, ⟨"instructor", .text⟩, ⟨"dept", .text⟩,
    ⟨"year", .measure⟩, ⟨"avg", .measure⟩, ⟨"pass", .measure⟩, ⟨"fail", .measure⟩,
    ⟨"audit", .measure⟩]

end Section

namespace Room

/-- The field of the given name. -/
def field? (record : Room) (name : String) : Option FieldValue :=
  match name with
  | "fullname" => some (.text record.fullname)
  | "shortname" => some (.text record.shortname)
  | "number" => some (.text record.number)
  | "name" => some (.text record.name)
  | "address" => some (.text record.address)
  | "lat" => some (.number record.lat)
  | "lon" => some (.number record.lon)
  | "seats" => some (.number record.seats)
  | "type" => some (.text record.purpose)
  | "furniture" => some (.text record.furniture)
  | "href" => some (.text record.href)
  | _ => none

/-- The fields in the order of the structure. -/
def layout : List FieldSpec :=
  [⟨"fullname", .text⟩, ⟨"shortname", .text⟩, ⟨"number", .text⟩, ⟨"name", .text⟩,
    ⟨"address", .text⟩, ⟨"lat", .measure⟩, ⟨"lon", .measure⟩, ⟨"seats", .measure⟩,
    ⟨"type", .text⟩, ⟨"furniture", .text⟩, ⟨"href", .text⟩]

end Room

namespace Record

/-- The kind of datasets a record can be in. -/
def kind : Record → DatasetKind
  | ofSection _ => .sections
  | ofRoom _ => .rooms

/-- The field of the given name. -/
def field? : Record → String → Option FieldValue
  | ofSection record => record.field?
  | ofRoom record => record.field?

end Record

instance : HasFields Section := ⟨Section.field?⟩

instance : HasFields Room := ⟨Room.field?⟩

instance : HasFields Record := ⟨Record.field?⟩

namespace DatasetKind

/-- The fields of a kind of records, in the order in which they may be written without names. -/
def layout : DatasetKind → List FieldSpec
  | sections => Section.layout
  | rooms => Room.layout

/-- What one record of a kind is called. -/
def recordName : DatasetKind → String
  | sections => "Section"
  | rooms => "Room"

end DatasetKind

/-! ### Written form -/

/-- A record with the given fields as a JSON object whose members keep the order of the layout.
Field values are written by `write`. -/
def writeFields (write : FieldValue → Json) (layout : List FieldSpec)
    (field? : String → Option FieldValue) : Json :=
  .object (layout.filterMap fun spec => (field? spec.name).map fun value =>
    (spec.name, write value))

/-- A field in a stored record: numbers always as numbers with a point. -/
def storedValue : FieldValue → Json
  | .number value => .ofNumber value
  | .text value => .string value

namespace Record

/-- A record as it is stored. -/
def toStoredJson (record : Record) : Json :=
  writeFields storedValue record.kind.layout record.field?

/-- A record as it is shown, with every field as a result cell. -/
def toJson (record : Record) : Json :=
  writeFields FieldValue.toJson record.kind.layout record.field?

end Record

/-! ### Arbitrary fields -/

/-- A record of arbitrary fields, by name. -/
structure Attributes where
  fields : List (String × FieldValue)
deriving DecidableEq, Inhabited, Repr

instance : HasFields Attributes := ⟨fun record name => record.fields.lookup name⟩

end Registrar
