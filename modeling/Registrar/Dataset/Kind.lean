import Registrar.Dataset.Field
import Registrar.Text.Lowercase

/-!
# Kinds of datasets and their schemas

A dataset holds course sections or rooms. The schema of a kind lists the names of its numeric and of
its textual fields; a query is checked against a schema before any record is looked at. The union of
both schemas serves as long as the kind of the dataset is not known. No name is numeric in one kind
and textual in the other.

## Main definitions

* `DatasetKind` — the two kinds; `DatasetKind.ofText?` reads a name in any case.
* `Schema` — field names by kind; `Schema.fieldKind?` looks a name up.
* `DatasetKind.schema`, `Schema.any` — the schema of a kind, and the union.
-/

namespace Registrar

/-- What the records of a dataset are. -/
inductive DatasetKind where
  /-- Course sections. -/
  | sections
  /-- Rooms. -/
  | rooms
deriving DecidableEq, Inhabited, Repr

/-- Field names by kind, in the order in which they are shown. -/
structure Schema where
  measures : List String
  strings : List String
deriving DecidableEq, Repr

namespace Schema

/-- The kind of the named field, if the schema has it. -/
def fieldKind? (schema : Schema) (name : String) : Option FieldKind :=
  if name ∈ schema.measures then some .measure
  else if name ∈ schema.strings then some .text
  else none

/-- The fields of course sections. -/
def sections : Schema :=
  { measures := ["avg", "pass", "fail", "audit", "year"]
    strings := ["dept", "id", "instructor", "title", "uuid"] }

/-- The fields of rooms. -/
def rooms : Schema :=
  { measures := ["lat", "lon", "seats"]
    strings := ["fullname", "shortname", "number", "name", "address", "type", "furniture", "href"] }

/-- The fields of every kind, for datasets not yet known. -/
def any : Schema :=
  { measures := sections.measures ++ rooms.measures
    strings := sections.strings ++ rooms.strings }

end Schema

namespace DatasetKind

/-- The fields a kind of dataset has. -/
def schema : DatasetKind → Schema
  | sections => .sections
  | rooms => .rooms

/-- The name of a kind. -/
def name : DatasetKind → String
  | sections => "sections"
  | rooms => "rooms"

/-- The kind of the given name, in capital or small letters. -/
def ofText? (text : String) : Option DatasetKind :=
  match lowercase text with
  | "sections" => some sections
  | "rooms" => some rooms
  | _ => none

end DatasetKind

end Registrar
