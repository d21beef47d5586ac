import Registrar.Dataset.Identifier
import Registrar.Dataset.Reading
import Registrar.Time.Timestamp

/-!
# Datasets

A dataset is a set of records under an id, with the time at which it was made. It never changes. A
dataset has a valid id and at least one record; `Dataset.make` checks both.

## Main definitions

* `Dataset`, `Dataset.make` — a dataset.
* `DatasetInfo` — what listings show of it.
-/

namespace Registrar

/-- Records under an id. -/
structure Dataset where
  id : String
  records : RecordSet
  createdAt : Timestamp
deriving DecidableEq, Inhabited, Repr

/-- What listings show of a dataset. -/
structure DatasetInfo where
  id : String
  kind : DatasetKind
  rows : Nat
  createdAt : Timestamp
deriving DecidableEq, Inhabited, Repr

/-- Why records cannot be a dataset. -/
inductive DatasetFault where
  | invalidId (id : String)
  | noRecords (id : String)
deriving DecidableEq, Repr

namespace Dataset

/-- A dataset of the given records, if the id is valid and there are records. -/
def make (id : String) (records : RecordSet) (createdAt : Timestamp) :
    Except DatasetFault Dataset :=
  if !isValidId id then .error (.invalidId id)
  else if records.isEmpty then .error (.noRecords id)
  else .ok ⟨id, records, createdAt⟩

/-- The kind of the records. -/
def kind (dataset : Dataset) : DatasetKind :=
  dataset.records.kind

/-- What listings show of a dataset. -/
def info (dataset : Dataset) : DatasetInfo :=
  ⟨dataset.id, dataset.kind, dataset.records.length, dataset.createdAt⟩

end Dataset

namespace DatasetInfo

/-- The info as a JSON object. -/
def toJson (info : DatasetInfo) : Json :=
  .object [("id", .string info.id), ("kind", .string info.kind.name),
    ("num_rows", .ofNat info.rows), ("created_at", .string info.createdAt.text)]

end DatasetInfo

end Registrar
