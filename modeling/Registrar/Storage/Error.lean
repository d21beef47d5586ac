import Registrar.Dataset.Basic
import Registrar.Storage.Disk

/-!
# Errors of the stores

What can go wrong when datasets and reviews are registered, read, listed or removed.

## Main definitions

* `StorageError` — a cause; `StorageError.message` is its text.
-/

namespace Registrar

/-- Why a store does not do what it was asked. -/
inductive StorageError where
  /-- The disk failed, for the reason given. -/
  | io (reason : String)
  /-- JSON does not hold what it should, for the reason given. -/
  | serialization (reason : String)
  | invalidId (id : String)
  | invalidKind (text : String)
  | datasetExists (id : String)
  | datasetNotFound (id : String)
  | emptyDataset (id : String)
  /-- A file holds something else than its name says. -/
  | corruption (reason : String)
  | reviewNotFound (room : String)
  | invalidScore (score : Binary64)
deriving DecidableEq, Repr

namespace StorageError

/-- The text of an error. -/
def message : StorageError → String
  | io reason => "IO error: " ++ reason
  | serialization reason => "Serialization error: " ++ reason
  | invalidId id => "Invalid dataset id: " ++ quoted id
  | invalidKind text => "Invalid dataset kind: " ++ text
  | datasetExists id => "Dataset already exists: " ++ id
  | datasetNotFound id => "Dataset not found: " ++ id
  | emptyDataset id => "Dataset " ++ id ++ " has no valid records"
  | corruption reason => "Corrupt data: " ++ reason
  | reviewNotFound room => "No reviews found for room: " ++ room
  | invalidScore score =>
    "Invalid review score " ++ score.plainText ++ ": must be a number between 0 and 5"

/-- The error for a fault of the disk. -/
def ofDiskFault (fault : DiskFault) : StorageError :=
  io fault.message

/-- The error for records that cannot be read. -/
def ofReadingFault (fault : ReadingFault) : StorageError :=
  serialization fault.message

/-- The error for records that cannot be a dataset. -/
def ofDatasetFault : DatasetFault → StorageError
  | .invalidId id => invalidId id
  | .noRecords id => emptyDataset id

end StorageError

end Registrar
