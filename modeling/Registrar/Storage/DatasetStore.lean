import Registrar.Storage.DatasetFile

/-!
# The dataset store

The store keeps every dataset as a file and holds those that were asked for in memory. Adding and
removing go to the disk first and to memory last. The listing file of a dataset is written before
its data file and removed after it, so a listing file alone never counts as a dataset; both are
written under a temporary name and then moved into place.

A file found under the name of one id but holding another is reported and never held in memory.

## Main definitions

* `DatasetStore` — datasets in memory, and the disk.
* `DatasetStore.Action` — what can be done with a store: it may fail, and what it did until then
  stays done.
* `DatasetStore.start`, `add`, `remove`, `get`, `infos`, `ids`, `evict` — the operations.
-/

namespace Registrar

/-- Datasets in memory, in order of their ids, and the disk. -/
structure DatasetStore where
  /-- The directory of the store, as messages show it. -/
  root : String
  loaded : List (String × Dataset)
  disk : Disk
deriving Inhabited

namespace DatasetStore

/-- What can be done with a store. -/
abbrev Action (α : Type) := ExceptT StorageError (StateM DatasetStore) α

/-- The directory of the files. -/
def directory : Path := ["datasets"]

/-- The path of the data file of an id. -/
def dataPath (id : String) : Path := directory ++ [dataFileName id]

/-- The path of the listing file of an id. -/
def infoPath (id : String) : Path := directory ++ [infoFileName id]

/-- A path as messages show it. -/
def showPath (store : DatasetStore) (path : Path) : String :=
  quotedPath (String.intercalate "/" (store.root :: path))

/-! ### The disk -/

/-- Runs an operation that changes the disk. -/
def onDisk {α : Type} (operation : Disk → Except DiskFault α × Disk) : Action α := do
  let store ← get
  let (result, disk) := operation store.disk
  set { store with disk := disk }
  match result with
  | .ok value => return value
  | .error fault => throw (.ofDiskFault fault)

/-- Runs an operation that only looks at the disk. -/
def lookAtDisk {α : Type} (operation : Disk → Except DiskFault α) : Action α := do
  match operation (← get).disk with
  | .ok value => return value
  | .error fault => throw (.ofDiskFault fault)

/-- Writes a file under a temporary name and moves it into place. -/
def writeInPlace (name : String) (content : String) : Action Unit := do
  let temporary := directory ++ [temporaryName name]
  onDisk fun disk => disk.write temporary (utf8Bytes content)
  onDisk fun disk => disk.rename temporary (directory ++ [name])

/-- Removes a file and tells whether it was there. -/
def removeIfThere (path : Path) : Action Bool := do
  let store ← get
  let (result, disk) := store.disk.removeFile path
  set { store with disk := disk }
  match result with
  | .ok () => return true
  | .error .notFound => return false
  | .error fault => throw (.ofDiskFault fault)

/-! ### Memory -/

/-- The dataset of an id, if it is in memory. -/
def held? (store : DatasetStore) (id : String) : Option Dataset :=
  store.loaded.lookup id

/-- Holds a dataset in memory. -/
def hold (dataset : Dataset) : Action Unit :=
  modify fun store =>
    { store with loaded := Json.insertMember dataset.id dataset store.loaded }

/-- Drops the dataset of an id from memory and tells whether it was there. -/
def release (id : String) : Action Bool := do
  let store ← get
  set { store with loaded := store.loaded.filter fun entry => entry.1 ≠ id }
  return (store.held? id).isSome

/-! ### Operations -/

/-- The ids of the data files. -/
def fileIds : Action (List String) := do
  let names ← lookAtDisk fun disk => disk.list directory
  return names.filterMap idOfFileName?

/-- The ids of all datasets, in memory or on the disk, in increasing order. -/
def ids : Action (List String) := do
  let held := (← get).loaded.map Prod.fst
  let files ← fileIds
  return (Json.sortMembers ((held ++ files).map fun id => (id, ()))).map Prod.fst

/-- Makes the directory of the files if it is missing, and forgets what is in memory. -/
def start : Action Unit := do
  onDisk fun disk => disk.createDirectories directory
  let _ ← fileIds
  modify fun store => { store with loaded := [] }

/-- Refuses an id that cannot name a dataset. -/
def requireValidId (id : String) : Action Unit :=
  if isValidId id then return () else throw (.invalidId id)

/-- Refuses an id that names a dataset, in memory or on the disk. -/
def requireNew (id : String) : Action Unit := do
  if ((← get).held? id).isSome then throw (.datasetExists id)
  if ← onDisk fun disk => disk.exists? (dataPath id) then throw (.datasetExists id)

/-- Writes the files of a dataset and holds it in memory; returns the ids of all datasets. -/
def register (dataset : Dataset) : Action (List String) := do
  writeInPlace (infoFileName dataset.id) dataset.info.toJson.compact
  writeInPlace (dataFileName dataset.id) dataset.toDocument.compact
  hold dataset
  ids

/-- Adds a dataset and returns the ids of all datasets. -/
def add (id : String) (records : RecordSet) (now : Timestamp) : Action (List String) := do
  requireValidId id
  requireNew id
  match Dataset.make id records now with
  | .error fault => throw (.ofDatasetFault fault)
  | .ok dataset => register dataset

/-- Removes a dataset and returns its id. A listing file that cannot be removed does no harm. -/
def remove (id : String) : Action String := do
  requireValidId id
  let onDisk ← removeIfThere (dataPath id)
  let _ ← tryCatch (removeIfThere (infoPath id)) fun _ => return false
  let inMemory ← release id
  if !inMemory && !onDisk then throw (.datasetNotFound id)
  return id

/-- Reads the data file of an id. -/
def readDataFile (id : String) (text : String) : Action Dataset := do
  let document ← liftExcept (readDocument readDataset scanDataset text)
  if document.id ≠ id then
    throw (.corruption
      ("file " ++ (← get).showPath (dataPath id) ++ " holds dataset " ++ quoted document.id))
  match Dataset.make document.id document.records document.createdAt with
  | .ok dataset => return dataset
  | .error fault => throw (.ofDatasetFault fault)
where
  /-- A result as an action. -/
  liftExcept {α : Type} (result : Except StorageError α) : Action α :=
    match result with
    | .ok value => return value
    | .error error => throw error

/-- The dataset of an id, read from its file if it is not in memory. No dataset has an id that is
not valid. -/
def get (id : String) : Action (Option Dataset) := do
  if !isValidId id then return none
  match (← MonadState.get).held? id with
  | some dataset => return some dataset
  | none =>
    match (← MonadState.get).disk.readText (dataPath id) with
    | .error .notFound => return none
    | .error fault => throw (.ofDiskFault fault)
    | .ok text => do
      let dataset ← readDataFile id text
      hold dataset
      return some dataset

/-- What listings show of an id, from its listing file; `none` if there is nothing of use. -/
def fileInfo? (disk : Disk) (id : String) : Option DatasetInfo :=
  match disk.readText (infoPath id) with
  | .error _ => none
  | .ok text =>
    match readDocument readInfo scanInfo text with
    | .ok info => if info.id = id then some info else none
    | .error _ => none

/-- What listings show of all datasets, in the order of their ids. Those that are not in memory and
have no good listing file are left out. -/
def infos : Action (List DatasetInfo) := do
  let store ← MonadState.get
  let all ← ids
  return all.filterMap fun id =>
    match store.held? id with
    | some dataset => some dataset.info
    | none => fileInfo? store.disk id

/-- Drops the dataset of an id from memory, and tells whether it was there. -/
def evict (id : String) : Action Bool :=
  release id

/-- The number of datasets in memory. -/
def loadedCount (store : DatasetStore) : Nat :=
  store.loaded.length

end DatasetStore

end Registrar
