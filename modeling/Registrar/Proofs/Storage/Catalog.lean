import Registrar.Storage.QueryService
import Std.Data.ExtTreeMap

/-!
# The catalog

What the dataset store does, without files and without memory: a catalog is a map from ids to
records with the time at which they were added. Every request to a store has an answer that depends
on the catalog alone, and only two requests change the catalog.

Two things that a store tells are left out, because they depend on what is in memory: the number of
datasets held there, and whether a dataset was there when it was evicted.

## Main definitions

* `Catalog`, `Catalog.respond` — the map, and its answers to requests.
* `DatasetRequest`, `DatasetAnswer` — what a store can be asked, and what it says.
* `DatasetStore.respond` — the answers of a store.
* `answers` — the answers to one request after another.
-/

namespace Registrar

/-- Records with the time at which they were added. -/
structure Entry where
  records : RecordSet
  createdAt : Timestamp

namespace Entry

/-- The dataset of an entry. -/
def dataset (id : String) (entry : Entry) : Dataset :=
  ⟨id, entry.records, entry.createdAt⟩

end Entry

/-- Entries by id, in order of the ids. -/
abbrev Catalog := Std.ExtTreeMap String Entry

/-! ### Requests and answers -/

/-- What a store can be asked. -/
inductive DatasetRequest where
  | add (id : String) (records : RecordSet) (now : Timestamp)
  | remove (id : String)
  | get (id : String)
  | list
  | ids
  | evict (id : String)
  | reopen
  | query (tree : Json) (limit : Nat)

/-- What a store says, or why it does not. -/
inductive DatasetAnswer where
  | ids (outcome : Except StorageError (List String))
  | removed (outcome : Except StorageError String)
  | found (outcome : Except StorageError (Option Dataset))
  | listed (outcome : Except StorageError (List DatasetInfo))
  | done (outcome : Except StorageError Unit)
  | rows (outcome : Except QueryError Output)

/-- The answers to one request after another. -/
def answers {σ : Type} (respond : σ → DatasetRequest → DatasetAnswer × σ) :
    σ → List DatasetRequest → List DatasetAnswer
  | _, [] => []
  | state, request :: requests =>
    let (answer, state) := respond state request
    answer :: answers respond state requests

/-! ### The answers of a catalog -/

namespace Catalog

/-- Adds a dataset; the id is looked at first and the records last. -/
def add (catalog : Catalog) (id : String) (records : RecordSet) (now : Timestamp) :
    Except StorageError (List String) × Catalog :=
  if !isValidId id then (.error (.invalidId id), catalog)
  else if id ∈ catalog then (.error (.datasetExists id), catalog)
  else if records.isEmpty then (.error (.emptyDataset id), catalog)
  else
    let catalog := catalog.insert id ⟨records, now⟩
    (.ok catalog.keys, catalog)

/-- Removes a dataset. -/
def remove (catalog : Catalog) (id : String) : Except StorageError String × Catalog :=
  if !isValidId id then (.error (.invalidId id), catalog)
  else if id ∈ catalog then (.ok id, catalog.erase id)
  else (.error (.datasetNotFound id), catalog)

/-- The dataset of an id. -/
def dataset? (catalog : Catalog) (id : String) : Option Dataset :=
  catalog[id]?.map (Entry.dataset id)

/-- What listings show of all datasets, in order of their ids. -/
def infos (catalog : Catalog) : List DatasetInfo :=
  catalog.toList.map fun (id, entry) => (entry.dataset id).info

/-- Runs a query tree, with at most `limit` rows. -/
def query (catalog : Catalog) (tree : Json) (limit : Nat) : Except QueryError Output :=
  match validate tree .any with
  | .error fault => .error (.ofFault fault)
  | .ok checked =>
    match catalog.dataset? checked.datasetId with
    | none => .error (.datasetNotFound checked.datasetId)
    | some dataset =>
      match validate tree dataset.kind.schema with
      | .error fault => .error (.ofFault fault)
      | .ok query => (execute query dataset.records.toList limit).mapError .ofExecutionError

/-- The answer to a request, and the catalog after it. -/
def respond (catalog : Catalog) : DatasetRequest → DatasetAnswer × Catalog
  | .add id records now => (catalog.add id records now).map .ids fun catalog => catalog
  | .remove id => (catalog.remove id).map .removed fun catalog => catalog
  | .get id => (.found (.ok (catalog.dataset? id)), catalog)
  | .list => (.listed (.ok catalog.infos), catalog)
  | .ids => (.ids (.ok catalog.keys), catalog)
  | .evict _ => (.done (.ok ()), catalog)
  | .reopen => (.done (.ok ()), catalog)
  | .query tree limit => (.rows (catalog.query tree limit), catalog)

end Catalog

/-! ### The answers of a store -/

namespace DatasetStore

/-- The answer to a request, and the store after it. Opening a store again keeps its disk. -/
def respond (store : DatasetStore) : DatasetRequest → DatasetAnswer × DatasetStore
  | .add id records now => ((add id records now).run store).map .ids fun store => store
  | .remove id => ((remove id).run store).map .removed fun store => store
  | .get id => ((get id).run store).map .found fun store => store
  | .list => (infos.run store).map .listed fun store => store
  | .ids => (ids.run store).map .ids fun store => store
  | .evict id =>
    ((evict id).run store).map (fun outcome => .done (outcome.map fun _ => ())) fun store => store
  | .reopen => (start.run store).map .done fun store => store
  | .query tree limit => ((query tree limit).run store).map .rows fun store => store

end DatasetStore

end Registrar
