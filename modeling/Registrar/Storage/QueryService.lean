import Registrar.Query.Execution
import Registrar.Query.Validation
import Registrar.Storage.DatasetStore

/-!
# Queries over the store

A query is checked twice: first against the fields of every kind, before anything is read, and then,
when its dataset is at hand, against the fields of the kind of that dataset.

## Main definitions

* `QueryError` — why a query has no result; `QueryError.message` is its text.
* `DatasetStore.query` — runs a query tree over the store.
-/

namespace Registrar

/-- Why a query has no result. -/
inductive QueryError where
  /-- The query is not valid, for the reason given. -/
  | invalid (reason : String)
  | datasetNotFound (id : String)
  /-- There would be more rows than allowed. -/
  | tooLarge (rows limit : Nat)
  /-- A record, a group or a sum is defective, or a pattern is not compiled, for this reason. -/
  | internal (reason : String)
  | storage (cause : StorageError)
deriving DecidableEq, Repr

namespace QueryError

/-- The text of an error. -/
def message : QueryError → String
  | invalid reason => "Invalid query: " ++ reason
  | datasetNotFound id => "Dataset not found: " ++ id
  | tooLarge rows limit =>
    "Result too large: " ++ toString rows ++ " rows exceeds the limit of " ++ toString limit
  | internal reason => "Internal error: " ++ reason
  | storage cause => "Storage error: " ++ cause.message

/-- The error for a fault of the query. If a pattern is not compiled, the query is not to blame. -/
def ofFault (fault : Fault) : QueryError :=
  match fault with
  | .uncompiled _ _ => internal fault.message
  | _ => invalid fault.message

/-- The error for an execution without a result. -/
def ofExecutionError : ExecutionError → QueryError
  | .tooLarge rows limit => tooLarge rows limit
  | .defect cause => internal cause.message

end QueryError

namespace DatasetStore

/-- Runs a query tree over the store, with at most `limit` rows. -/
def query (tree : Json) (limit : Nat) : ExceptT QueryError (StateM DatasetStore) Output := do
  match validate tree .any with
  | .error fault => throw (.ofFault fault)
  | .ok checked =>
    match ← (get checked.datasetId).run with
    | .error error => throw (.storage error)
    | .ok none => throw (.datasetNotFound checked.datasetId)
    | .ok (some dataset) =>
      match validate tree dataset.kind.schema with
      | .error fault => throw (.ofFault fault)
      | .ok query =>
        match execute query dataset.records.toList limit with
        | .error error => throw (.ofExecutionError error)
        | .ok output => return output

end DatasetStore

end Registrar
