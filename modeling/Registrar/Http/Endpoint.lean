import Registrar.Http.Message
import Registrar.Text.Percent

/-!
# Endpoints

The path of a request names a resource, and the method says what to do with it. A path is cut at its
slashes before percent-encoding is undone, so a name may hold a slash. Names may be empty except at
the end of a path.

## Main definitions

* `Resource`, `Resource.ofPath?` — what a path names, names still percent-encoded.
* `Endpoint`, `Resource.endpoint?` — what a method asks of a resource.
* `Endpoint.decode?` — the endpoint with percent-encoding undone.
-/

namespace Registrar

/-- What a path names. -/
inductive Resource where
  | datasets
  | dataset (id : String)
  | datasetOfKind (id kind : String)
  | query
  | room (name : String)
  | roomScore (name score : String)
  | live
  | ready
  | health
deriving DecidableEq, Repr

/-- What is asked of the service. -/
inductive Endpoint where
  | listDatasets
  | addDataset (id kind : String)
  | removeDataset (id : String)
  | performQuery
  | showReviews (room : String)
  | openReviews (room : String)
  | submitScore (room score : String)
  | live
  | ready
  | health
deriving DecidableEq, Repr

namespace Resource

/-- What a path names, given by the pieces after its first slash. -/
def ofPieces? : List String → Option Resource
  | ["api", "v1", "datasets"] => some datasets
  | ["api", "v1", "dataset", id] => if id.isEmpty then none else some (dataset id)
  | ["api", "v1", "dataset", id, kind] =>
    if kind.isEmpty then none else some (datasetOfKind id kind)
  | ["api", "v1", "query"] => some query
  | ["api", "v1", "reviews", name] => if name.isEmpty then none else some (room name)
  | ["api", "v1", "reviews", name, score] =>
    if score.isEmpty then none else some (roomScore name score)
  | ["health", "live"] => some live
  | ["health", "ready"] => some ready
  | ["health"] => some health
  | _ => none

/-- What a path names. -/
def ofPath? (path : String) : Option Resource :=
  match path.toList with
  | '/' :: rest => ofPieces? ((pieces '/' rest).map String.ofList)
  | _ => none

/-- What a method asks of a resource. -/
def endpoint? (resource : Resource) (method : Method) : Option Endpoint :=
  match resource, method with
  | datasets, .get => some .listDatasets
  | dataset id, .delete => some (.removeDataset id)
  | datasetOfKind id kind, .put => some (.addDataset id kind)
  | query, .post => some .performQuery
  | room name, .get => some (.showReviews name)
  | room name, .put => some (.openReviews name)
  | roomScore name score, .post => some (.submitScore name score)
  | live, .get => some .live
  | ready, .get => some .ready
  | health, .get => some .health
  | _, _ => none

/-- The methods of a resource; where something can be got, its headers alone can be asked for. -/
def methods (resource : Resource) : List Method :=
  let known (method : Method) : List Method :=
    if (resource.endpoint? method).isSome then [method] else []
  (if (resource.endpoint? .get).isSome then [.get, .head] else []) ++
    known .put ++ known .post ++ known .delete

end Resource

namespace Endpoint

/-- The endpoint with percent-encoding undone, or the name of the part that is no text. -/
def decode? : Endpoint → Except String Endpoint
  | addDataset id kind => do return addDataset (← part "id" id) (← part "kind" kind)
  | removeDataset id => do return removeDataset (← part "id" id)
  | showReviews room => do return showReviews (← part "room" room)
  | openReviews room => do return openReviews (← part "room" room)
  | submitScore room score => do return submitScore (← part "room" room) (← part "score" score)
  | other => .ok other
where
  /-- One part with percent-encoding undone. -/
  part (name text : String) : Except String String :=
    match Percent.decode? text with
    | some decoded => .ok decoded
    | none => .error name

end Endpoint

end Registrar
