import Registrar.Http.Endpoint
import Registrar.Http.Error
import Registrar.Http.Form
import Registrar.Http.MediaType
import Registrar.Http.Origin
import Registrar.Http.Settings
import Registrar.Query.Export
import Registrar.Storage.ReviewStore
import Registrar.Text.Lowercase
import Registrar.Version

/-!
# The service

The service answers requests about datasets, queries and reviews. Both stores are on one disk.

What a request asks is settled in this order: the resource and the method, the parts of the path,
the query string, the media type, the size and the text of the body. A request that fails there is
rejected and changes nothing. What then goes wrong is an error with a code.

## Main definitions

* `Service` — the stores, the disk and the settings; `Service.start` opens the stores.
* `Rejection` — why a request is not looked at.
* `Service.perform` — does what an endpoint asks.
* `Service.respond` — answers a request.
-/

namespace Registrar

/-- The stores, on one disk, and the settings. -/
structure Service where
  settings : ApiSettings
  /-- The limit on the rows of a result. -/
  maxResults : Nat
  /-- The directory of the service, as messages show it. -/
  root : String
  loaded : List (String × Dataset)
  tallies : List (String × Tally)
  disk : Disk
deriving Inhabited

/-- What a request finds when it arrives, besides the service. -/
structure Arrival where
  now : Timestamp
  /-- Identifies the request. -/
  requestId : String
  /-- Seconds since the service was started. -/
  uptime : Nat
  /-- Milliseconds that queries take. -/
  elapsed : Nat
deriving Inhabited

/-! ### Rejections -/

/-- Why a request is not looked at. -/
inductive Rejection where
  /-- A part of the path is no text. -/
  | partNotText (name : String)
  /-- A name stands twice in the query string. -/
  | repeatedParameter (name : String)
  /-- The body is not said to be JSON. -/
  | notJsonType
  | bodyTooLarge
  /-- The body does not start with a JSON value. -/
  | malformedBody
deriving DecidableEq, Repr

namespace Rejection

/-- The status of a rejection. -/
def status : Rejection → Status
  | partNotText _ => .badRequest
  | repeatedParameter _ => .badRequest
  | notJsonType => .unsupportedMediaType
  | bodyTooLarge => .payloadTooLarge
  | malformedBody => .badRequest

/-- The text of a rejection. -/
def message : Rejection → String
  | partNotText name => "Invalid URL: Invalid UTF-8 in `" ++ name ++ "`"
  | repeatedParameter name =>
    "Failed to deserialize query string: duplicate field `" ++ name ++ "`"
  | notJsonType => "Expected request with `Content-Type: application/json`"
  | bodyTooLarge => "Failed to buffer the request body: length limit exceeded"
  | malformedBody => "Failed to parse the request body as JSON"

/-- The answer to a rejected request. -/
def response (rejection : Rejection) : Response :=
  .plain rejection.status rejection.message

end Rejection

/-- Why a request has no result. -/
inductive Failure where
  | rejected (rejection : Rejection)
  | failed (error : ApiError)
deriving DecidableEq, Repr

/-! ### Reading requests -/

namespace Request

/-- Whether the body is said to be JSON. -/
def saysJson (request : Request) : Bool :=
  match (request.header? "content-type").bind MediaType.ofText? with
  | some media => media.isJson
  | none => false

/-- The JSON value at the front of the body, which has at most `limit` bytes. -/
def jsonBody (request : Request) (limit : Nat) : Except Rejection Json :=
  if !request.saysJson then .error .notJsonType
  else if limit < request.body.utf8ByteSize then .error .bodyTooLarge
  else
    match Json.parseFirst? request.body with
    | some value => .ok value
    | none => .error .malformedBody

/-- The format of a result that the query string asks for, in lower case. -/
def resultFormat (request : Request) : Except Rejection String :=
  match ((Form.parse request.query).filter fun pair => pair.1 == "format").map Prod.snd with
  | [] => .ok "json"
  | [format] => .ok (lowercase format)
  | _ => .error (.repeatedParameter "format")

end Request

namespace Service

/-- What can be done with a service. -/
abbrev Action (α : Type) := ExceptT Failure (StateM Service) α

/-! ### The stores -/

/-- The path of the file of reviews. -/
def reviewPath : Path := ["room_reviews.json"]

/-- The store of datasets. -/
def datasetStore (service : Service) : DatasetStore :=
  ⟨service.root, service.loaded, service.disk⟩

/-- The store of reviews. -/
def reviewStore (service : Service) : ReviewStore :=
  ⟨reviewPath, service.tallies, service.disk⟩

/-- The service with the store of datasets as it is now. -/
def withDatasets (service : Service) (store : DatasetStore) : Service :=
  { service with loaded := store.loaded, disk := store.disk }

/-- The service with the store of reviews as it is now. -/
def withReviews (service : Service) (store : ReviewStore) : Service :=
  { service with tallies := store.tallies, disk := store.disk }

/-- Does something with the store of datasets; its errors become those of the service. -/
def onDatasets {α ε : Type} (toError : ε → ApiError)
    (action : ExceptT ε (StateM DatasetStore) α) : Action α := do
  let service ← get
  let (result, store) := action.run service.datasetStore
  set (service.withDatasets store)
  match result with
  | .ok value => return value
  | .error error => throw (.failed (toError error))

/-- Does something with the store of reviews. -/
def onReviews {α : Type} (action : ReviewStore.Action α) : Action α := do
  let service ← get
  let (result, store) := action.run service.reviewStore
  set (service.withReviews store)
  match result with
  | .ok value => return value
  | .error error => throw (.failed (.storage error))

/-- Opens both stores on a disk. -/
def start (settings : ApiSettings) (maxResults : Nat) (root : String) (disk : Disk) :
    Except StorageError Unit × Service :=
  let service : Service := ⟨settings, maxResults, root, [], [], disk⟩
  let (result, datasets) := DatasetStore.start.run service.datasetStore
  let service := service.withDatasets datasets
  let (_, reviews) := ReviewStore.start.run service.reviewStore
  (result, service.withReviews reviews)

/-! ### Endpoints -/

/-- The answer with a result. -/
def resultResponse (result : Json) : Response :=
  .json .ok (.object [("result", result)])

/-- A result, or the reason why the request is rejected. -/
def orReject {α : Type} (result : Except Rejection α) : Action α :=
  match result with
  | .ok value => return value
  | .error rejection => throw (.rejected rejection)

/-- The JSON value in the body of a request. -/
def bodyOf (request : Request) : Action Json := do
  orReject (request.jsonBody (← get).settings.maxBodySize)

/-- The records in a body. -/
def recordsOf (kind : DatasetKind) (body : Json) : Except ApiError RecordSet :=
  match body with
  | .array _ =>
    (RecordSet.ofJson kind body).mapError fun fault =>
      .validation ("Invalid " ++ kind.name ++ " records: " ++
        (StorageError.ofReadingFault fault).message)
  | _ => .error (.validation "Request body must be a JSON array of records")

/-- A result, or the error of the service. -/
def orFail {α : Type} (result : Except ApiError α) : Action α :=
  match result with
  | .ok value => return value
  | .error error => throw (.failed error)

/-- Adds the dataset in the body. -/
def addDataset (request : Request) (now : Timestamp) (id kindText : String) : Action Response := do
  let body ← bodyOf request
  match DatasetKind.ofText? kindText with
  | none => throw (.failed (.storage (.invalidKind kindText)))
  | some kind => do
    let records ← orFail (recordsOf kind body)
    let ids ← onDatasets .storage (DatasetStore.add id records now)
    return resultResponse (.ofStrings ids)

/-- Runs the query in the body. -/
def performQuery (request : Request) (elapsed : Nat) : Action Response := do
  let format ← orReject request.resultFormat
  let tree ← bodyOf request
  let limit := (← get).maxResults
  let output ← onDatasets .query (DatasetStore.query tree limit)
  match format with
  | "csv" => return .csv output.toCsv
  | "json" => return .json .ok (output.toJson elapsed)
  | other => throw (.failed (.validation ("Invalid format: " ++ other ++ ". Use json or csv")))

/-- Gives a room a score that is written as a text. -/
def submitScore (room scoreText : String) : Action Response := do
  match Binary64.ofText? scoreText with
  | none =>
    throw (.failed (.validation ("Score must be a number, got " ++ quoted scoreText)))
  | some score => return resultResponse (← onReviews (ReviewStore.submit room score)).toJson

/-- Whether the datasets can be listed, and how many there are. -/
def countDatasets : Action (Option Nat) :=
  tryCatch (do return some (← onDatasets .storage DatasetStore.ids).length) fun _ => return none

/-- How the service is. -/
def health (uptime : Nat) : Action Response := do
  let count ← countDatasets
  let service ← get
  return .json .ok (.object [
    ("status", .string (if count.isSome then "healthy" else "unhealthy")),
    ("storage", .string (if count.isSome then "ok" else "error")),
    ("datasets", .ofNat (count.getD 0)),
    ("loaded_datasets", .ofNat service.datasetStore.loadedCount),
    ("reviewed_rooms", .ofNat service.reviewStore.size),
    ("uptime_seconds", .ofNat uptime),
    ("version", .string version)])

/-- Does what an endpoint asks. -/
def perform (request : Request) (arrival : Arrival) : Endpoint → Action Response
  | .listDatasets => do
    let infos ← onDatasets .storage DatasetStore.infos
    return resultResponse (.array (infos.map DatasetInfo.toJson))
  | .addDataset id kind => addDataset request arrival.now id kind
  | .removeDataset id => do
    return resultResponse (.string (← onDatasets .storage (DatasetStore.remove id)))
  | .performQuery => performQuery request arrival.elapsed
  | .showReviews room => do
    return resultResponse (← onReviews (ReviewStore.get room)).toJson
  | .openReviews room => do
    return resultResponse (← onReviews (ReviewStore.openEntry room)).toJson
  | .submitScore room score => submitScore room score
  | .live => return .bare .ok
  | .ready => do
    return .bare (if (← countDatasets).isSome then .ok else .serviceUnavailable)
  | .health => health arrival.uptime

/-! ### Requests -/

/-- The answer of an endpoint whose parts are still percent-encoded. -/
def answer (request : Request) (arrival : Arrival) (endpoint : Endpoint) :
    StateM Service Response := do
  match endpoint.decode? with
  | .error name => return (Rejection.partNotText name).response
  | .ok endpoint =>
    match ← (perform request arrival endpoint).run with
    | .ok response => return response
    | .error (.rejected rejection) => return rejection.response
    | .error (.failed error) => return error.response arrival.requestId

/-- The methods of a resource, as a header lists them. -/
def allowText (resource : Resource) : String :=
  ",".intercalate (resource.methods.map Method.name)

/-- The answer to a request that is no question about access. -/
def dispatch (request : Request) (arrival : Arrival) : StateM Service Response := do
  match Resource.ofPath? request.path with
  | none => return .withLength (.bare .notFound)
  | some resource =>
    let method := if request.method = .head then .get else request.method
    match resource.endpoint? method with
    | none =>
      return .withLength ((Response.bare .methodNotAllowed).withHeader "allow" (allowText resource))
    | some endpoint => do
      let response ← Response.withLength <$> answer request arrival endpoint
      return if request.method = .head then response.withoutBody else response

/-- Answers a request. Every request with the method `OPTIONS` is a question about access. -/
def respond (request : Request) (arrival : Arrival) : StateM Service Response := do
  let policy := OriginPolicy.ofOrigins (← get).settings.origins
  let origin? := request.header? "origin"
  if request.method = .options then
    let response := (policy.preflight origin?).withLength
    match Resource.ofPath? request.path with
    | some resource => return response.withHeader "allow" (allowText resource)
    | none => return response
  else return policy.apply origin? (← dispatch request arrival)

end Service

end Registrar
