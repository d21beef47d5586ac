import Registrar.Http.Message
import Registrar.Storage.QueryService

/-!
# Errors of the service

An error is answered with a status, a code for programs and a text for people. The text of the cause
is part of it.

## Main definitions

* `ApiError` — a cause; `ApiError.status`, `ApiError.code` and `ApiError.message` describe it.
* `ApiError.response` — the answer.
-/

namespace Registrar

/-- Why a request is not answered with a result. -/
inductive ApiError where
  /-- The request is not valid, for the reason given. -/
  | validation (reason : String)
  | notFound (what : String)
  | query (cause : QueryError)
  | storage (cause : StorageError)
  | internal (reason : String)
  | io (reason : String)
deriving DecidableEq, Repr

namespace StorageError

/-- The status and the code with which an error of a store is answered. -/
def statusCode : StorageError → Status × String
  | invalidId _ => (.badRequest, "INVALID_DATASET_ID")
  | invalidKind _ => (.badRequest, "INVALID_DATASET_KIND")
  | datasetExists _ => (.badRequest, "DATASET_EXISTS")
  | emptyDataset _ => (.badRequest, "EMPTY_DATASET")
  | invalidScore _ => (.badRequest, "INVALID_SCORE")
  | datasetNotFound _ => (.notFound, "DATASET_NOT_FOUND")
  | reviewNotFound _ => (.notFound, "REVIEW_NOT_FOUND")
  | io _ => (.internalError, "STORAGE_ERROR")
  | serialization _ => (.internalError, "STORAGE_ERROR")
  | corruption _ => (.internalError, "STORAGE_ERROR")

end StorageError

namespace QueryError

/-- The status and the code with which an error of a query is answered. -/
def statusCode : QueryError → Status × String
  | invalid _ => (.badRequest, "INVALID_QUERY")
  | tooLarge _ _ => (.badRequest, "RESULT_TOO_LARGE")
  | datasetNotFound _ => (.notFound, "DATASET_NOT_FOUND")
  | internal _ => (.internalError, "INTERNAL_ERROR")
  | storage cause => cause.statusCode

end QueryError

namespace ApiError

/-- The status and the code with which an error is answered. -/
def statusCode : ApiError → Status × String
  | validation _ => (.badRequest, "VALIDATION_ERROR")
  | notFound _ => (.notFound, "NOT_FOUND")
  | query cause => cause.statusCode
  | storage cause => cause.statusCode
  | internal _ => (.internalError, "INTERNAL_ERROR")
  | io _ => (.internalError, "IO_ERROR")

/-- The status with which an error is answered. -/
def status (error : ApiError) : Status :=
  error.statusCode.1

/-- The code of an error. -/
def code (error : ApiError) : String :=
  error.statusCode.2

/-- The text of an error. -/
def message : ApiError → String
  | validation reason => "Validation error: " ++ reason
  | notFound what => "Not found: " ++ what
  | query cause => "Query error: " ++ cause.message
  | storage cause => "Storage error: " ++ cause.message
  | internal reason => "Internal error: " ++ reason
  | io reason => "IO error: " ++ reason

/-- The answer for an error, with an identifier of the request. -/
def response (error : ApiError) (requestId : String) : Response :=
  .json error.status (.object [
    ("error", .object [("code", .string error.code), ("message", .string error.message)]),
    ("request_id", .string requestId)])

end ApiError

end Registrar
