import Registrar.Json.Printer
import Registrar.Text.Pieces
import Registrar.Text.Utf8

/-!
# Requests and responses

## Main definitions

* `Method`, `Request` — what a client asks.
* `Status`, `Response` — what it is answered.
-/

namespace Registrar

/-- The method of a request. -/
inductive Method where
  | get
  | head
  | post
  | put
  | delete
  | options
  | other (name : String)
deriving DecidableEq, Repr

namespace Method

/-- The name of a method. -/
def name : Method → String
  | get => "GET"
  | head => "HEAD"
  | post => "POST"
  | put => "PUT"
  | delete => "DELETE"
  | options => "OPTIONS"
  | other name => name

/-- The method of a name. -/
def ofName (name : String) : Method :=
  match name with
  | "GET" => get
  | "HEAD" => head
  | "POST" => post
  | "PUT" => put
  | "DELETE" => delete
  | "OPTIONS" => options
  | unknown => other unknown

end Method

/-! ### Requests -/

/-- What a client asks. -/
structure Request where
  method : Method
  /-- The path of the address, percent-encoded. -/
  path : String
  /-- What follows the question mark in the address. -/
  query : String
  /-- Headers by their names in lower case. -/
  headers : List (String × String)
  body : String
deriving DecidableEq, Repr

namespace Request

/-- A request for an address. What follows a hash sign in it stays with the client. -/
def ofTarget (method : Method) (target : String) (headers : List (String × String))
    (body : String) : Request :=
  let (address, _) := splitFirst '#' target.toList
  let (path, query) := splitFirst '?' address
  ⟨method, String.ofList path, String.ofList (query.getD []), headers, body⟩

/-- The header of the given name. -/
def header? (request : Request) (name : String) : Option String :=
  request.headers.lookup name

end Request

/-! ### Responses -/

/-- How a request went. -/
inductive Status where
  | ok
  | badRequest
  | notFound
  | methodNotAllowed
  | payloadTooLarge
  | unsupportedMediaType
  | internalError
  | serviceUnavailable
deriving DecidableEq, Repr

namespace Status

/-- The number of a status. -/
def code : Status → Nat
  | ok => 200
  | badRequest => 400
  | notFound => 404
  | methodNotAllowed => 405
  | payloadTooLarge => 413
  | unsupportedMediaType => 415
  | internalError => 500
  | serviceUnavailable => 503

end Status

/-- What a client is answered. -/
structure Response where
  status : Status
  /-- Headers by their names in lower case. -/
  headers : List (String × String)
  body : String
deriving DecidableEq, Repr

namespace Response

/-- A response without a body. -/
def bare (status : Status) : Response :=
  ⟨status, [], ""⟩

/-- A response with a body of the given media type. -/
def typed (status : Status) (media body : String) : Response :=
  ⟨status, [("content-type", media)], body⟩

/-- A response with a JSON body. -/
def json (status : Status) (value : Json) : Response :=
  typed status "application/json" value.compact

/-- A response with a body of comma-separated values. -/
def csv (body : String) : Response :=
  typed .ok "text/csv" body

/-- A response with a plain text. -/
def plain (status : Status) (text : String) : Response :=
  typed status "text/plain; charset=utf-8" text

/-- The header of the given name. -/
def header? (response : Response) (name : String) : Option String :=
  response.headers.lookup name

/-- The response with one more header. -/
def withHeader (response : Response) (name value : String) : Response :=
  { response with headers := response.headers ++ [(name, value)] }

/-- The response with the size of its body as a header. -/
def withLength (response : Response) : Response :=
  response.withHeader "content-length" (toString response.body.utf8ByteSize)

/-- The response without its body. -/
def withoutBody (response : Response) : Response :=
  { response with body := "" }

end Response

end Registrar
