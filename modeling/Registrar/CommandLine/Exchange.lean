import Registrar.Http.Message
import Registrar.Text.Percent

/-!
# Exchanges with the service

The client sends one request to an address and gets one response, or a text that says why there is
none.

In the path of an address a piece `.` stands for nothing and a piece `..` takes the piece before it
away; both are settled before the request is sent.

## Main definitions

* `Address.ofText?` — host and path of an address.
* `ClientRequest`, `ClientResponse` — what is sent and what comes back.
* `ClientRequest.message`, `ClientResponse.ofMessage?` — their texts on the connection.
* `statusText` — a status as messages show it.
-/

namespace Registrar

/-! ### Addresses -/

/-- An address of the service: where to connect, and what to ask for there. -/
structure Address where
  /-- Whether the connection has to be encrypted. -/
  isSecure : Bool
  /-- The host, and its port after a colon if it is not the usual one. -/
  host : String
  /-- Path and query string. -/
  target : String
deriving DecidableEq, Repr

namespace Address

/-- Whether a piece of a path stands for nothing. -/
def isSingleDot (piece : List Char) : Bool :=
  [".", "%2e"].contains (String.ofList (piece.map Char.toLower))

/-- Whether a piece of a path takes the one before it away. -/
def isDoubleDot (piece : List Char) : Bool :=
  ["..", ".%2e", "%2e.", "%2e%2e"].contains (String.ofList (piece.map Char.toLower))

/-- Settles the pieces with dots; `kept` holds the pieces before, the last one first. A path that
ends in one of them ends in a slash. -/
def settleDots (kept : List (List Char)) : List (List Char) → List (List Char)
  | [] => kept.reverse
  | piece :: rest =>
    if isDoubleDot piece then
      settleDots (if rest.isEmpty then [] :: kept.drop 1 else kept.drop 1) rest
    else if isSingleDot piece then settleDots (if rest.isEmpty then [] :: kept else kept) rest
    else settleDots (piece :: kept) rest

/-- A path that starts with a slash, with its dots settled. -/
def settlePath (path : List Char) : List Char :=
  '/' :: ['/'].intercalate (settleDots [] (pieces '/' (path.drop 1)))

/-- The schemes, each with whether its connections are encrypted. -/
def schemes : List (String × Bool) := [("http", false), ("https", true)]

/-- Whether the connection has to be encrypted, and what stands after the scheme, a colon and two
slashes. -/
def afterScheme? (text : List Char) : Option (Bool × List Char) :=
  let scheme := String.ofList ((text.takeWhile (· != ':')).map Char.toLower)
  match text.dropWhile (· != ':') with
  | ':' :: '/' :: '/' :: rest => (schemes.lookup scheme).map (·, rest)
  | _ => none

/-- Reads an address. What follows a hash sign is not sent. -/
def ofText? (text : String) : Option Address := do
  let (isSecure, rest) ← afterScheme? text.toList
  let isHostChar (c : Char) : Bool := c != '/' && c != '?' && c != '#'
  let host := rest.takeWhile isHostChar
  if host.isEmpty then none
  let (address, _) := splitFirst '#' (rest.dropWhile isHostChar)
  let (path, query) := splitFirst '?' address
  let path := settlePath path
  let target :=
    match query with
    | some query => path ++ '?' :: query
    | none => path
  return ⟨isSecure, String.ofList host, String.ofList target⟩

/-- The name of the host, without the port. -/
def hostName (address : Address) : String :=
  String.ofList (splitFirst ':' address.host.toList).1

/-- The port to connect to. -/
def port (address : Address) : Nat :=
  match (splitFirst ':' address.host.toList).2 with
  | some digits => natOfDigits (digits.filter isDigit)
  | none => if address.isSecure then 443 else 80

end Address

/-! ### Requests and responses -/

/-- What is sent. -/
structure ClientRequest where
  method : Method
  address : Address
  /-- A JSON text, or nothing. -/
  body : Option String
deriving DecidableEq, Repr

namespace ClientRequest

/-- The text that is sent. The service closes the connection after its response, so that the
response needs no length. -/
def message (request : ClientRequest) : String :=
  let content :=
    match request.body with
    | some body =>
      ["Content-Type: application/json", "Content-Length: " ++ toString body.utf8ByteSize]
    | none => ["Content-Length: 0"]
  "\r\n".intercalate
    ([request.method.name ++ " " ++ request.address.target ++ " HTTP/1.0",
      "Host: " ++ request.address.host, "Accept: */*"] ++ content ++ ["", request.body.getD ""])

end ClientRequest

/-- What comes back. -/
structure ClientResponse where
  status : Nat
  body : String
deriving DecidableEq, Repr

namespace ClientResponse

/-- The bytes after the first empty line. -/
def afterEmptyLine : List UInt8 → List UInt8
  | 13 :: 10 :: 13 :: 10 :: rest => rest
  | _ :: rest => afterEmptyLine rest
  | [] => []

/-- Reads a response from all bytes that came back. The number of its status is the second word. -/
def ofMessage? (bytes : List UInt8) : Option ClientResponse := do
  let statusLine := textOfUtf8Lossy (bytes.takeWhile (· != 13))
  let number ← (pieces ' ' statusLine.toList)[1]?
  let status ← (String.ofList number).toNat?
  return ⟨status, textOfUtf8Lossy (afterEmptyLine bytes)⟩

/-- Whether the service did what it was asked. -/
def isSuccess (response : ClientResponse) : Bool :=
  200 ≤ response.status && response.status < 300

end ClientResponse

/-- The usual words for the number of a status. -/
def statusPhrases : List (Nat × String) := [
  (100, "Continue"), (101, "Switching Protocols"), (102, "Processing"),
  (200, "OK"), (201, "Created"), (202, "Accepted"), (203, "Non Authoritative Information"),
  (204, "No Content"), (205, "Reset Content"), (206, "Partial Content"), (207, "Multi-Status"),
  (208, "Already Reported"), (226, "IM Used"),
  (300, "Multiple Choices"), (301, "Moved Permanently"), (302, "Found"), (303, "See Other"),
  (304, "Not Modified"), (305, "Use Proxy"), (307, "Temporary Redirect"),
  (308, "Permanent Redirect"),
  (400, "Bad Request"), (401, "Unauthorized"), (402, "Payment Required"), (403, "Forbidden"),
  (404, "Not Found"), (405, "Method Not Allowed"), (406, "Not Acceptable"),
  (407, "Proxy Authentication Required"), (408, "Request Timeout"), (409, "Conflict"),
  (410, "Gone"), (411, "Length Required"), (412, "Precondition Failed"),
  (413, "Payload Too Large"), (414, "URI Too Long"), (415, "Unsupported Media Type"),
  (416, "Range Not Satisfiable"), (417, "Expectation Failed"), (418, "I'm a teapot"),
  (421, "Misdirected Request"), (422, "Unprocessable Entity"), (423, "Locked"),
  (424, "Failed Dependency"), (425, "Too Early"), (426, "Upgrade Required"),
  (428, "Precondition Required"), (429, "Too Many Requests"),
  (431, "Request Header Fields Too Large"), (451, "Unavailable For Legal Reasons"),
  (500, "Internal Server Error"), (501, "Not Implemented"), (502, "Bad Gateway"),
  (503, "Service Unavailable"), (504, "Gateway Timeout"), (505, "HTTP Version Not Supported"),
  (506, "Variant Also Negotiates"), (507, "Insufficient Storage"), (508, "Loop Detected"),
  (510, "Not Extended"), (511, "Network Authentication Required")]

/-- A status as messages show it: its number and the usual words for it. -/
def statusText (status : Nat) : String :=
  toString status ++ " " ++ (statusPhrases.lookup status).getD "<unknown status code>"

end Registrar
