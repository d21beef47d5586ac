import Registrar.CommandLine.Exchange
import Registrar.CommandLine.Help
import Registrar.CommandLine.Invocation
import Registrar.CommandLine.Report
import Registrar.Json.Diagnosis
import Registrar.Settings.Template
import Registrar.Text.Quoted

/-!
# What the command line does

A run of the command line reads at most one text, then writes at most one file or sends at most one
request, and then says how it went. A plan lists these steps; what each step brings decides how the
plan goes on. So a run is known without the outside world, up to what the steps bring.

## Main definitions

* `Outcome` — what a run says, and how it ends.
* `Plan` — the steps of a run.
* `Plan.ofArguments` — the plan of a command line.
-/

namespace Registrar

/-- What a run says, and how it ends: 0 for success, 1 for failure, 2 for wrong arguments. -/
structure Outcome where
  exitCode : Nat
  output : String
  errors : String
deriving DecidableEq, Inhabited, Repr

/-- Where a text is read from. -/
inductive Source where
  | file (path : String)
  | standardInput
deriving DecidableEq, Repr

/-- The steps of a run. A step that fails brings the reason. -/
inductive Plan where
  | finish (outcome : Outcome)
  | read (source : Source) (next : Except String String → Plan)
  /-- Writes a file, in directories that are made if they are missing. -/
  | write (path content : String) (next : Except String Unit → Plan)
  | ask (request : ClientRequest) (next : Except String ClientResponse → Plan)

namespace Plan

/-! ### Ends -/

/-- Ends with success. -/
def succeed (output : String) : Plan :=
  finish ⟨0, output, ""⟩

/-- Ends with failure, for a reason that may have a cause. -/
def fail (reason : String) (cause : Option String) : Plan :=
  finish ⟨1, "", Report.lines (("Error: " ++ reason) ::
    match cause with
    | some cause => ["", "Caused by:", "    " ++ cause]
    | none => [])⟩

/-- Ends because the arguments are wrong. -/
def misuse : Plan :=
  finish ⟨2, "", Report.lines [client.name ++ ": wrong arguments, try --help"]⟩

/-! ### Steps -/

/-- Reads a JSON text from a file; `reason` says what is wrong if the text is none. -/
def readJson (source : Source) (reason : String) (next : Json → Plan) : Plan :=
  read source fun
    | .error cause =>
      match source with
      | .file path => fail ("Cannot read " ++ path) (some cause)
      | .standardInput => fail cause none
    | .ok text =>
      match Json.parse? text with
      | some value => next value
      | none => fail reason (some (Json.explain text))

/-- The address of a path of the service. -/
def addressOf (apiUrl path : String) : Except String Address :=
  match Address.ofText? (apiUrl ++ path) with
  | some address => .ok address
  | none => .error "builder error: relative URL without a base"

/-- Sends a request for a path of the service. -/
def send (apiUrl : String) (method : Method) (path : String) (body : Option Json)
    (next : Except String ClientResponse → Plan) : Plan :=
  match addressOf apiUrl path with
  | .ok address => ask ⟨method, address, body.map Json.compact⟩ next
  | .error reason => next (.error reason)

/-- The JSON value in a response; one that is no JSON text counts as null. -/
def bodyOf (response : ClientResponse) : Json :=
  (Json.parse? response.body).getD .null

/-- Why the service did not do what it was asked. -/
def refusal (response : ClientResponse) : String :=
  let error := (bodyOf response).member "error"
  match (error.member "message").string? with
  | some message =>
    "Request failed (" ++ statusText response.status ++ " " ++ Report.textOr "ERROR" "code" error ++
      "): " ++ message
  | none => "Request failed (" ++ statusText response.status ++ ")"

/-- Sends a request and goes on with the answer, if the service did what it was asked. -/
def request (apiUrl : String) (method : Method) (path : String) (body : Option Json)
    (next : Json → Plan) : Plan :=
  send apiUrl method path body fun
    | .error reason => fail reason none
    | .ok response =>
      if response.isSuccess then next (bodyOf response) else fail (refusal response) none

end Plan

/-! ### Paths of the service -/

namespace Command

/-- The path of the list of datasets. -/
def datasetsPath : String := "/api/v1/datasets"

/-- The path of queries. -/
def queryPath : String := "/api/v1/query"

/-- The path of the health of the service. -/
def healthPath : String := "/health"

/-- The path under which a dataset is added. -/
def addPath (id kind : String) : String :=
  "/api/v1/dataset/" ++ Percent.encode id ++ "/" ++ Percent.encode kind

/-- The path of a dataset. -/
def removePath (id : String) : String :=
  "/api/v1/dataset/" ++ Percent.encode id

/-- The path of the reviews of a room. -/
def reviewPath (room : String) : String :=
  "/api/v1/reviews/" ++ Percent.encode room

/-- The path of one more score for a room. -/
def ratePath (room : String) (score : Binary64) : String :=
  "/api/v1/reviews/" ++ Percent.encode room ++ "/" ++ score.plainText

end Command

/-! ### Commands -/

namespace Plan

/-- Lists the datasets. -/
def datasets (apiUrl format : String) : Plan :=
  request apiUrl .get Command.datasetsPath none fun answer =>
    match (answer.member "result").items?.getD [] with
    | [] => succeed Report.noDatasets
    | infos =>
      if format = "json" then succeed (Report.lines [(Json.array infos).pretty])
      else succeed (Report.datasets infos)

/-- Adds the dataset in a file. -/
def add (apiUrl id kind path : String) : Plan :=
  readJson (.file path) (path ++ " is not valid JSON") fun records =>
    request apiUrl .put (Command.addPath id kind) (some records) fun answer =>
      let count := (records.items?.getD []).length
      succeed (Report.lines [
        "Added " ++ id ++ " (" ++ toString count ++ " " ++ kind ++ " records)",
        "Datasets: " ++ Report.joined (answer.member "result")])

/-- Removes a dataset. -/
def remove (apiUrl id : String) : Plan :=
  request apiUrl .delete (Command.removePath id) none fun _ =>
    succeed (Report.lines ["Removed " ++ id])

/-- Runs the query in a file or on the standard input. -/
def query (apiUrl format path : String) : Plan :=
  let source := if path = "-" then .standardInput else .file path
  readJson source "Query is not valid JSON" fun tree =>
    request apiUrl .post Command.queryPath (some tree) fun answer =>
      match format with
      | "json" => succeed (Report.lines [(answer.member "result").pretty])
      | "csv" => succeed (Report.csv answer)
      | _ => succeed (Report.table answer)

/-- Shows the reviews of a room. -/
def review (apiUrl room : String) : Plan :=
  request apiUrl .get (Command.reviewPath room) none fun answer =>
    succeed (Report.review (answer.member "result"))

/-- Gives a room a score. -/
def rate (apiUrl room : String) (score : Binary64) : Plan :=
  request apiUrl .post (Command.ratePath room score) none fun answer =>
    succeed (Report.lines ["Rated " ++ room ++ ": " ++ score.plainText] ++
      Report.review (answer.member "result"))

/-- What is said when the service cannot be reached. -/
def unreachable (apiUrl reason : String) : Outcome :=
  ⟨1, "", Report.lines ["Cannot connect to Campus Insight API at " ++ apiUrl,
    "Error: " ++ reason, "", "Make sure the server is running:",
    "  cargo run --bin campus-insight"]⟩

/-- Shows how the service is. -/
def status (apiUrl : String) : Plan :=
  send apiUrl .get Command.healthPath none fun
    | .error reason => finish (unreachable apiUrl reason)
    | .ok response =>
      if response.isSuccess then
        match Json.parse? response.body with
        | some answer => succeed (Report.health version answer)
        | none => fail ("error decoding response body: " ++ Json.explain response.body) none
      else fail ("API returned error: " ++ statusText response.status) none

/-- Shows the settings document, or writes it to a file. -/
def config : Option String → Plan
  | none => succeed Settings.template
  | some path =>
    write path Settings.template fun
      | .ok () => succeed (Report.lines ["Config written to " ++ quotedPath path])
      | .error reason => fail reason none

/-- The plan of an invocation. -/
def ofInvocation (invocation : Invocation) : Plan :=
  let apiUrl := invocation.apiUrl
  match invocation.command with
  | .datasets => datasets apiUrl invocation.format
  | .add id kind path => add apiUrl id kind path
  | .remove id => remove apiUrl id
  | .query path => query apiUrl invocation.format path
  | .review room => review apiUrl room
  | .rate room score => rate apiUrl room score
  | .status => status apiUrl
  | .config output => config output

/-- The plan of a command line. -/
def ofArguments (arguments : List String) : Plan :=
  match Invocation.ofArguments arguments with
  | .ok invocation => ofInvocation invocation
  | .error .misuse => misuse
  | .error .version => succeed (Report.lines [client.name ++ " " ++ client.version])
  | .error (.help topic atLength) => succeed (client.help topic atLength)

end Plan

end Registrar
