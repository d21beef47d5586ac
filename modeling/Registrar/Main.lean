import Registrar.CommandLine.Plan
import Std.Async.DNS
import Std.Async.TCP

/-!
# The command line client

Carries out the plan of a command line: reads and writes files, talks to the service, prints.
-/

namespace Registrar

namespace Plan

/-! ### Files -/

/-- Runs an action; if it fails, tells the reason. -/
def attempt {α : Type} (action : IO α) : IO (Except String α) := do
  try
    return .ok (← action)
  catch error =>
    return .error (toString error)

/-- Reads all that comes from a stream. -/
partial def readAll (stream : IO.FS.Stream) (before : ByteArray) : IO ByteArray := do
  let bytes ← stream.read 65536
  if bytes.isEmpty then return before else readAll stream (before ++ bytes)

/-- Reads a text. -/
def readSource : Source → IO String
  | .file path => IO.FS.readFile path
  | .standardInput => do
    match String.fromUTF8? (← readAll (← IO.getStdin) ByteArray.empty) with
    | some text => return text
    | none => throw (IO.userError "the input is no UTF-8 text")

/-- The directory part of a path: what stands before its last slash. -/
def directoryOf (path : String) : String :=
  String.ofList ((path.toList.reverse.dropWhile (· != '/')).drop 1).reverse

/-- Writes a file, in a directory that is made if it is missing. -/
def writeTarget (path content : String) : IO Unit := do
  let directory := directoryOf path
  if directory ≠ "" then IO.FS.createDirAll directory
  IO.FS.writeFile path content

/-! ### The service -/

/-- The socket address of a host. -/
def socketAddress (address : Std.Net.IPAddr) (port : UInt16) : Std.Net.SocketAddress :=
  match address with
  | .v4 address => .v4 ⟨address, port⟩
  | .v6 address => .v6 ⟨address, port⟩

/-- Receives until the service closes the connection. -/
partial def receiveAll (client : Std.Async.TCP.Socket.Client) (before : ByteArray) :
    Std.Async.Async ByteArray := do
  match ← client.recv? 65536 with
  | some bytes => receiveAll client (before ++ bytes)
  | none => return before

/-- Sends a message and receives all that comes back. -/
def exchange (host : String) (port : Nat) (message : String) : Std.Async.Async ByteArray := do
  let addresses ← Std.Async.DNS.getAddrInfo host (toString port)
  let some address := addresses[0]? | throw (IO.userError ("unknown host " ++ host))
  let client ← Std.Async.TCP.Socket.Client.mk
  client.connect (socketAddress address port.toUInt16)
  client.send message.toUTF8
  receiveAll client ByteArray.empty

/-- Sends a request and receives the response. -/
def askService (request : ClientRequest) : IO ClientResponse := do
  if request.address.isSecure then
    throw (IO.userError "error sending request: encrypted connections are not supported")
  let bytes ← (exchange request.address.hostName request.address.port request.message).block
  match ClientResponse.ofMessage? bytes.toList with
  | some response => return response
  | none => throw (IO.userError "error sending request: the response cannot be read")

/-! ### Runs -/

/-- Carries out a plan. -/
def perform : Plan → IO Outcome
  | .finish outcome => return outcome
  | .read source next => do perform (next (← attempt (readSource source)))
  | .write path content next => do perform (next (← attempt (writeTarget path content)))
  | .ask request next => do perform (next (← attempt (askService request)))

end Plan

end Registrar

open Registrar in
/-- Carries out a command line. -/
def main (arguments : List String) : IO UInt32 := do
  let outcome ← (Plan.ofArguments arguments).perform
  IO.print outcome.output
  IO.eprint outcome.errors
  return outcome.exitCode.toUInt32
