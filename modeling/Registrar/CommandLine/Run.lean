import Registrar.CommandLine.Plan
import Registrar.Storage.Disk

/-!
# Runs of plans

A plan can be carried out over values: a disk, a text on the standard input, and a service that is
given by its answers. Such a run shows what a command line reads, writes, asks and says.

## Main definitions

* `Surroundings` — what a run has around it.
* `Plan.run` — carries out a plan.
-/

namespace Registrar

/-- What a run has around it. -/
structure Surroundings where
  disk : Disk
  standardInput : String
  /-- What the service answers, or why it does not. -/
  service : ClientRequest → Except String ClientResponse
  /-- The requests that were sent, the last one first. -/
  sent : List ClientRequest

namespace Surroundings

/-- Reads a text. -/
def read (surroundings : Surroundings) : Source → Except String String
  | .file path => (surroundings.disk.readText (Path.ofText path)).mapError DiskFault.message
  | .standardInput => .ok surroundings.standardInput

/-- Writes a file, in directories that are made if they are missing. What ends in a slash names no
file. -/
def write (surroundings : Surroundings) (path content : String) :
    Except String Unit × Surroundings :=
  let target := Path.ofText path
  let (made, disk) := surroundings.disk.createDirectories target.dropLast
  let (result, disk) : Except DiskFault Unit × Disk :=
    match made with
    | .error fault => (.error fault, disk)
    | .ok () =>
      if path.toList.getLast? = some '/' then (.error .isDirectory, disk)
      else disk.write target (utf8Bytes content)
  (result.mapError DiskFault.message, { surroundings with disk := disk })

/-- Sends a request. -/
def ask (surroundings : Surroundings) (request : ClientRequest) :
    Except String ClientResponse × Surroundings :=
  (surroundings.service request, { surroundings with sent := request :: surroundings.sent })

end Surroundings

/-- Carries out a plan. -/
def Plan.run (surroundings : Surroundings) : Plan → Outcome × Surroundings
  | finish outcome => (outcome, surroundings)
  | read source next => run surroundings (next (surroundings.read source))
  | write path content next =>
    let (result, surroundings) := surroundings.write path content
    run surroundings (next result)
  | ask request next =>
    let (result, surroundings) := surroundings.ask request
    run surroundings (next result)

end Registrar
