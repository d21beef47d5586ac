import Registrar.Text.Pieces
import Registrar.Text.Utf8

/-!
# The disk

Datasets and reviews are kept in files. A disk is a tree of directories and files, given by the
nodes at their paths; the root directory is always there. Operations on it fail as they do on a real
disk: a file that is not there, a directory where a file is needed, a name that is too long.

A disk can also be given a schedule of faults. Every existence test and every change takes the next
entry of the schedule, and fails without any effect if the entry says so. Statements about what an
operation leaves behind when some step of it fails are statements about all schedules.

## Main definitions

* `Path`, `Path.ofText` — names from the root to a node.
* `Disk` — a tree with a schedule; `Disk.healthy` has no faults ahead.
* `DiskFault` — why an operation fails.
* `Disk.exists?`, `Disk.readText`, `Disk.write`, `Disk.rename`, `Disk.removeFile`,
  `Disk.createDirectories`, `Disk.list` — the operations.
-/

namespace Registrar

/-- Names from the root to a node. -/
abbrev Path := List String

/-- The path of a text with slashes between names. A single point as a name stands for nothing, and
two points take the name before them away. -/
def Path.ofText (text : String) : Path :=
  ((pieces '/' text.toList).map String.ofList).foldl
    (fun path name =>
      if name = "" ∨ name = "." then path
      else if name = ".." then path.dropLast
      else path ++ [name])
    []

/-- What is at a path. -/
inductive Node where
  | file (content : List UInt8)
  | directory
deriving DecidableEq, Inhabited, Repr

/-- Why an operation on the disk fails. -/
inductive DiskFault where
  | notFound
  | alreadyExists
  | notDirectory
  | isDirectory
  | nameTooLong
  /-- The file is no UTF-8 text. -/
  | notText
  /-- A fault of the schedule. -/
  | scheduled
deriving DecidableEq, Repr

namespace DiskFault

/-- The text of a fault. -/
def message : DiskFault → String
  | notFound => "No such file or directory (os error 2)"
  | alreadyExists => "File exists (os error 17)"
  | notDirectory => "Not a directory (os error 20)"
  | isDirectory => "Is a directory (os error 21)"
  | nameTooLong => "File name too long (os error 36)"
  | notText => "stream did not contain valid UTF-8"
  | scheduled => "Input/output error (os error 5)"

end DiskFault

/-- A tree of directories and files, and a schedule of faults. -/
structure Disk where
  /-- The nodes at their paths, without the root. -/
  nodes : List (Path × Node)
  /-- Whether the coming operations fail; those beyond the end of the list do not. -/
  schedule : List Bool
deriving Inhabited, Repr

namespace Disk

/-- The disk that holds nothing but the root directory. -/
def empty : Disk := ⟨[], []⟩

/-- Names are at most this many bytes long. -/
def maxNameLength : Nat := 255

/-- The node at a path that is known to lead through directories. -/
def nodeAt? (disk : Disk) (path : Path) : Option Node :=
  if path.isEmpty then some .directory else disk.nodes.lookup path

/-- Follows the names of a path from the directory `base`. -/
def follow (disk : Disk) (base : Path) : List String → Except DiskFault Node
  | [] =>
    match disk.nodeAt? base with
    | some node => .ok node
    | none => .error .notFound
  | name :: rest =>
    match disk.nodeAt? base with
    | none => .error .notFound
    | some (.file _) => .error .notDirectory
    | some .directory =>
      if maxNameLength < name.utf8ByteSize then .error .nameTooLong
      else follow disk (base ++ [name]) rest

/-- The node at a path. -/
def find (disk : Disk) (path : Path) : Except DiskFault Node :=
  disk.follow [] path

/-- Takes the next entry of the schedule. -/
def takeFault (disk : Disk) : Bool × Disk :=
  match disk.schedule with
  | [] => (false, disk)
  | fault :: rest => (fault, { disk with schedule := rest })

/-- Puts a node at a path. -/
def setNode (disk : Disk) (path : Path) (node : Node) : Disk :=
  { disk with nodes := (path, node) :: disk.nodes.filter fun entry => entry.1 ≠ path }

/-- Takes away the node at a path. -/
def eraseNode (disk : Disk) (path : Path) : Disk :=
  { disk with nodes := disk.nodes.filter fun entry => entry.1 ≠ path }

/-! ### Looking -/

/-- Whether there is anything at a path. -/
def probe (disk : Disk) (path : Path) : Except DiskFault Bool :=
  match disk.find path with
  | .ok _ => .ok true
  | .error .notFound => .ok false
  | .error fault => .error fault

/-- The bytes of a file. -/
def readBytes (disk : Disk) (path : Path) : Except DiskFault (List UInt8) := do
  match ← disk.find path with
  | .file content => return content
  | .directory => throw .isDirectory

/-- The text of a file. -/
def readText (disk : Disk) (path : Path) : Except DiskFault String := do
  let bytes ← disk.readBytes path
  match textOfUtf8? bytes with
  | some text => return text
  | none => throw .notText

/-- The names in a directory. -/
def list (disk : Disk) (path : Path) : Except DiskFault (List String) := do
  match ← disk.find path with
  | .directory =>
    return disk.nodes.filterMap fun entry =>
      match entry.1.getLast? with
      | some name => if entry.1 = path ++ [name] then some name else none
      | none => none
  | .file _ => throw .notDirectory

/-! ### Changing -/

/-- The fault, if any, that keeps a file from being written at a path. -/
def writeFault? (disk : Disk) (path : Path) : Option DiskFault :=
  match disk.find path.dropLast, disk.find path with
  | .error fault, _ => some fault
  | .ok (.file _), _ => some .notDirectory
  | .ok .directory, .ok .directory => some .isDirectory
  | .ok .directory, .ok (.file _) => none
  | .ok .directory, .error .notFound => none
  | .ok .directory, .error fault => some fault

/-- Writes a file, in place of the one that was there. -/
def write (disk : Disk) (path : Path) (content : List UInt8) : Except DiskFault Unit × Disk :=
  let (fault, disk) := disk.takeFault
  if fault then (.error .scheduled, disk)
  else
    match disk.writeFault? path with
    | some fault => (.error fault, disk)
    | none => (.ok (), disk.setNode path (.file content))

/-- Moves a file to another path, in place of the file that was there. -/
def rename (disk : Disk) (source target : Path) : Except DiskFault Unit × Disk :=
  let (fault, disk) := disk.takeFault
  if fault then (.error .scheduled, disk)
  else
    match disk.readBytes source, disk.writeFault? target with
    | .error fault, _ => (.error fault, disk)
    | _, some fault => (.error fault, disk)
    | .ok content, none => (.ok (), (disk.eraseNode source).setNode target (.file content))

/-- Takes away a file. -/
def removeFile (disk : Disk) (path : Path) : Except DiskFault Unit × Disk :=
  let (fault, disk) := disk.takeFault
  if fault then (.error .scheduled, disk)
  else
    match disk.find path with
    | .error fault => (.error fault, disk)
    | .ok .directory => (.error .isDirectory, disk)
    | .ok (.file _) => (.ok (), disk.eraseNode path)

/-- Tests whether there is anything at a path. -/
def exists? (disk : Disk) (path : Path) : Except DiskFault Bool × Disk :=
  let (fault, disk) := disk.takeFault
  if fault then (.error .scheduled, disk) else (disk.probe path, disk)

/-- Makes the directories on the way from `base` along the names, as far as they are missing. -/
def makeDirectories (disk : Disk) (base : Path) : List String → Except DiskFault Unit × Disk
  | [] => (.ok (), disk)
  | name :: rest =>
    let path := base ++ [name]
    if maxNameLength < name.utf8ByteSize then (.error .nameTooLong, disk)
    else
      match disk.nodeAt? path with
      | some .directory => makeDirectories disk path rest
      | some (.file _) => (.error (if rest.isEmpty then .alreadyExists else .notDirectory), disk)
      | none => makeDirectories (disk.setNode path .directory) path rest

/-- Makes a directory and those above it, as far as they are missing. -/
def createDirectories (disk : Disk) (path : Path) : Except DiskFault Unit × Disk :=
  let (fault, disk) := disk.takeFault
  if fault then (.error .scheduled, disk) else disk.makeDirectories [] path

/-- Takes away a directory with all that is in it. -/
def removeTree (disk : Disk) (path : Path) : Except DiskFault Unit × Disk :=
  match disk.find path with
  | .error fault => (.error fault, disk)
  | .ok (.file _) => (.error .notDirectory, disk)
  | .ok .directory =>
    (.ok (), { disk with nodes := disk.nodes.filter fun entry => !path.isPrefixOf entry.1 })

end Disk

end Registrar
