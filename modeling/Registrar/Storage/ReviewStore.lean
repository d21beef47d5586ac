import Registrar.Json.Parser
import Registrar.Json.Printer
import Registrar.Storage.Error

/-!
# Room reviews

For each room the store keeps the total of the scores given to it and their number. The whole map is
one JSON document, written anew after every change; a change that cannot be written does not happen.
A file that is missing or cannot be read counts as empty.

## Main definitions

* `Tally`, `ReviewSummary` — total and number, and what is shown of them.
* `ReviewStore` — the map, and the disk.
* `ReviewStore.start`, `get`, `submit`, `openEntry`, `save` — the operations.
-/

namespace Registrar

/-- Total and number of the scores of a room. -/
structure Tally where
  total : Binary64
  count : Nat
deriving DecidableEq, Inhabited, Repr

/-- What is shown of the reviews of a room. -/
structure ReviewSummary where
  room : String
  total : Binary64
  count : Nat
  /-- The average score; there is none without a score. -/
  average : Option Binary64
deriving DecidableEq, Inhabited, Repr

namespace Tally

/-- No scores. -/
def empty : Tally := ⟨.zero, 0⟩

/-- Numbers of scores are counted up to here, and then again from zero. -/
def countBound : Nat := twoPow 64

/-- One more score. -/
def addScore (tally : Tally) (score : Binary64) : Tally :=
  ⟨tally.total.add score, (tally.count + 1) % countBound⟩

/-- What is shown of a tally. -/
def summary (room : String) (tally : Tally) : ReviewSummary :=
  ⟨room, tally.total, tally.count,
    if tally.count = 0 then none else some (tally.total.div (Binary64.ofNat tally.count))⟩

/-- The pair of total and number. -/
def toJson (tally : Tally) : Json :=
  .array [Json.ofNumber tally.total, .ofNat tally.count]

/-- Reads the pair of total and number. -/
def ofJson? : Json → Option Tally
  | .array [total, count] =>
    match total.number?, count.nat? with
    | some total, some count => some ⟨total, count⟩
    | _, _ => none
  | _ => none

end Tally

namespace ReviewSummary

/-- The summary as a JSON object. -/
def toJson (summary : ReviewSummary) : Json :=
  .object [("room", .string summary.room), ("total", Json.ofNumber summary.total),
    ("count", .ofNat summary.count),
    ("average", match summary.average with
      | some average => Json.ofNumber average
      | none => .null)]

end ReviewSummary

/-- The highest score. -/
def maxScore : Binary64 := Binary64.ofNat 5

/-- Whether a number is a score: from zero to the highest one. -/
def isScore (score : Binary64) : Bool :=
  score.isFinite && !score.lt .zero && !maxScore.lt score

/-- Tallies by room, in order of the rooms, and the disk. -/
structure ReviewStore where
  /-- The path of the file. -/
  path : Path
  tallies : List (String × Tally)
  disk : Disk
deriving Inhabited

namespace ReviewStore

/-- What can be done with the store. -/
abbrev Action (α : Type) := ExceptT StorageError (StateM ReviewStore) α

/-! ### The file -/

/-- The document of all tallies. -/
def document (tallies : List (String × Tally)) : String :=
  (Json.object (tallies.map fun entry => (entry.1, entry.2.toJson))).pretty

/-- Reads the tallies of a document; of a room written twice the last tally counts. -/
def readTallies (text : String) : Option (List (String × Tally)) := do
  let members ← (← Json.parseMembers? text).members?
  let tallies ← members.mapM fun (room, value) => (Tally.ofJson? value).map (room, ·)
  return Json.sortMembers tallies

/-- The tallies in the file; a file that is missing or cannot be read has none. -/
def talliesOnDisk (disk : Disk) (path : Path) : List (String × Tally) :=
  match disk.readText path with
  | .ok text => (readTallies text).getD []
  | .error _ => []

/-- Runs an operation on the disk. -/
def onDisk {α : Type} (operation : Disk → Except DiskFault α × Disk) : Action α := do
  let store ← get
  let (result, disk) := operation store.disk
  set { store with disk := disk }
  match result with
  | .ok value => return value
  | .error fault => throw (.ofDiskFault fault)

/-- Writes tallies to the file, in a directory that is made if it is missing. -/
def write (tallies : List (String × Tally)) : Action Unit := do
  let path := (← get).path
  onDisk fun disk => disk.createDirectories path.dropLast
  onDisk fun disk => disk.write path (utf8Bytes (document tallies))

/-! ### Operations -/

/-- Reads the file anew. -/
def start : Action Unit :=
  modify fun store => { store with tallies := talliesOnDisk store.disk store.path }

/-- The tally of a room. -/
def tally? (store : ReviewStore) (room : String) : Option Tally :=
  store.tallies.lookup room

/-- Sets the tally of a room in memory. -/
def put (room : String) (tally : Tally) (store : ReviewStore) : ReviewStore :=
  { store with tallies := Json.insertMember room tally store.tallies }

/-- Gives a room back the tally that it had, or takes its entry away if it had none. -/
def putBack (room : String) (previous : Option Tally) (store : ReviewStore) : ReviewStore :=
  match previous with
  | some tally => store.put room tally
  | none => { store with tallies := store.tallies.filter fun entry => entry.1 ≠ room }

/-- Sets the tally of a room in memory, and then in the file. If the file cannot be written, the
change in memory is taken back. -/
def commit (room : String) (tally : Tally) : Action Unit := do
  let previous := (← get).tally? room
  modify (put room tally)
  let store ← get
  tryCatch (write store.tallies) fun error => do
    modify (putBack room previous)
    throw error

/-- What is shown of a room. -/
def get (room : String) : Action ReviewSummary := do
  match (← MonadState.get).tally? room with
  | some tally => return tally.summary room
  | none => throw (.reviewNotFound room)

/-- Gives a room one more score. -/
def submit (room : String) (score : Binary64) : Action ReviewSummary := do
  if !isScore score then throw (.invalidScore score)
  let tally := (((← MonadState.get).tally? room).getD .empty).addScore score
  commit room tally
  return tally.summary room

/-- Makes an entry without scores for a room that has none yet. -/
def openEntry (room : String) : Action ReviewSummary := do
  match (← MonadState.get).tally? room with
  | some tally => return tally.summary room
  | none => do
    commit room .empty
    return Tally.empty.summary room

/-- Writes all tallies to the file. -/
def save : Action Unit := do
  write (← MonadState.get).tallies

/-- The number of rooms with an entry. -/
def size (store : ReviewStore) : Nat :=
  store.tallies.length

end ReviewStore

end Registrar
