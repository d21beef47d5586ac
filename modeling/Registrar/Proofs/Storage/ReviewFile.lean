import Registrar.Proofs.Json.RoundTrip
import Registrar.Proofs.Number.Finite
import Registrar.Proofs.Storage.Faults
import Registrar.Storage.ReviewStore

/-!
# The file of the reviews

The tallies are kept in one file, written anew after every change. What is written is read: the
rooms stay in order, and a total is a finite number, because sums of scores stay finite. Each total
is what its text is read as, which need not be the total that was written.

Writing takes two operations on the disk. The first makes the directory, which may have been
missing; it neither makes nor takes away the file. The second replaces the file, or leaves what was
there.

## Main definitions

* `Tally.Sound` — a tally that a store can hold.
* `ReviewStore.rereadTallies` — the tallies with their totals as they are read.
* `Disk.FileAt` — what file there is at a path.

## Main results

* `readTallies_document` — what is read of tallies.
* `Disk.FileAt.createDirectories`, `Disk.FileAt.write` — the file after the two operations.
* `ReviewStore.run_write` — what writing the tallies can come to.
-/

namespace Registrar

/-! ### Tallies as text -/

/-- A tally that a store can hold: a finite total, and a number of scores that fits 64 bits. -/
structure Tally.Sound (tally : Tally) : Prop where
  total : tally.total.isFinite = true
  count : tally.count < Tally.countBound

namespace Tally

/-- The tally with its total as it is read from its text. -/
def reread (tally : Tally) : Tally :=
  { tally with total := tally.total.reread }

variable {tally : Tally}

theorem sound_empty : empty.Sound :=
  ⟨by decide, by decide⟩

theorem Sound.reread (h : tally.Sound) : tally.reread.Sound :=
  ⟨Binary64.isFinite_reread h.total, h.count⟩

theorem Sound.toJson_eq (h : tally.Sound) :
    tally.toJson = .array [.real tally.total, .integer tally.count] := by
  rw [toJson, Json.ofNumber, if_pos h.total, Json.ofNat]

theorem Sound.ofJson?_toJson (h : tally.Sound) : ofJson? tally.toJson = some tally := by
  rw [h.toJson_eq, ofJson?]
  simp only [Json.number?, Json.nat?, if_pos (Int.natCast_nonneg tally.count), Int.toNat_natCast]

theorem Sound.reread_toJson (h : tally.Sound) : tally.toJson.reread = tally.reread.toJson := by
  rw [h.toJson_eq, h.reread.toJson_eq]
  rfl

theorem Sound.writable (h : tally.Sound) (depth : Nat) :
    Json.Writable (depth + 1) tally.toJson := by
  rw [h.toJson_eq]
  refine .array fun item hitem => ?_
  have hcount := h.count
  rw [countBound] at hcount
  obtain rfl | hitem := List.mem_cons.mp hitem
  · exact .real h.total
  · rw [List.mem_singleton.mp hitem]
    exact .integer (by omega) (by omega)

end Tally

namespace ReviewStore

/-- The tallies with their totals as they are read from their texts. -/
def rereadTallies (tallies : List (String × Tally)) : List (String × Tally) :=
  tallies.map fun entry => (entry.1, entry.2.reread)

variable {tallies : List (String × Tally)}

theorem sorted_rereadTallies (h : Json.Sorted tallies) : Json.Sorted (rereadTallies tallies) := by
  rw [Json.Sorted, rereadTallies, List.map_map]
  exact h

theorem sound_of_mem_rereadTallies (h : ∀ entry ∈ tallies, entry.2.Sound) :
    ∀ entry ∈ rereadTallies tallies, entry.2.Sound := by
  intro entry hentry
  obtain ⟨written, hwritten, rfl⟩ := List.mem_map.mp hentry
  exact (h written hwritten).reread

/-- **Tallies are read**, with their totals as the texts of these are read. -/
theorem readTallies_document (hsorted : Json.Sorted tallies)
    (hsound : ∀ entry ∈ tallies, entry.2.Sound) :
    readTallies (document tallies) = some (rereadTallies tallies) := by
  have hwritable : Json.Writable Json.nestingLimit
      (.object (tallies.map fun entry => (entry.1, entry.2.toJson))) := by
    refine .object fun member hmember => ?_
    obtain ⟨entry, hentry, rfl⟩ := List.mem_map.mp hmember
    exact (hsound entry hentry).writable _
  have hread : (Json.object (tallies.map fun entry => (entry.1, entry.2.toJson))).reread =
      .object ((rereadTallies tallies).map fun entry => (entry.1, entry.2.toJson)) := by
    rw [Json.reread, Json.rereadMembers_eq_map, rereadTallies, List.map_map, List.map_map]
    refine congrArg Json.object (List.map_congr_left fun entry hentry => ?_)
    exact congrArg (Prod.mk entry.1) (hsound entry hentry).reread_toJson
  rw [readTallies, document, Json.parseMembers?_pretty hwritable, hread]
  simp only [Option.bind_eq_bind, Option.bind_some, Json.members?]
  rw [mapM_map_eq_some fun entry hentry => ?_]
  · exact congrArg some (Json.sortMembers_of_sorted (sorted_rereadTallies hsorted))
  · rw [(sound_of_mem_rereadTallies hsound entry hentry).ofJson?_toJson]
    rfl

end ReviewStore

/-! ### One file on a disk -/

namespace Disk

variable {disk : Disk} {path : Path} {file? : Option (List UInt8)}

/-- The file at a path is told: it has this content, or there is none. -/
def FileAt (disk : Disk) (path : Path) : Option (List UInt8) → Prop
  | some content => disk.find path = .ok (.file content)
  | none => ∀ content, disk.nodeAt? path ≠ some (.file content)

/-- Nothing keeps a file from being written at a path: the way is there, and no faults lie ahead. -/
structure Open (disk : Disk) (path : Path) : Prop where
  healthy : disk.schedule = []
  free : disk.writeFault? path = none

namespace Open

theorem createDirectories (h : disk.Open path) :
    disk.createDirectories path.dropLast = (.ok (), disk) := by
  rw [Disk.createDirectories, takeFault, h.healthy]
  exact makeDirectories_of_follow (writeFault?_eq_none_iff.mp h.free).1

theorem write (h : disk.Open path) (content : List UInt8) :
    disk.write path content = (.ok (), disk.setNode path (.file content)) := by
  rw [Disk.write, takeFault, h.healthy]
  simp only [Bool.false_eq_true, if_false, h.free]

end Open

theorem write_of_writeFault? (hhealthy : disk.schedule = []) {fault : DiskFault}
    (hfault : disk.writeFault? path = some fault) (content : List UInt8) :
    disk.write path content = (.error fault, disk) := by
  rw [write, takeFault, hhealthy]
  simp only [Bool.false_eq_true, if_false, hfault]

namespace FileAt

theorem withFaults (h : disk.FileAt path file?) (faults : List Bool) :
    (disk.withFaults faults).FileAt path file? := by
  cases file? with
  | none => exact h
  | some content => exact (find_withFaults disk faults).trans h

/-- No other bytes are read than those of the file. -/
theorem readBytes_eq_ok_iff (h : disk.FileAt path file?) {content : List UInt8} :
    disk.readBytes path = .ok content ↔ file? = some content := by
  rw [readBytes]
  cases file? with
  | some content' =>
    rw [show disk.find path = .ok (.file content') from h, bind_ok, pure_eq_ok_iff, Option.some_inj]
  | none =>
    cases hfind : disk.find path with
    | error fault => simp
    | ok node =>
      cases node with
      | directory => simp
      | file content' => exact absurd (nodeAt?_append_of_follow hfind) (h content')

theorem unique {file?' : Option (List UInt8)} (h : disk.FileAt path file?)
    (h' : disk.FileAt path file?') : file? = file?' :=
  Option.ext fun _ => h.readBytes_eq_ok_iff.symm.trans h'.readBytes_eq_ok_iff

/-- **Making the directory of a file neither makes nor takes away the file.** -/
theorem createDirectories (h : disk.FileAt path file?) :
    (disk.createDirectories path.dropLast).2.FileAt path file? := by
  obtain ⟨htaken, -⟩ | htaken := (scheduled_createDirectories path.dropLast).outcome disk
  · rw [htaken]
    exact h.withFaults _
  rw [htaken]
  refine withFaults ?_ _
  have hhealthy := h.withFaults []
  change ((disk.withFaults []).makeDirectories [] path.dropLast).2.FileAt path file?
  obtain rfl | ⟨parent, name, rfl⟩ := List.eq_nil_or_concat' path
  · exact hhealthy
  rw [List.dropLast_concat]
  cases file? with
  | none =>
    intro content
    rw [nodeAt?_makeDirectories]
    · exact hhealthy content
    · simp
  | some content =>
    rw [makeDirectories_of_follow (follow_of_follow_append hhealthy)]
    exact hhealthy

/-- **A file is written, or what was there stays.** -/
theorem write (h : disk.FileAt path file?) (content : List UInt8) :
    ∃ disk', (∃ fault, disk.write path content = (.error fault, disk')) ∧ disk'.FileAt path file? ∨
      disk.write path content = (.ok (), disk') ∧ disk'.FileAt path (some content) := by
  obtain ⟨htaken, -⟩ | htaken := (scheduled_write path content).outcome disk
  · exact ⟨_, .inl ⟨⟨_, htaken⟩, h.withFaults _⟩⟩
  cases hfault : (disk.withFaults []).writeFault? path with
  | some fault =>
    rw [write_of_writeFault? rfl hfault] at htaken
    exact ⟨_, .inl ⟨⟨fault, htaken⟩, (h.withFaults []).withFaults _⟩⟩
  | none =>
    rw [Open.write ⟨rfl, hfault⟩] at htaken
    have hwritten : ((disk.withFaults []).setNode path (.file content)).FileAt path
        (some content) := find_setNode hfault content
    exact ⟨_, .inr ⟨htaken, hwritten.withFaults _⟩⟩

end FileAt

end Disk

/-! ### Writing the tallies -/

namespace ReviewStore

variable {store : ReviewStore} {file? : Option (List UInt8)}

theorem run_onDisk {α : Type} {operation : Disk → Except DiskFault α × Disk} {a : α} {disk' : Disk}
    (h : operation store.disk = (.ok a, disk')) :
    (onDisk operation).run store = (.ok a, { store with disk := disk' }) := by
  rw [onDisk, run_bind_ok run_get, h]
  rfl

theorem run_onDisk_error {α : Type} {operation : Disk → Except DiskFault α × Disk}
    {fault : DiskFault} {disk' : Disk} (h : operation store.disk = (.error fault, disk')) :
    (onDisk operation).run store = (.error (.ofDiskFault fault), { store with disk := disk' }) := by
  rw [onDisk, run_bind_ok run_get, h]
  rfl

/-- **The tallies are written, or the file stays as it was.** They are written where nothing keeps
them from it. -/
theorem run_write (store : ReviewStore) (h : store.disk.FileAt store.path file?)
    (tallies : List (String × Tally)) :
    ∃ disk', (∃ fault, (write tallies).run store =
          (.error (.ofDiskFault fault), { store with disk := disk' }) ∧
        disk'.FileAt store.path file? ∧ ¬store.disk.Open store.path) ∨
      (write tallies).run store = (.ok (), { store with disk := disk' }) ∧
        disk'.FileAt store.path (some (utf8Bytes (document tallies))) := by
  rw [write, run_bind_ok run_get]
  have hmade := h.createDirectories
  cases hcreate : store.disk.createDirectories store.path.dropLast with
  | mk result made =>
  rw [hcreate] at hmade
  cases result with
  | error fault =>
    refine ⟨made, .inl ⟨fault, run_bind_error (run_onDisk_error hcreate), hmade, fun hopen => ?_⟩⟩
    cases hopen.createDirectories.symm.trans hcreate
  | ok =>
    rw [run_bind_ok (run_onDisk hcreate)]
    obtain ⟨written, ⟨⟨fault, hwrite⟩, hwritten⟩ | ⟨hwrite, hwritten⟩⟩ :=
      hmade.write (utf8Bytes (document tallies))
    · refine ⟨written, .inl ⟨fault, by rw [run_onDisk_error hwrite], hwritten, fun hopen => ?_⟩⟩
      cases hopen.createDirectories.symm.trans hcreate
      cases (hopen.write _).symm.trans hwrite
    · exact ⟨written, .inr ⟨by rw [run_onDisk hwrite], hwritten⟩⟩

end ReviewStore

end Registrar
