import Registrar.Proofs.Storage.Invariant
import Registrar.Proofs.Storage.Reviews

/-!
# Two stores on one disk

The datasets are files in a directory, and the reviews are one file beside this directory. Neither
store looks at the files of the other one or changes them. So what holds of one store goes on to
hold of it when the other one has changed the disk.

## Main definitions

* `ReviewStore.Confined` — the disk is as it was but for the file of the reviews.

## Main results

* `ReviewStore.Confined.respond` — requests to the reviews change nothing else.
* `DatasetStore.Represents.ofDisk` — the datasets do not depend on the file of the reviews.
* `ReviewStore.Kept.ofDisk` — the reviews do not depend on the directory of the datasets.
-/

namespace Registrar

/-! ### Faults ahead -/

namespace Disk

variable {disk : Disk} {path : Path}

theorem schedule_write (content : List UInt8) :
    (disk.write path content).2.schedule = disk.schedule.tail := by
  rw [write, takeFault_eq]
  simp only
  split
  · rfl
  split <;> rfl

theorem createDirectories_nil (disk : Disk) :
    (disk.createDirectories []).2 = disk.withFaults disk.schedule.tail := by
  rw [createDirectories, takeFault_eq]
  simp only
  split <;> rfl

/-- What is found at the top of a disk is told by its node. -/
theorem FileAt.congr {disk' : Disk} {name : String} {file? : Option (List UInt8)}
    (h : disk.FileAt [name] file?)
    (hlookup : disk'.nodes.lookup [name] = disk.nodes.lookup [name]) :
    disk'.FileAt [name] file? := by
  have hnode : disk'.nodeAt? [name] = disk.nodeAt? [name] := hlookup
  cases file? with
  | none => exact fun content => hnode ▸ h content
  | some content =>
    have hfind : disk'.find [name] = disk.find [name] := by
      refine follow_congr fun part hpart => ?_
      cases part with
      | nil => rfl
      | cons first rest =>
        obtain ⟨rfl, hrest⟩ := List.cons_prefix_cons.mp hpart
        rw [List.prefix_nil.mp hrest]
        exact hnode
    exact hfind.trans h

end Disk

/-! ### The file of the reviews -/

namespace ReviewStore

/-- The file of the store is at the top of the disk, no faults lie ahead, and everywhere else the
disk has the given nodes. -/
structure Confined (name : String) (nodes : Path → Option Node) (store : ReviewStore) : Prop where
  path : store.path = [name]
  healthy : store.disk.schedule = []
  elsewhere : ∀ path, path ≠ [name] → store.disk.nodes.lookup path = nodes path

variable {name : String} {nodes : Path → Option Node} {store : ReviewStore}

theorem ensures_onDisk {α : Type} {operation : Disk → Except DiskFault α × Disk}
    (hschedule : ∀ disk : Disk, (operation disk).2.schedule = disk.schedule.tail)
    (hlookup : ∀ (disk : Disk) path, path ≠ [name] →
      (operation disk).2.nodes.lookup path = disk.nodes.lookup path) :
    Ensures (Confined name nodes) (onDisk operation) fun _ => True := by
  refine ensures_getState.bind fun store hstore => (ensures_setState ?_).bind fun _ _ => ?_
  · refine ⟨hstore.path, ?_, fun path hpath => ?_⟩
    · rw [hschedule, hstore.healthy, List.tail_nil]
    · exact (hlookup _ path hpath).trans (hstore.elsewhere path hpath)
  · split
    · exact ensures_pure trivial
    · exact ensures_throw

theorem ensures_write (tallies : List (String × Tally)) :
    Ensures (Confined name nodes) (write tallies) fun _ => True := by
  refine ensures_getState.bind fun store hstore => ?_
  dsimp only
  rw [hstore.path]
  refine (ensures_onDisk (fun disk => ?_) fun disk path hpath => ?_).bind fun _ _ =>
    ensures_onDisk (fun disk => disk.schedule_write _) fun disk path hpath =>
      Disk.lookup_write hpath
  · exact congrArg Disk.schedule disk.createDirectories_nil
  · exact congrArg (fun disk => disk.nodes.lookup path) disk.createDirectories_nil

theorem ensures_modify {change : ReviewStore → ReviewStore}
    (h : ∀ store, (change store).path = store.path ∧ (change store).disk = store.disk) :
    Ensures (Confined name nodes) (modify change : Action Unit) fun _ => True :=
  ensures_modifyState fun store hstore => by
    obtain ⟨hpath, hdisk⟩ := h store
    exact ⟨hpath.trans hstore.path, hdisk ▸ hstore.healthy, hdisk ▸ hstore.elsewhere⟩

theorem ensures_commit (room : String) (tally : Tally) :
    Ensures (Confined name nodes) (commit room tally) fun _ => True := by
  have hback (previous : Option Tally) (error : StorageError) : Ensures (Confined name nodes)
      (do modify (putBack room previous); throw error : Action Unit) fun _ => True := by
    refine (ensures_modify fun store => ?_).bind fun _ _ => ensures_throw
    cases previous <;> exact ⟨rfl, rfl⟩
  have hput : Ensures (Confined name nodes) (modify (put room tally) : Action Unit) fun _ => True :=
    ensures_modify fun _ => ⟨rfl, rfl⟩
  rw [commit]
  refine ensures_getState.bind fun before _ => hput.bind fun _ _ =>
    ensures_getState.bind fun after _ => ?_
  exact (ensures_write after.tallies).tryCatch (hback (before.tally? room))

/-- **Requests to the reviews change nothing on the disk but their file.** -/
theorem Confined.respond (h : store.Confined name nodes) (request : ReviewRequest) :
    (store.respond request).2.Confined name nodes := by
  cases request with
  | submit room score =>
    have hsubmit : Ensures (Confined name nodes) (submit room score) fun _ => True := by
      rw [submit]
      split
      · exact ensures_throw
      · exact ensures_getState.bind fun _ _ => (ensures_commit _ _).bind fun _ _ =>
          ensures_pure trivial
    exact (hsubmit store h).1
  | openEntry room =>
    have hopen : Ensures (Confined name nodes) (openEntry room) fun _ => True := by
      refine ensures_getState.bind fun store _ => ?_
      split
      · exact ensures_pure trivial
      · exact (ensures_commit _ _).bind fun _ _ => ensures_pure trivial
    exact (hopen store h).1
  | get room =>
    have hget : Ensures (Confined name nodes) (get room) fun _ => True := by
      refine ensures_getState.bind fun store _ => ?_
      split
      · exact ensures_pure trivial
      · exact ensures_throw
    exact (hget store h).1
  | save =>
    have hsave : Ensures (Confined name nodes) save fun _ => True :=
      ensures_getState.bind fun _ _ => ensures_write _
    exact (hsave store h).1
  | reopen =>
    have hstart : Ensures (Confined name nodes) start fun _ => True :=
      ensures_modify fun _ => ⟨rfl, rfl⟩
    exact (hstart store h).1

end ReviewStore

/-! ### Either store after the other -/

/-- **The datasets do not depend on what else is on the disk.** -/
theorem DatasetStore.Represents.ofDisk {store : DatasetStore} {catalog : Catalog}
    (h : store.Represents catalog) {disk : Disk} (hhealthy : disk.schedule = [])
    (hdirectory : disk.nodes.lookup directory = store.disk.nodes.lookup directory)
    (hfiles : ∀ name, disk.nodes.lookup (directory ++ [name]) =
      store.disk.nodes.lookup (directory ++ [name])) (root : String) :
    Represents ⟨root, store.loaded, disk⟩ catalog := by
  obtain ⟨files, written, hwritten⟩ := h.written
  have hfind := find_directory_iff.mpr
    (hdirectory.trans (find_directory_iff.mp hwritten.disk.directory))
  exact ⟨⟨files, written, ⟨hhealthy, hfind, fun name =>
    (hfiles name).trans (hwritten.disk.file name)⟩, hwritten.files, hwritten.sound,
      hwritten.shown⟩, h.held⟩

/-- **The reviews do not depend on what else is on the disk.** -/
theorem ReviewStore.Kept.ofDisk {store : ReviewStore} (h : store.Kept) {name : String}
    (hpath : store.path = [name]) {disk : Disk}
    (hlookup : disk.nodes.lookup [name] = store.disk.nodes.lookup [name]) :
    Kept { store with disk := disk } := by
  obtain ⟨file?, hfile, -⟩ := h.file
  refine (h.unchanged hfile ?_).1
  rw [hpath] at hfile ⊢
  exact hfile.congr hlookup

end Registrar
