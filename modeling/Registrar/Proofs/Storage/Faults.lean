import Registrar.Proofs.Storage.Action
import Registrar.Proofs.Storage.DatasetFile

/-!
# Files under faults

An operation on a disk with faults ahead either fails by its entry of the schedule and leaves the
nodes as they are, or does what it does on a disk without faults. So what is known of operations on
a sound directory of files carries over: the files are those of the directory, whatever faults lie
ahead.

## Main definitions

* `Disk.withFaults` — a disk with a given schedule.
* `Disk.Scheduled` — an operation that takes one entry of the schedule.
* `Disk.Keeps` — the directory at a path holds these files and nothing else.

## Main results

* `Disk.scheduled_write`, `Disk.scheduled_rename`, ... — all operations take one entry.
* `Disk.Keeps.find`, `Disk.Keeps.list` — what is found depends on the files only.
* `DatasetStore.run_writeInPlace_outcome`, `DatasetStore.run_removeIfThere_outcome` — what a change
  of the files can come to.
-/

namespace Registrar

namespace Disk

/-- The disk with these faults ahead. -/
def withFaults (disk : Disk) (faults : List Bool) : Disk :=
  { disk with schedule := faults }

/-! ### Operations that take an entry of the schedule -/

/-- The operation fails if the next entry of the schedule says so. Else it does what it does on a
disk without faults. -/
def Scheduled {α : Type} (operation : Disk → Except DiskFault α × Disk) : Prop :=
  ∀ disk, operation disk =
    if disk.schedule.headD false then (.error .scheduled, disk.withFaults disk.schedule.tail)
    else ((operation (disk.withFaults [])).1,
      (operation (disk.withFaults [])).2.withFaults disk.schedule.tail)

section

variable {α : Type} {operation : Disk → Except DiskFault α × Disk} {disk : Disk} {path : Path}
  {faults : List Bool}

theorem takeFault_eq (disk : Disk) :
    disk.takeFault = (disk.schedule.headD false, disk.withFaults disk.schedule.tail) := by
  obtain ⟨nodes, _ | ⟨fault, faults⟩⟩ := disk <;> rfl

@[simp] theorem find_withFaults (disk : Disk) (faults : List Bool) :
    (disk.withFaults faults).find path = disk.find path :=
  follow_congr fun _ _ => rfl

@[simp] theorem readBytes_withFaults (disk : Disk) (faults : List Bool) :
    (disk.withFaults faults).readBytes path = disk.readBytes path := by
  rw [readBytes, readBytes, find_withFaults]

@[simp] theorem readText_withFaults (disk : Disk) (faults : List Bool) :
    (disk.withFaults faults).readText path = disk.readText path := by
  rw [readText, readText, readBytes_withFaults]

@[simp] theorem writeFault?_withFaults (disk : Disk) (faults : List Bool) :
    (disk.withFaults faults).writeFault? path = disk.writeFault? path := by
  rw [writeFault?, writeFault?, find_withFaults, find_withFaults]

@[simp] theorem list_withFaults (disk : Disk) (faults : List Bool) :
    (disk.withFaults faults).list path = disk.list path := by
  rw [list, list, find_withFaults]
  rfl

/-- What an operation that takes an entry can come to. -/
theorem Scheduled.outcome (h : Scheduled operation) (disk : Disk) :
    operation disk = (.error .scheduled, disk.withFaults disk.schedule.tail) ∧ disk.schedule ≠ [] ∨
      operation disk = ((operation (disk.withFaults [])).1,
        (operation (disk.withFaults [])).2.withFaults disk.schedule.tail) := by
  rw [h disk]
  split
  · next hfault =>
    refine .inl ⟨rfl, ?_⟩
    intro hnil
    rw [hnil] at hfault
    cases hfault
  · exact .inr rfl

theorem scheduled_exists? (path : Path) : Scheduled fun disk => disk.exists? path := by
  intro disk
  simp only [exists?, takeFault_eq, probe, find_withFaults]
  split <;> rfl

theorem scheduled_write (path : Path) (content : List UInt8) :
    Scheduled fun disk => disk.write path content := by
  intro disk
  simp only [write, takeFault_eq, writeFault?_withFaults]
  split
  · rfl
  · cases disk.writeFault? path <;> rfl

theorem scheduled_rename (source target : Path) :
    Scheduled fun disk => disk.rename source target := by
  intro disk
  simp only [rename, takeFault_eq, readBytes_withFaults, writeFault?_withFaults]
  split
  · rfl
  · cases disk.readBytes source with
    | error fault => rfl
    | ok content => cases disk.writeFault? target <;> rfl

theorem scheduled_removeFile (path : Path) : Scheduled fun disk => disk.removeFile path := by
  intro disk
  simp only [removeFile, takeFault_eq, find_withFaults]
  split
  · rfl
  · cases disk.find path with
    | error fault => rfl
    | ok node => cases node <;> rfl

theorem makeDirectories_withFaults (disk : Disk) {base : Path} {names : List String} :
    (disk.withFaults faults).makeDirectories base names =
      ((disk.makeDirectories base names).1,
        (disk.makeDirectories base names).2.withFaults faults) := by
  induction names generalizing disk base with
  | nil => rfl
  | cons name names ih =>
    have hnode : (disk.withFaults faults).nodeAt? (base ++ [name]) =
        disk.nodeAt? (base ++ [name]) := rfl
    rw [makeDirectories, makeDirectories]
    simp only [hnode]
    split
    · rfl
    · cases disk.nodeAt? (base ++ [name]) with
      | none => exact ih (disk.setNode (base ++ [name]) .directory)
      | some node =>
        cases node with
        | directory => exact ih disk
        | file content => rfl

theorem scheduled_createDirectories (path : Path) :
    Scheduled fun disk => disk.createDirectories path := by
  intro disk
  simp only [createDirectories, takeFault_eq, makeDirectories_withFaults]
  split <;> rfl

end

/-! ### A directory of files -/

/-- The directory at a path holds the given files and nothing else, whatever faults lie ahead. -/
def Keeps (disk : Disk) (path : Path) (files : String → Option (List UInt8)) : Prop :=
  (disk.withFaults []).Holds path files

theorem Holds.keeps {disk : Disk} {path : Path} {files : String → Option (List UInt8)}
    (h : disk.Holds path files) : disk.Keeps path files :=
  ⟨rfl, (find_withFaults _ _).trans h.directory, h.file⟩

namespace Keeps

variable {disk disk' : Disk} {path : Path} {files files' : String → Option (List UInt8)}
  {name : String}

theorem withFaults (h : disk.Keeps path files) (faults : List Bool) :
    (disk.withFaults faults).Keeps path files :=
  h

/-- Files are told by the nodes of the disk. -/
theorem unique (h : disk.Keeps path files) (h' : disk.Keeps path files') : files = files' := by
  funext name
  exact Option.map_injective (fun _ _ heq => Node.file.inj heq)
    ((Holds.file h name).symm.trans (Holds.file h' name))

/-- What is found under a name is the file of this name, unless the name is too long. -/
theorem find (h : disk.Keeps path files) :
    disk.find (path ++ [name]) = if Fits name then
        (files name).elim (.error .notFound) fun content => .ok (.file content)
      else .error .nameTooLong := by
  rw [← find_withFaults disk []]
  split
  · next hfits => exact Holds.find h hfits
  · next hlong => exact follow_append_of_not_fits hlong (Holds.directory h)

theorem find_congr (h : disk.Keeps path files) (h' : disk'.Keeps path files')
    (hname : files' name = files name) :
    disk'.find (path ++ [name]) = disk.find (path ++ [name]) := by
  rw [h.find, h'.find, hname]

theorem readText_congr (h : disk.Keeps path files) (h' : disk'.Keeps path files')
    (hname : files' name = files name) :
    disk'.readText (path ++ [name]) = disk.readText (path ++ [name]) := by
  rw [readText, readText, readBytes, readBytes, h.find_congr h' hname]

theorem readText (h : disk.Keeps path files) (hfits : Fits name) {text : String}
    (hfile : files name = some (utf8Bytes text)) : disk.readText (path ++ [name]) = .ok text := by
  rw [← readText_withFaults disk []]
  exact Holds.readText h hfits hfile

theorem readText_none (h : disk.Keeps path files) (hfits : Fits name) (hfile : files name = none) :
    disk.readText (path ++ [name]) = .error .notFound := by
  rw [← readText_withFaults disk []]
  exact Holds.readText_none h hfits hfile

/-- A file that can be read is there. -/
theorem isSome_of_readText (h : disk.Keeps path files) {text : String}
    (htext : disk.readText (path ++ [name]) = .ok text) : (files name).isSome = true := by
  rw [Disk.readText, Disk.readBytes, h.find] at htext
  split at htext
  · cases hfile : files name with
    | some content => rfl
    | none =>
      rw [hfile] at htext
      cases htext
  · cases htext

theorem list (h : disk.Keeps path files) :
    ∃ names, disk.list path = .ok names ∧ ∀ name, name ∈ names ↔ (files name).isSome := by
  rw [← list_withFaults disk []]
  exact Holds.list h

/-! ### Changes of a directory

Each of these takes one entry of the schedule. A fault that is not of the schedule has a name that
is too long. -/

theorem exists? (h : disk.Keeps path files) (name : String) :
    ∃ disk', disk'.schedule = disk.schedule.tail ∧ disk'.Keeps path files ∧
      ((∃ fault, disk.exists? (path ++ [name]) = (.error fault, disk') ∧
          (Fits name → disk.schedule ≠ [])) ∨
        disk.exists? (path ++ [name]) = (.ok (files name).isSome, disk')) := by
  refine ⟨disk.withFaults disk.schedule.tail, rfl, h, ?_⟩
  obtain ⟨htaken, hfaulty⟩ | htaken := (scheduled_exists? (path ++ [name])).outcome disk
  · exact .inl ⟨_, htaken, fun _ => hfaulty⟩
  by_cases hfits : Fits name
  · exact .inr (htaken.trans (by rw [Holds.exists? h hfits]; rfl))
  · have hlong : (disk.withFaults []).exists? (path ++ [name]) =
        (.error .nameTooLong, disk.withFaults []) := by
      rw [Disk.exists?, Holds.takeFault h]
      simp only [Bool.false_eq_true, if_false, probe, (h.withFaults []).find, if_neg hfits]
    exact .inl ⟨_, htaken.trans (by rw [hlong]; rfl), fun hfits' => absurd hfits' hfits⟩

theorem write (h : disk.Keeps path files) (name : String) (content : List UInt8) :
    ∃ disk', disk'.schedule = disk.schedule.tail ∧
      ((∃ fault, disk.write (path ++ [name]) content = (.error fault, disk') ∧
          (Fits name → disk.schedule ≠ []) ∧ disk'.Keeps path files) ∨
        disk.write (path ++ [name]) content = (.ok (), disk') ∧ Fits name ∧
          disk'.Keeps path (Function.update files name (some content))) := by
  obtain ⟨htaken, hfaulty⟩ | htaken := (scheduled_write (path ++ [name]) content).outcome disk
  · exact ⟨_, rfl, .inl ⟨_, htaken, fun _ => hfaulty, h⟩⟩
  by_cases hfits : Fits name
  · obtain ⟨disk', hwrite, hdisk'⟩ := Holds.write h hfits content
    rw [hwrite] at htaken
    exact ⟨_, rfl, .inr ⟨htaken, hfits, hdisk'.keeps⟩⟩
  · have hlong : (disk.withFaults []).write (path ++ [name]) content =
        (.error .nameTooLong, disk.withFaults []) := by
      rw [Disk.write, Holds.takeFault h]
      simp only [Bool.false_eq_true, if_false, Disk.writeFault?, List.dropLast_concat,
        Holds.directory h, (h.withFaults []).find, if_neg hfits]
    rw [hlong] at htaken
    exact ⟨_, rfl, .inl ⟨_, htaken, fun hfits' => absurd hfits' hfits, h⟩⟩

theorem rename (h : disk.Keeps path files) {source target : String} (hsource : Fits source)
    (htarget : Fits target) {content : List UInt8} (hfile : files source = some content) :
    ∃ disk', disk'.schedule = disk.schedule.tail ∧
      ((∃ fault, disk.rename (path ++ [source]) (path ++ [target]) = (.error fault, disk') ∧
          disk.schedule ≠ [] ∧ disk'.Keeps path files) ∨
        disk.rename (path ++ [source]) (path ++ [target]) = (.ok (), disk') ∧
          disk'.Keeps path
            (Function.update (Function.update files source none) target (some content))) := by
  obtain ⟨htaken, hfaulty⟩ | htaken :=
    (scheduled_rename (path ++ [source]) (path ++ [target])).outcome disk
  · exact ⟨_, rfl, .inl ⟨_, htaken, hfaulty, h⟩⟩
  · obtain ⟨disk', hrename, hdisk'⟩ := Holds.rename h hsource htarget hfile
    rw [hrename] at htaken
    exact ⟨_, rfl, .inr ⟨htaken, hdisk'.keeps⟩⟩

theorem removeFile (h : disk.Keeps path files) (name : String) :
    ∃ disk', (∃ fault, disk.removeFile (path ++ [name]) = (.error fault, disk') ∧
        fault ≠ .notFound ∧ disk'.Keeps path files) ∨
      disk.removeFile (path ++ [name]) =
          (if (files name).isSome then .ok () else .error .notFound, disk') ∧ Fits name ∧
        disk'.Keeps path (Function.update files name none) := by
  obtain ⟨htaken, -⟩ | htaken := (scheduled_removeFile (path ++ [name])).outcome disk
  · exact ⟨_, .inl ⟨_, htaken, by decide, h⟩⟩
  by_cases hfits : Fits name
  · cases hfile : files name with
    | some content =>
      obtain ⟨disk', hremove, hdisk'⟩ := Holds.removeFile h hfits hfile
      rw [hremove] at htaken
      exact ⟨_, .inr ⟨htaken, hfits, hdisk'.keeps⟩⟩
    | none =>
      rw [Holds.removeFile_none h hfits hfile] at htaken
      exact ⟨_, .inr ⟨htaken, hfits, by rwa [← hfile, Function.update_eq_self]⟩⟩
  · have hlong : (disk.withFaults []).removeFile (path ++ [name]) =
        (.error .nameTooLong, disk.withFaults []) := by
      rw [Disk.removeFile, Holds.takeFault h]
      simp only [Bool.false_eq_true, if_false, (h.withFaults []).find, if_neg hfits]
    rw [hlong] at htaken
    exact ⟨_, .inl ⟨_, htaken, by decide, h⟩⟩

end Keeps

end Disk

/-! ### Changes of the files of a store -/

namespace DatasetStore

variable {store : DatasetStore} {files : String → Option (List UInt8)}

theorem run_onDisk_error {α : Type} {operation : Disk → Except DiskFault α × Disk}
    {fault : DiskFault} {disk' : Disk} (h : operation store.disk = (.error fault, disk')) :
    (onDisk operation).run store = (.error (.ofDiskFault fault), { store with disk := disk' }) := by
  rw [onDisk, run_bind_ok run_get, h]
  rfl

/-- **A file is written in place of the one that was there, or it stays as it was.** A file with the
temporary name may be left. -/
theorem run_writeInPlace_outcome (h : store.disk.Keeps directory files) (name content : String) :
    ∃ disk' files', disk'.Keeps directory files' ∧
      (store.disk.schedule = [] → disk'.schedule = []) ∧
      (∀ other, other ≠ name → other ≠ temporaryName name → files' other = files other) ∧
      ((∃ error, (writeInPlace name content).run store =
            (.error error, { store with disk := disk' }) ∧ files' name = files name ∧
          (Disk.Fits (temporaryName name) → store.disk.schedule ≠ [])) ∨
        (writeInPlace name content).run store = (.ok (), { store with disk := disk' }) ∧
          Disk.Fits (temporaryName name) ∧ files' name = some (utf8Bytes content)) := by
  have htemporary : name ≠ temporaryName name := by
    intro heq
    have hlength := congrArg String.length heq
    rw [temporaryName, String.length_append] at hlength
    exact absurd hlength (Nat.ne_of_lt (Nat.lt_add_of_pos_right (by decide)))
  rw [writeInPlace]
  obtain ⟨written, hschedule, ⟨fault, hwrite, hfaulty, hwritten⟩ | ⟨hwrite, hfits, hwritten⟩⟩ :=
    h.write (temporaryName name) (utf8Bytes content)
  · exact ⟨written, files, hwritten, fun hnil => by rw [hschedule, hnil]; rfl, fun _ _ _ => rfl,
      .inl ⟨_, run_bind_error (run_onDisk_error hwrite), rfl, hfaulty⟩⟩
  rw [run_bind_ok (run_onDisk hwrite)]
  obtain ⟨moved, hschedule', ⟨fault, hrename, hfaulty, hmoved⟩ | ⟨hrename, hmoved⟩⟩ :=
    hwritten.rename hfits (fits_of_temporaryName hfits) (Function.update_self ..)
  · refine ⟨moved, _, hmoved, fun hnil => by rw [hschedule', hschedule, hnil]; rfl,
      fun other _ hother => Function.update_of_ne hother .., .inl
      ⟨_, by rw [run_onDisk_error hrename],
        Function.update_of_ne htemporary .., fun _ hnil => hfaulty ?_⟩⟩
    rw [hschedule, hnil]
    rfl
  · refine ⟨moved, _, hmoved, fun hnil => by rw [hschedule', hschedule, hnil]; rfl,
      fun other hother hother' => ?_, .inr
      ⟨by rw [run_onDisk hrename], hfits,
        Function.update_self ..⟩⟩
    rw [Function.update_of_ne hother, Function.update_of_ne hother', Function.update_of_ne hother']

/-- **A file is removed, if it is there, or it stays as it was.** -/
theorem run_removeIfThere_outcome (h : store.disk.Keeps directory files) (name : String) :
    ∃ disk', (∃ error, (removeIfThere (directory ++ [name])).run store =
          (.error error, { store with disk := disk' }) ∧ disk'.Keeps directory files) ∨
      (removeIfThere (directory ++ [name])).run store =
          (.ok (files name).isSome, { store with disk := disk' }) ∧ Disk.Fits name ∧
        disk'.Keeps directory (Function.update files name none) := by
  rw [removeIfThere, run_bind_ok run_get]
  obtain ⟨disk', ⟨fault, hremove, hfault, hdisk'⟩ | ⟨hremove, hfits, hdisk'⟩⟩ := h.removeFile name
  · refine ⟨disk', .inl ⟨.ofDiskFault fault, ?_, hdisk'⟩⟩
    rw [hremove]
    cases fault with
    | notFound => exact absurd rfl hfault
    | _ => rfl
  · refine ⟨disk', .inr ⟨?_, hfits, hdisk'⟩⟩
    rw [hremove]
    cases (files name).isSome <;> rfl

end DatasetStore

end Registrar
