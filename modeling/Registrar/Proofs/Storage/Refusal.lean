import Registrar.Proofs.Storage.Faults
import Registrar.Proofs.Storage.QueryService

/-!
# Names that the disk refuses

A valid id can be of any length, and the names of its files are longer still. The disk refuses
names that are too long, and it does so at the first step that has to do with a file of the id.
Nothing has been changed by then, so a store stands for the same catalog as before.

## Main results

* `DatasetStore.Represents.run_add_refused`, `run_remove_refused`, `run_get_refused` — such a
  request fails and leaves the store as it is.
* `DatasetStore.Represents.exists_run_add`, `exists_run_remove`, `exists_run_query` — what requests
  come to, whatever the names.
-/

namespace Registrar

namespace Disk.Holds

variable {disk : Disk} {path : Path} {files : String → Option (List UInt8)} {name : String}

theorem find_of_not_fits (h : disk.Holds path files) (hlong : ¬Fits name) :
    disk.find (path ++ [name]) = .error .nameTooLong :=
  follow_append_of_not_fits hlong h.directory

theorem exists?_of_not_fits (h : disk.Holds path files) (hlong : ¬Fits name) :
    disk.exists? (path ++ [name]) = (.error .nameTooLong, disk) := by
  rw [Disk.exists?, h.takeFault]
  simp only [Bool.false_eq_true, if_false, probe, h.find_of_not_fits hlong]

theorem removeFile_of_not_fits (h : disk.Holds path files) (hlong : ¬Fits name) :
    disk.removeFile (path ++ [name]) = (.error .nameTooLong, disk) := by
  rw [Disk.removeFile, h.takeFault]
  simp only [Bool.false_eq_true, if_false, h.find_of_not_fits hlong]

theorem write_of_not_fits (h : disk.Holds path files) (hlong : ¬Fits name) (content : List UInt8) :
    disk.write (path ++ [name]) content = (.error .nameTooLong, disk) := by
  rw [Disk.write, h.takeFault]
  simp only [Bool.false_eq_true, if_false, Disk.writeFault?, List.dropLast_concat, h.directory,
    h.find_of_not_fits hlong]

theorem readText_of_not_fits (h : disk.Holds path files) (hlong : ¬Fits name) :
    disk.readText (path ++ [name]) = .error .nameTooLong := by
  rw [Disk.readText, Disk.readBytes, h.find_of_not_fits hlong]
  rfl

end Disk.Holds

namespace DatasetStore

variable {store : DatasetStore} {catalog : Catalog} {id : String}

/-- The temporary name of the listing file is as long as that of the data file. -/
theorem not_fits_temporaryName_infoFileName
    (hlong : ¬Disk.Fits (temporaryName (dataFileName id))) :
    ¬Disk.Fits (temporaryName (infoFileName id)) := by
  rw [Disk.Fits, temporaryName, String.utf8ByteSize_append] at hlong ⊢
  rwa [utf8ByteSize_infoFileName]

theorem run_writeInPlace_refused {files : String → Option (List UInt8)} {name : String}
    (h : store.disk.Holds directory files) (hlong : ¬Disk.Fits (temporaryName name))
    (content : String) :
    (writeInPlace name content).run store = (.error (.ofDiskFault .nameTooLong), store) := by
  rw [writeInPlace]
  exact run_bind_error (run_onDisk_error (h.write_of_not_fits hlong _))

namespace Represents

/-- An id that is too long for a data file is not looked for beyond memory. -/
theorem run_requireNew_refused (h : store.Represents catalog) (hid : id ∉ catalog)
    (hlong : ¬Disk.Fits (dataFileName id)) :
    (requireNew id).run store = (.error (.ofDiskFault .nameTooLong), store) := by
  obtain ⟨files, hdisk⟩ := h.holds
  rw [requireNew, run_bind_ok Registrar.run_get]
  simp only [h.isSome_held?_eq_false hid, Bool.false_eq_true, if_false]
  exact run_bind_error (run_onDisk_error (hdisk.exists?_of_not_fits hlong))

/-- Nothing is added under an id that is too long. -/
theorem run_add_refused (h : store.Represents catalog)
    (hlong : ¬Disk.Fits (temporaryName (dataFileName id))) (records : RecordSet)
    (now : Timestamp) : ∃ error, (add id records now).run store = (.error error, store) := by
  obtain ⟨files, hdisk⟩ := h.holds
  rw [add]
  have hvalid : (requireValidId id).run store = _ := run_requireValidId
  split at hvalid
  · rw [run_bind_ok hvalid]
    by_cases hid : id ∈ catalog
    · have hnew := h.run_requireNew (h.fits hid)
      rw [if_pos hid] at hnew
      exact ⟨_, run_bind_error hnew⟩
    by_cases hfits : Disk.Fits (dataFileName id)
    · have hnew := h.run_requireNew hfits
      rw [if_neg hid] at hnew
      rw [run_bind_ok hnew]
      cases hmake : Dataset.make id records now with
      | error fault => exact ⟨_, rfl⟩
      | ok dataset =>
        refine ⟨.ofDiskFault .nameTooLong, ?_⟩
        change (register dataset).run store = _
        rw [register, id_of_make hmake]
        exact run_bind_error
          (run_writeInPlace_refused hdisk (not_fits_temporaryName_infoFileName hlong) _)
    · exact ⟨_, run_bind_error (h.run_requireNew_refused hid hfits)⟩
  · exact ⟨_, run_bind_error hvalid⟩

/-- Nothing is removed under an id that is too long. -/
theorem run_remove_refused (h : store.Represents catalog)
    (hvalid : Registrar.isValidId id = true) (hlong : ¬Disk.Fits (dataFileName id)) :
    (remove id).run store = (.error (.ofDiskFault .nameTooLong), store) := by
  obtain ⟨files, hdisk⟩ := h.holds
  have hrequire : (requireValidId id).run store = (.ok (), store) := by
    rw [run_requireValidId, if_pos hvalid]
  rw [remove, run_bind_ok hrequire, dataPath]
  refine run_bind_error ?_
  rw [removeIfThere, run_bind_ok Registrar.run_get, hdisk.removeFile_of_not_fits hlong]
  rfl

/-- Nothing is found under an id that is too long. -/
theorem run_get_refused (h : store.Represents catalog) (hvalid : Registrar.isValidId id = true)
    (hlong : ¬Disk.Fits (dataFileName id)) :
    (get id).run store = (.error (.ofDiskFault .nameTooLong), store) := by
  obtain ⟨files, hdisk⟩ := h.holds
  have hheld : store.held? id = none := by
    rw [← Option.isNone_iff_eq_none, ← Option.isSome_eq_false_iff]
    exact h.isSome_held?_eq_false fun hid => hlong (h.fits hid)
  rw [get, hvalid]
  simp only [Bool.not_true, Bool.false_eq_true, if_false]
  rw [run_bind_ok Registrar.run_get, hheld]
  simp only
  rw [run_bind_ok Registrar.run_get, dataPath, hdisk.readText_of_not_fits hlong]
  rfl

/-! ### All names -/

/-- **Adding changes the catalog as it should, or fails and changes nothing.** -/
theorem exists_run_add (h : store.Represents catalog) (id : String) {records : RecordSet}
    {now : Timestamp} (hrecords : Legible records now) :
    ∃ outcome store', (add id records now).run store = (outcome, store') ∧
      (store'.Represents (catalog.add id records now).2 ∧ outcome = (catalog.add id records now).1 ∨
        store'.Represents catalog ∧ ∃ error, outcome = .error error) := by
  by_cases hfits : Disk.Fits (temporaryName (dataFileName id))
  · obtain ⟨store', hrun, hstore'⟩ := h.run_add hrecords fun _ => hfits
    exact ⟨_, store', hrun, .inl ⟨hstore', rfl⟩⟩
  · obtain ⟨error, hrun⟩ := h.run_add_refused hfits records now
    exact ⟨_, store, hrun, .inr ⟨h, error, rfl⟩⟩

/-- **Removing changes the catalog as it should, or fails and changes nothing.** -/
theorem exists_run_remove (h : store.Represents catalog) (id : String) :
    ∃ outcome store', (remove id).run store = (outcome, store') ∧
      (store'.Represents (catalog.remove id).2 ∧ outcome = (catalog.remove id).1 ∨
        store'.Represents catalog ∧ ∃ error, outcome = .error error) := by
  by_cases hfits : Registrar.isValidId id = true → Disk.Fits (dataFileName id)
  · obtain ⟨store', hrun, hstore'⟩ := h.run_remove hfits
    exact ⟨_, store', hrun, .inl ⟨hstore', rfl⟩⟩
  · obtain ⟨hvalid, hlong⟩ := Classical.not_imp.mp hfits
    exact ⟨_, store, h.run_remove_refused hvalid hlong, .inr ⟨h, _, rfl⟩⟩

/-- **A query leaves the catalog as it is.** -/
theorem exists_run_query (h : store.Represents catalog) (tree : Json) (limit : Nat) :
    ∃ outcome store', (query tree limit).run store = (outcome, store') ∧
      store'.Represents catalog := by
  by_cases hfits : ∀ checked, validate tree .any = .ok checked →
      Registrar.isValidId checked.datasetId = true → Disk.Fits (dataFileName checked.datasetId)
  · obtain ⟨store', hrun, hstore'⟩ := h.run_query limit hfits
    exact ⟨_, store', hrun, hstore'⟩
  · simp only [Classical.not_forall] at hfits
    obtain ⟨checked, hchecked, hvalid, hlong⟩ := hfits
    exact ⟨_, store, run_query_of_get limit hchecked (h.run_get_refused hvalid hlong), h⟩

end Represents

end DatasetStore

end Registrar
