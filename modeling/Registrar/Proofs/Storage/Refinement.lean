import Registrar.Proofs.Storage.Action
import Registrar.Proofs.Storage.Catalog
import Registrar.Proofs.Storage.DatasetFile

/-!
# The dataset store is a catalog

A store keeps a dataset up to three times: in memory, in its data file and in its listing file.
Which of them answers a request depends on what was asked before. The answers do not: they are those
of the catalog that the store stands for.

A store stands for a catalog if its files are exactly those of entries that were added, if
everything in memory is in the catalog, and if what is not in memory is in the catalog as it is read
from its file. Every request keeps this, and its answer follows from it.

Numbers need not be read as they were written. A dataset that is dropped from memory is then another
one when it is asked for again, and the store stands for another catalog. So requests that drop
datasets change no answer only if all numbers are read back.

## Main definitions

* `Legible`, `Storable` — records that are read from their file, and those that are read back.
* `Entry.Sound` — an entry that was added.
* `FilesOf` — the files of a catalog.
* `DatasetStore.Written`, `DatasetStore.Represents` — a store that stands for a catalog.
* `DatasetRequest.Admissible` — what is asked of a request: numbers that are finite and read back,
  and names that the disk takes.

## Main results

* `DatasetStore.Represents.exists_restart` — a store that is opened again.
* `DatasetStore.respond_represents` — one request.
* `DatasetStore.answers_eq_catalog_answers` — any number of requests, from an empty disk on.
* `DatasetStore.answers_ne_catalog_answers` — numbers that are not read back.
-/

namespace Registrar

/-! ### Entries -/

/-- Records that are read from their file. Apart from the numbers, this asks only for what holds of
all records in memory and of all times of a clock. -/
structure Legible (records : RecordSet) (now : Timestamp) : Prop where
  finite : records.IsFinite
  /-- Listing files hold the count as a number of 64 bits. -/
  length_lt : records.length < twoPow 64
  time : now.InRange

/-- Records that are read back from their file: every number is read as it was written. -/
structure Storable (records : RecordSet) (now : Timestamp) : Prop extends Legible records now where
  readsBack : records.reread = records

namespace Entry

/-- The entry with its numbers as they are read from their texts. -/
def reread (entry : Entry) : Entry :=
  { entry with records := entry.records.reread }

/-- An entry that was added under an id. -/
structure Sound (id : String) (entry : Entry) : Prop where
  validId : isValidId id = true
  nonempty : entry.records.isEmpty = false
  legible : Legible entry.records entry.createdAt
  fits : Disk.Fits (dataFileName id)

theorem info_reread (id : String) (entry : Entry) :
    (entry.reread.dataset id).info = (entry.dataset id).info := by
  simp only [Dataset.info, dataset, reread, Dataset.kind, RecordSet.kind_reread,
    RecordSet.length_reread]

namespace Sound

variable {id : String} {entry : Entry}

theorem make (h : entry.Sound id) :
    Dataset.make id entry.records entry.createdAt = .ok (entry.dataset id) := by
  rw [Dataset.make, h.validId, h.nonempty]
  rfl

/-- What is read of an entry could have been added. -/
theorem reread (h : entry.Sound id) : entry.reread.Sound id where
  validId := h.validId
  nonempty := (RecordSet.isEmpty_reread _).trans h.nonempty
  legible := ⟨h.legible.finite.reread, (RecordSet.length_reread _).trans_lt h.legible.length_lt,
    h.legible.time⟩
  fits := h.fits

theorem make_reread (h : entry.Sound id) :
    Dataset.make id entry.records.reread entry.createdAt = .ok (entry.reread.dataset id) :=
  h.reread.make

theorem readDocument_dataset (h : entry.Sound id) :
    readDocument readDataset scanDataset (entry.dataset id).toDocument.compact =
      .ok ⟨id, entry.createdAt, entry.records.reread⟩ :=
  Registrar.readDocument_dataset h.legible.finite h.legible.time

theorem readDocument_info (h : entry.Sound id) :
    readDocument readInfo scanInfo (entry.dataset id).info.toJson.compact =
      .ok (entry.dataset id).info :=
  Registrar.readDocument_info h.legible.length_lt h.legible.time

end Sound

end Entry

/-! ### Files -/

/-- The files of a catalog: two for every entry, and no others. -/
structure FilesOf (files : String → Option (List UInt8)) (catalog : Catalog) : Prop where
  data : ∀ id, files (dataFileName id) =
    (catalog.dataset? id).map fun dataset => utf8Bytes dataset.toDocument.compact
  info : ∀ id, files (infoFileName id) =
    (catalog.dataset? id).map fun dataset => utf8Bytes dataset.info.toJson.compact
  name : ∀ name, (files name).isSome →
    ∃ id ∈ catalog, name = dataFileName id ∨ name = infoFileName id

namespace Catalog

/-- The catalog with all numbers as they are read from their texts. -/
def reread (catalog : Catalog) : Catalog :=
  catalog.map fun _ entry => entry.reread

/-- All numbers are read back. -/
def ReadsBack (catalog : Catalog) : Prop :=
  ∀ (id : String) (entry : Entry), catalog[id]? = some entry → entry.reread = entry

variable {catalog : Catalog} {id key : String} {entry : Entry}

theorem getElem?_reread (catalog : Catalog) (id : String) :
    catalog.reread[id]? = catalog[id]?.map Entry.reread :=
  Std.ExtTreeMap.getElem?_map

theorem dataset?_of_getElem? (h : catalog[id]? = some entry) :
    dataset? catalog id = some (entry.dataset id) := by
  rw [dataset?, h, Option.map_some]

theorem dataset?_insert : dataset? (catalog.insert id entry) key =
    if key = id then some (entry.dataset id) else dataset? catalog key := by
  rw [dataset?, dataset?, Std.ExtTreeMap.getElem?_insert]
  by_cases h : key = id
  · rw [if_pos (by rw [h, Std.compare_self]), if_pos h, h, Option.map_some]
  · rw [if_neg fun heq => h (Std.LawfulEqCmp.eq_of_compare heq).symm, if_neg h]

theorem dataset?_erase : dataset? (catalog.erase id) key =
    if key = id then none else dataset? catalog key := by
  rw [dataset?, dataset?, Std.ExtTreeMap.getElem?_erase]
  by_cases h : key = id
  · rw [if_pos (by rw [h, Std.compare_self]), if_pos h, Option.map_none]
  · rw [if_neg fun heq => h (Std.LawfulEqCmp.eq_of_compare heq).symm, if_neg h]

theorem erase_of_not_mem (h : id ∉ catalog) : catalog.erase id = catalog := by
  refine Std.ExtTreeMap.ext_getElem? fun key => ?_
  rw [Std.ExtTreeMap.getElem?_erase]
  split
  · next hkey =>
    rw [← Std.LawfulEqCmp.eq_of_compare hkey, Std.ExtTreeMap.getElem?_eq_none h]
  · rfl

theorem readsBack_empty : ReadsBack ∅ := by
  intro id entry hentry
  rw [Std.ExtTreeMap.getElem?_empty] at hentry
  cases hentry

theorem ReadsBack.insert (h : catalog.ReadsBack) (hentry : entry.reread = entry) :
    ReadsBack (catalog.insert id entry) := by
  intro key other hother
  rw [Std.ExtTreeMap.getElem?_insert] at hother
  split at hother
  · rwa [← Option.some.inj hother]
  · exact h key other hother

theorem ReadsBack.erase (h : catalog.ReadsBack) (id : String) : ReadsBack (catalog.erase id) := by
  intro key other hother
  rw [Std.ExtTreeMap.getElem?_erase] at hother
  split at hother
  · cases hother
  · exact h key other hother

theorem mem_iff_isSome_dataset? : id ∈ catalog ↔ (dataset? catalog id).isSome := by
  rw [dataset?, Option.isSome_map, Std.ExtTreeMap.mem_iff_isSome_getElem?]

theorem dataset?_eq_none_iff : dataset? catalog id = none ↔ id ∉ catalog := by
  rw [mem_iff_isSome_dataset?, Bool.not_eq_true, Option.isSome_eq_false_iff,
    Option.isNone_iff_eq_none]

end Catalog

namespace FilesOf

variable {files : String → Option (List UInt8)} {catalog : Catalog} {id : String} {entry : Entry}

theorem empty : FilesOf (fun _ => none) ∅ where
  data id := by rw [Catalog.dataset?, Std.ExtTreeMap.getElem?_empty]; rfl
  info id := by rw [Catalog.dataset?, Std.ExtTreeMap.getElem?_empty]; rfl
  name _ h := nomatch h

theorem temporary (h : FilesOf files catalog) (name : String) :
    files (temporaryName name) = none := by
  rw [← Option.isNone_iff_eq_none, ← Option.isSome_eq_false_iff, ← Bool.not_eq_true]
  intro hsome
  obtain ⟨id, -, hdata | hinfo⟩ := h.name _ hsome
  · exact temporaryName_ne_dataFileName name id hdata
  · exact temporaryName_ne_infoFileName name id hinfo

/-- The files after an entry was added. -/
theorem insert (h : FilesOf files catalog) (id : String) (entry : Entry) :
    FilesOf (Function.update
        (Function.update files (infoFileName id)
          (some (utf8Bytes (entry.dataset id).info.toJson.compact)))
        (dataFileName id) (some (utf8Bytes (entry.dataset id).toDocument.compact)))
      (catalog.insert id entry) where
  data key := by
    rw [Function.update_apply, Catalog.dataset?_insert]
    by_cases hkey : key = id
    · rw [if_pos (by rw [hkey]), if_pos hkey, Option.map_some]
    · rw [if_neg fun heq => hkey (dataFileName_injective heq), if_neg hkey,
        Function.update_of_ne (dataFileName_ne_infoFileName key id), h.data]
  info key := by
    rw [Function.update_of_ne (dataFileName_ne_infoFileName id key).symm, Function.update_apply,
      Catalog.dataset?_insert]
    by_cases hkey : key = id
    · rw [if_pos (by rw [hkey]), if_pos hkey, Option.map_some]
    · rw [if_neg fun heq => hkey (infoFileName_injective heq), if_neg hkey, h.info]
  name name hsome := by
    rw [Function.update_apply] at hsome
    split at hsome
    · next hname => exact ⟨id, Std.ExtTreeMap.mem_insert_self, .inl hname⟩
    rw [Function.update_apply] at hsome
    split at hsome
    · next hname => exact ⟨id, Std.ExtTreeMap.mem_insert_self, .inr hname⟩
    · obtain ⟨key, hkey, hname⟩ := h.name name hsome
      exact ⟨key, Std.ExtTreeMap.mem_insert.mpr (.inr hkey), hname⟩

/-- The files after an entry was removed. -/
theorem erase (h : FilesOf files catalog) (id : String) :
    FilesOf (Function.update (Function.update files (dataFileName id) none) (infoFileName id) none)
      (catalog.erase id) where
  data key := by
    rw [Function.update_of_ne (dataFileName_ne_infoFileName key id), Function.update_apply,
      Catalog.dataset?_erase]
    by_cases hkey : key = id
    · rw [if_pos (by rw [hkey]), if_pos hkey, Option.map_none]
    · rw [if_neg fun heq => hkey (dataFileName_injective heq), if_neg hkey, h.data]
  info key := by
    rw [Function.update_apply, Catalog.dataset?_erase]
    by_cases hkey : key = id
    · rw [if_pos (by rw [hkey]), if_pos hkey, Option.map_none]
    · rw [if_neg fun heq => hkey (infoFileName_injective heq), if_neg hkey,
        Function.update_of_ne (dataFileName_ne_infoFileName id key).symm, h.info]
  name name hsome := by
    rw [Function.update_apply] at hsome
    split at hsome
    · cases hsome
    next hinfo =>
    rw [Function.update_apply] at hsome
    split at hsome
    · cases hsome
    next hdata =>
    obtain ⟨key, hkey, hname⟩ := h.name name hsome
    refine ⟨key, ?_, hname⟩
    rw [Catalog.mem_iff_isSome_dataset?, Catalog.dataset?_erase, if_neg]
    · exact Catalog.mem_iff_isSome_dataset?.mp hkey
    · rintro rfl
      exact hname.elim hdata hinfo

end FilesOf

/-! ### Stores -/

namespace DatasetStore

/-- The files are those of entries that were added. The catalog has these entries as they are read
from their files; those in memory it may have as they were added. -/
structure Written (store : DatasetStore) (catalog : Catalog)
    (files : String → Option (List UInt8)) (written : Catalog) : Prop where
  disk : store.disk.Holds directory files
  files : FilesOf files written
  sound : ∀ id (entry : Entry), written[id]? = some entry → entry.Sound id
  shown : ∀ id, catalog[id]? = written[id]?.map Entry.reread ∨
    (store.held? id).isSome = true ∧ catalog[id]? = written[id]?

/-- The store stands for the catalog. -/
structure Represents (store : DatasetStore) (catalog : Catalog) : Prop where
  written : ∃ files written, store.Written catalog files written
  /-- What is in memory is in the catalog. -/
  held : ∀ id dataset, store.held? id = some dataset → catalog.dataset? id = some dataset

variable {store : DatasetStore} {catalog written : Catalog} {id : String}
  {files : String → Option (List UInt8)}

namespace Written

/-- What is in the catalog was added, and is there as it was added or as it is read. -/
theorem exists_entry (h : store.Written catalog files written) (hid : id ∈ catalog) :
    ∃ entry : Entry, written[id]? = some entry ∧ entry.Sound id ∧
      (catalog[id]? = some entry.reread ∨
        (store.held? id).isSome = true ∧ catalog[id]? = some entry) := by
  obtain ⟨shown, hshown⟩ := Option.isSome_iff_exists.mp
    (Std.ExtTreeMap.mem_iff_isSome_getElem?.mp hid)
  obtain hread | ⟨hheld, hsame⟩ := h.shown id
  · obtain ⟨entry, hentry, heq⟩ := Option.map_eq_some_iff.mp (hread.symm.trans hshown)
    exact ⟨entry, hentry, h.sound id entry hentry, .inl (hshown.trans (heq ▸ rfl))⟩
  · have hentry := hsame.symm.trans hshown
    exact ⟨shown, hentry, h.sound id shown hentry, .inr ⟨hheld, hshown⟩⟩

theorem mem_iff (h : store.Written catalog files written) : id ∈ written ↔ id ∈ catalog := by
  rw [Std.ExtTreeMap.mem_iff_isSome_getElem?, Std.ExtTreeMap.mem_iff_isSome_getElem?]
  obtain hread | ⟨-, hsame⟩ := h.shown id
  · rw [hread, Option.isSome_map]
  · rw [hsame]

theorem isSome_dataFile (h : store.Written catalog files written) :
    (files (dataFileName id)).isSome = true ↔ id ∈ catalog := by
  rw [h.files.data, Option.isSome_map, ← Catalog.mem_iff_isSome_dataset?, h.mem_iff]

theorem dataFile (h : store.Written catalog files written) {entry : Entry}
    (hentry : written[id]? = some entry) :
    files (dataFileName id) = some (utf8Bytes (entry.dataset id).toDocument.compact) := by
  rw [h.files.data, Catalog.dataset?_of_getElem? hentry, Option.map_some]

theorem dataFile_of_not_mem (h : store.Written catalog files written) (hid : id ∉ catalog) :
    files (dataFileName id) = none := by
  rw [← Option.isNone_iff_eq_none, ← Option.isSome_eq_false_iff, ← Bool.not_eq_true,
    h.isSome_dataFile]
  exact hid

/-- What is in memory may change. What is dropped from memory must be read back. -/
theorem withLoaded (h : store.Written catalog files written) {root : String}
    {loaded : List (String × Dataset)}
    (hkept : ∀ id, (store.held? id).isSome = true →
      (held? ⟨root, loaded, store.disk⟩ id).isSome = true ∨
        ∀ entry : Entry, catalog[id]? = some entry → entry.reread = entry) :
    Written ⟨root, loaded, store.disk⟩ catalog files written where
  disk := h.disk
  files := h.files
  sound := h.sound
  shown id := by
    obtain hread | ⟨hheld, hsame⟩ := h.shown id
    · exact .inl hread
    · refine (hkept id hheld).symm.imp (fun hback => ?_) fun hheld => ⟨hheld, hsame⟩
      cases hentry : catalog[id]? with
      | none => rw [← hsame, hentry, Option.map_none]
      | some entry => rw [← hsame, hentry, Option.map_some, hback entry hentry]

/-- The files after an entry was written, which is held in memory. -/
theorem insert (h : store.Written catalog files written) {entry : Entry} (hsound : entry.Sound id)
    {disk : Disk} (hdisk : disk.Holds directory (Function.update
      (Function.update files (infoFileName id)
        (some (utf8Bytes (entry.dataset id).info.toJson.compact)))
      (dataFileName id) (some (utf8Bytes (entry.dataset id).toDocument.compact)))) :
    ∃ files, Written ⟨store.root, Json.insertMember id (entry.dataset id) store.loaded, disk⟩
      (catalog.insert id entry) files (written.insert id entry) := by
  refine ⟨_, hdisk, h.files.insert id entry, fun key other hother => ?_, fun key => ?_⟩
  · rw [Std.ExtTreeMap.getElem?_insert] at hother
    split at hother
    · next hkey =>
      rw [← Std.LawfulEqCmp.eq_of_compare hkey, ← Option.some.inj hother]
      exact hsound
    · exact h.sound key other hother
  · rw [held?_insertMember, Std.ExtTreeMap.getElem?_insert, Std.ExtTreeMap.getElem?_insert]
    by_cases hkey : key = id
    · rw [if_pos hkey, hkey, if_pos Std.compare_self, if_pos Std.compare_self]
      exact .inr ⟨rfl, rfl⟩
    · have hcompare : ¬compare id key = .eq := fun heq =>
        hkey (Std.LawfulEqCmp.eq_of_compare heq).symm
      rw [if_neg hkey, if_neg hcompare, if_neg hcompare]
      exact h.shown key

/-- The catalog has an entry as it is read once the entry is dropped from memory. -/
theorem filter (h : store.Written catalog files written) {entry : Entry}
    (hentry : written[id]? = some entry) :
    Written ⟨store.root, store.loaded.filter fun held => held.1 ≠ id, store.disk⟩
      (catalog.insert id entry.reread) files written where
  disk := h.disk
  files := h.files
  sound := h.sound
  shown key := by
    rw [held?_filter, Std.ExtTreeMap.getElem?_insert]
    by_cases hkey : key = id
    · rw [hkey, if_pos Std.compare_self, hentry]
      exact .inl rfl
    · have hcompare : ¬compare id key = .eq := fun heq =>
        hkey (Std.LawfulEqCmp.eq_of_compare heq).symm
      rw [if_neg hkey, if_neg hcompare]
      exact h.shown key

end Written

namespace Represents

theorem holds (h : store.Represents catalog) : ∃ files, store.disk.Holds directory files := by
  obtain ⟨files, written, hwritten⟩ := h.written
  exact ⟨files, hwritten.disk⟩

/-- What is in a catalog that a store stands for could have been added. -/
theorem exists_entry (h : store.Represents catalog) (hid : id ∈ catalog) :
    ∃ entry : Entry, catalog[id]? = some entry ∧ entry.Sound id ∧
      catalog.dataset? id = some (entry.dataset id) := by
  obtain ⟨files, written, hwritten⟩ := h.written
  obtain ⟨entry, -, hsound, hread | ⟨-, hsame⟩⟩ := hwritten.exists_entry hid
  · exact ⟨_, hread, hsound.reread, Catalog.dataset?_of_getElem? hread⟩
  · exact ⟨_, hsame, hsound, Catalog.dataset?_of_getElem? hsame⟩

theorem isValidId (h : store.Represents catalog) (hid : id ∈ catalog) : isValidId id = true := by
  obtain ⟨entry, -, hsound, -⟩ := h.exists_entry hid
  exact hsound.validId

theorem fits (h : store.Represents catalog) (hid : id ∈ catalog) :
    Disk.Fits (dataFileName id) := by
  obtain ⟨entry, -, hsound, -⟩ := h.exists_entry hid
  exact hsound.fits

theorem mem_of_held? (h : store.Represents catalog) {dataset : Dataset}
    (hheld : store.held? id = some dataset) : id ∈ catalog := by
  rw [Catalog.mem_iff_isSome_dataset?, h.held id dataset hheld]
  rfl

/-! ### Listing -/

theorem run_fileIds (h : store.Represents catalog) :
    ∃ found, fileIds.run store = (.ok found, store) ∧ ∀ id, id ∈ found ↔ id ∈ catalog := by
  obtain ⟨files, written, hwritten⟩ := h.written
  obtain ⟨names, hlist, hnames⟩ := hwritten.disk.list
  obtain ⟨found, hrun, hfound⟩ := run_fileIds_of_list hlist hnames
    (fun id hid => h.isValidId (hwritten.isSome_dataFile.mp hid)) fun name hname => by
      obtain ⟨id, -, rfl | rfl⟩ := hwritten.files.name name hname
      · exact .inl ⟨id, rfl⟩
      · exact .inr (idOfFileName?_infoFileName id)
  exact ⟨found, hrun, fun id => (hfound id).trans hwritten.isSome_dataFile⟩

/-- **The ids of a store are those of its catalog.** -/
theorem run_ids (h : store.Represents catalog) : ids.run store = (.ok catalog.keys, store) := by
  obtain ⟨found, hrun, hfound⟩ := h.run_fileIds
  have hcompare : ∀ {a b : String}, compare a b = .lt → a < b := fun hlt =>
    compareOfLessAndEq_eq_lt.mp hlt
  refine run_ids_of_fileIds hrun (List.Pairwise.imp hcompare Std.ExtTreeMap.ordered_keys)
    (fun id => ?_) fun id dataset hheld => ?_
  · rw [hfound, Std.ExtTreeMap.mem_keys]
  · exact Std.ExtTreeMap.mem_keys.mpr (h.mem_of_held? hheld)

theorem fileInfo? (h : store.Represents catalog) (hid : id ∈ catalog) :
    fileInfo? store.disk id = (catalog.dataset? id).map Dataset.info := by
  obtain ⟨files, written, hwritten⟩ := h.written
  obtain ⟨entry, hentry, hsound, hshown⟩ := hwritten.exists_entry hid
  have hinfo : (catalog.dataset? id).map Dataset.info = some (entry.dataset id).info := by
    obtain hread | ⟨-, hsame⟩ := hshown
    · rw [Catalog.dataset?_of_getElem? hread, Option.map_some, Entry.info_reread]
    · rw [Catalog.dataset?_of_getElem? hsame, Option.map_some]
  have htext : store.disk.readText (infoPath id) = .ok (entry.dataset id).info.toJson.compact :=
    hwritten.disk.readText (fits_infoFileName hsound.fits)
      (by rw [hwritten.files.info, Catalog.dataset?_of_getElem? hentry, Option.map_some])
  rw [DatasetStore.fileInfo?, htext, hinfo]
  simp only [hsound.readDocument_info]
  exact if_pos rfl

/-- **Listings show every dataset, in memory or not.** -/
theorem run_infos (h : store.Represents catalog) :
    infos.run store = (.ok catalog.infos, store) := by
  rw [infos, run_bind_ok run_get, run_bind_ok h.run_ids, run_pure, Catalog.infos,
    ← Std.ExtTreeMap.map_fst_toList_eq_keys, List.filterMap_map, ← List.filterMap_eq_map]
  refine congrArg (fun infos => (Except.ok infos, store)) (List.filterMap_congr ?_)
  intro item hitem
  have hentry : catalog[item.1]? = some item.2 :=
    Std.ExtTreeMap.mem_toList_iff_getElem?_eq_some.mp hitem
  have hdataset := Catalog.dataset?_of_getElem? hentry
  rw [Function.comp_apply, Function.comp_apply]
  show _ = some (item.2.dataset item.1).info
  cases hheld : store.held? item.1 with
  | some dataset =>
    rw [← Option.some.inj ((h.held _ _ hheld).symm.trans hdataset)]
  | none =>
    have hid : item.1 ∈ catalog := by
      rw [Catalog.mem_iff_isSome_dataset?, hdataset]
      rfl
    exact (h.fileInfo? hid).trans (by rw [hdataset, Option.map_some])

/-! ### Asking for a dataset -/

/-- What is in memory may change as long as it is in the catalog. What is dropped from memory must
be read back. -/
theorem withLoaded (h : store.Represents catalog) {loaded : List (String × Dataset)}
    (hheld : ∀ id dataset, held? ⟨store.root, loaded, store.disk⟩ id = some dataset →
      catalog.dataset? id = some dataset)
    (hkept : ∀ id, (store.held? id).isSome = true →
      (held? ⟨store.root, loaded, store.disk⟩ id).isSome = true ∨
        ∀ entry : Entry, catalog[id]? = some entry → entry.reread = entry) :
    Represents ⟨store.root, loaded, store.disk⟩ catalog := by
  obtain ⟨files, written, hwritten⟩ := h.written
  exact ⟨⟨files, written, hwritten.withLoaded hkept⟩, hheld⟩

theorem insertMember (h : store.Represents catalog) {dataset : Dataset}
    (hdataset : catalog.dataset? id = some dataset) :
    Represents ⟨store.root, Json.insertMember id dataset store.loaded, store.disk⟩ catalog := by
  refine h.withLoaded (fun key other hkey => ?_) fun key hkey => .inl ?_
  · rw [held?_insertMember] at hkey
    split at hkey
    · next heq => rw [heq, ← hkey]; exact hdataset
    · exact h.held key other hkey
  · rw [held?_insertMember]
    split
    · rfl
    · exact hkey

theorem filter (h : store.Represents catalog) (hback : catalog.ReadsBack) (id : String) :
    Represents ⟨store.root, store.loaded.filter fun entry => entry.1 ≠ id, store.disk⟩
      catalog := by
  refine h.withLoaded (fun key dataset hkey => ?_) fun key _ => .inr (hback key)
  rw [held?_filter] at hkey
  split at hkey
  · cases hkey
  · exact h.held key dataset hkey

/-- **A dataset is found exactly if it is in the catalog.** -/
theorem run_get (h : store.Represents catalog)
    (hfits : Registrar.isValidId id = true → Disk.Fits (dataFileName id)) :
    ∃ store', (get id).run store = (.ok (catalog.dataset? id), store') ∧
      store'.Represents catalog := by
  obtain ⟨files, written, hwritten⟩ := h.written
  rw [DatasetStore.get]
  by_cases hvalid : Registrar.isValidId id = true
  · rw [hvalid]
    simp only [Bool.not_true, Bool.false_eq_true, if_false]
    rw [run_bind_ok Registrar.run_get]
    cases hheld : store.held? id with
    | some dataset => exact ⟨store, by rw [h.held id dataset hheld]; rfl, h⟩
    | none =>
      simp only
      rw [run_bind_ok Registrar.run_get]
      by_cases hid : id ∈ catalog
      · obtain ⟨entry, hentry, hsound, hread | ⟨hheld', -⟩⟩ := hwritten.exists_entry hid
        · have htext : store.disk.readText (dataPath id) =
              .ok (entry.dataset id).toDocument.compact :=
            hwritten.disk.readText hsound.fits (hwritten.dataFile hentry)
          have hdataset := Catalog.dataset?_of_getElem? hread
          rw [htext]
          simp only
          rw [run_bind_ok (run_readDataFile_ok hsound.readDocument_dataset rfl
            hsound.make_reread), hdataset]
          exact ⟨_, rfl, h.insertMember hdataset⟩
        · rw [hheld] at hheld'
          cases hheld'
      · have hmissing : store.disk.readText (dataPath id) = .error .notFound :=
          hwritten.disk.readText_none (hfits hvalid) (hwritten.dataFile_of_not_mem hid)
        rw [hmissing, Catalog.dataset?_eq_none_iff.mpr hid]
        exact ⟨store, rfl, h⟩
  · have hid : id ∉ catalog := fun hid => hvalid (h.isValidId hid)
    rw [Bool.not_eq_true] at hvalid
    rw [hvalid, Catalog.dataset?_eq_none_iff.mpr hid]
    exact ⟨store, rfl, h⟩

/-- **A query gives what it gives on the records of the catalog.** -/
theorem run_query (h : store.Represents catalog) {tree : Json} (limit : Nat)
    (hfits : ∀ checked, validate tree .any = .ok checked →
      Registrar.isValidId checked.datasetId = true → Disk.Fits (dataFileName checked.datasetId)) :
    ∃ store', (query tree limit).run store = (catalog.query tree limit, store') ∧
      store'.Represents catalog := by
  cases hchecked : validate tree .any with
  | error fault =>
    rw [query, Catalog.query, hchecked]
    exact ⟨store, rfl, h⟩
  | ok checked =>
    obtain ⟨store', hget, hstore'⟩ := h.run_get (hfits checked hchecked)
    have hcatalog : catalog.query tree limit =
        answerOf tree limit checked (.ok (catalog.dataset? checked.datasetId)) := by
      rw [Catalog.query, hchecked]
      simp only
      cases catalog.dataset? checked.datasetId <;> rfl
    exact ⟨store', by rw [run_query_of_get limit hchecked hget, hcatalog], hstore'⟩

/-! ### Changes -/

theorem isSome_held?_eq_false (h : store.Represents catalog) (hid : id ∉ catalog) :
    (store.held? id).isSome = false := by
  rw [← Bool.not_eq_true]
  intro hheld
  obtain ⟨dataset, hdataset⟩ := Option.isSome_iff_exists.mp hheld
  exact hid (h.mem_of_held? hdataset)

/-- What is held in memory after an entry was added is in the catalog. -/
theorem held_insert (h : store.Represents catalog) {entry : Entry} {disk : Disk} (key : String)
    (dataset : Dataset)
    (hheld : held? ⟨store.root, Json.insertMember id (entry.dataset id) store.loaded, disk⟩ key =
      some dataset) : Catalog.dataset? (catalog.insert id entry) key = some dataset := by
  rw [held?_insertMember] at hheld
  rw [Catalog.dataset?_insert]
  split at hheld
  · next hkey => rw [if_pos hkey, hheld]
  · next hkey => rw [if_neg hkey, h.held key dataset hheld]

theorem run_requireNew (h : store.Represents catalog) (hfits : Disk.Fits (dataFileName id)) :
    (requireNew id).run store =
      (if id ∈ catalog then .error (.datasetExists id) else .ok (), store) := by
  obtain ⟨files, written, hwritten⟩ := h.written
  have hexists : (onDisk fun disk => disk.exists? (dataPath id)).run store =
      (.ok (files (dataFileName id)).isSome, store) := run_onDisk (hwritten.disk.exists? hfits)
  rw [requireNew, run_bind_ok Registrar.run_get]
  dsimp only
  by_cases hid : id ∈ catalog
  · rw [if_pos hid]
    cases (store.held? id).isSome with
    | true => rfl
    | false =>
      simp only [Bool.false_eq_true, if_false]
      rw [run_bind_ok hexists, hwritten.isSome_dataFile.mpr hid]
      rfl
  · simp only [if_neg hid, h.isSome_held?_eq_false hid, Bool.false_eq_true, if_false]
    rw [run_bind_ok hexists, hwritten.dataFile_of_not_mem hid]
    rfl

/-- **The files of a dataset are written, and it is in the catalog from then on.** -/
theorem run_register (h : store.Represents catalog)
    (hwritten : store.Written catalog files written) {entry : Entry} (hsound : entry.Sound id)
    (hfits : Disk.Fits (temporaryName (dataFileName id))) :
    ∃ store' files', (register (entry.dataset id)).run store =
        (.ok (catalog.insert id entry).keys, store') ∧
      store'.Represents (catalog.insert id entry) ∧
      store'.Written (catalog.insert id entry) files' (written.insert id entry) := by
  obtain ⟨disk, hinfo, hdisk⟩ := run_writeInPlace store hwritten.disk
    (fits_temporaryName_infoFileName hfits) (fits_infoFileName hsound.fits)
    (hwritten.files.temporary _) (entry.dataset id).info.toJson.compact
  obtain ⟨disk', hdata, hdisk'⟩ := run_writeInPlace ⟨store.root, store.loaded, disk⟩ hdisk hfits
    hsound.fits (by rw [Function.update_of_ne (temporaryName_ne_infoFileName _ id),
      hwritten.files.temporary]) (entry.dataset id).toDocument.compact
  obtain ⟨files', hwritten'⟩ := hwritten.insert hsound hdisk'
  have hstore' : Represents _ (catalog.insert id entry) := ⟨⟨_, _, hwritten'⟩, h.held_insert⟩
  refine ⟨_, files', ?_, hstore', hwritten'⟩
  have hhold : (hold (entry.dataset id)).run ⟨store.root, store.loaded, disk'⟩ =
      (.ok (), ⟨store.root, Json.insertMember id (entry.dataset id) store.loaded, disk'⟩) := rfl
  have hid : (entry.dataset id).id = id := rfl
  rw [register, hid, run_bind_ok hinfo, run_bind_ok hdata, run_bind_ok hhold]
  exact hstore'.run_ids

/-- **What is new is added.** -/
theorem run_add_new (h : store.Represents catalog)
    (hwritten : store.Written catalog files written) {entry : Entry} (hsound : entry.Sound id)
    (hfits : Disk.Fits (temporaryName (dataFileName id))) (hid : id ∉ catalog) :
    ∃ store' files', (add id entry.records entry.createdAt).run store =
        (.ok (catalog.insert id entry).keys, store') ∧
      store'.Represents (catalog.insert id entry) ∧
      store'.Written (catalog.insert id entry) files' (written.insert id entry) := by
  have hrequire : (requireValidId id).run store = (.ok (), store) := by
    rw [run_requireValidId, if_pos hsound.validId]
  have hnew := h.run_requireNew hsound.fits
  rw [if_neg hid] at hnew
  have hmake : Dataset.make id entry.records entry.createdAt = .ok (entry.dataset id) :=
    hsound.make
  rw [DatasetStore.add, run_bind_ok hrequire, run_bind_ok hnew, hmake]
  exact h.run_register hwritten hsound hfits

/-- **A dataset is added as it is to the catalog.** -/
theorem run_add (h : store.Represents catalog) {records : RecordSet} {now : Timestamp}
    (hrecords : Legible records now)
    (hfits : Registrar.isValidId id = true → Disk.Fits (temporaryName (dataFileName id))) :
    ∃ store', (add id records now).run store = ((catalog.add id records now).1, store') ∧
      store'.Represents (catalog.add id records now).2 := by
  rw [Catalog.add]
  cases hvalid : Registrar.isValidId id with
  | false =>
    refine ⟨store, run_bind_error ?_, h⟩
    rw [run_requireValidId, hvalid]
    rfl
  | true =>
    have hrequire : (requireValidId id).run store = (.ok (), store) := by
      rw [run_requireValidId, if_pos hvalid]
    have hname := fits_of_temporaryName (hfits hvalid)
    have hnew := h.run_requireNew hname
    by_cases hid : id ∈ catalog
    · rw [if_pos hid] at hnew
      simp only [Bool.not_true, Bool.false_eq_true, if_false, if_pos hid]
      refine ⟨store, ?_, h⟩
      rw [DatasetStore.add, run_bind_ok hrequire]
      exact run_bind_error hnew
    simp only [Bool.not_true, Bool.false_eq_true, if_false, if_neg hid]
    cases hempty : records.isEmpty with
    | true =>
      rw [if_neg hid] at hnew
      rw [DatasetStore.add, run_bind_ok hrequire, run_bind_ok hnew, Dataset.make, hvalid, hempty]
      exact ⟨store, rfl, h⟩
    | false =>
      have hsound : Entry.Sound id ⟨records, now⟩ := ⟨hvalid, hempty, hrecords, hname⟩
      obtain ⟨files, written, hwritten⟩ := h.written
      obtain ⟨store', -, hrun, hstore', -⟩ := h.run_add_new hwritten hsound (hfits hvalid) hid
      exact ⟨store', hrun, hstore'⟩

/-- The store after the files of an id and what was in memory of it were removed. -/
theorem erase (h : store.Represents catalog) (hwritten : store.Written catalog files written)
    {disk : Disk} (hdisk : disk.Holds directory
      (Function.update (Function.update files (dataFileName id) none) (infoFileName id) none)) :
    Represents ⟨store.root, store.loaded.filter fun entry => entry.1 ≠ id, disk⟩
      (catalog.erase id) where
  written := by
    refine ⟨_, _, hdisk, hwritten.files.erase id, fun key entry hentry => ?_, fun key => ?_⟩
    · rw [Std.ExtTreeMap.getElem?_erase] at hentry
      split at hentry
      · cases hentry
      · exact hwritten.sound key entry hentry
    · rw [held?_filter, Std.ExtTreeMap.getElem?_erase, Std.ExtTreeMap.getElem?_erase]
      by_cases hkey : key = id
      · rw [hkey, if_pos Std.compare_self, if_pos Std.compare_self]
        exact .inl rfl
      · have hcompare : ¬compare id key = .eq := fun heq =>
          hkey (Std.LawfulEqCmp.eq_of_compare heq).symm
        rw [if_neg hkey, if_neg hcompare, if_neg hcompare]
        exact hwritten.shown key
  held key dataset hheld := by
    rw [held?_filter] at hheld
    rw [Catalog.dataset?_erase]
    split at hheld
    · cases hheld
    · next hkey => rw [if_neg hkey, h.held key dataset hheld]

/-- **A dataset is removed as it is from the catalog.** -/
theorem run_remove (h : store.Represents catalog)
    (hfits : Registrar.isValidId id = true → Disk.Fits (dataFileName id)) :
    ∃ store', (remove id).run store = ((catalog.remove id).1, store') ∧
      store'.Represents (catalog.remove id).2 := by
  obtain ⟨files, written, hwritten⟩ := h.written
  rw [DatasetStore.remove, Catalog.remove]
  cases hvalid : Registrar.isValidId id with
  | false =>
    refine ⟨store, run_bind_error ?_, h⟩
    rw [run_requireValidId, hvalid]
    rfl
  | true =>
    have hrequire : (requireValidId id).run store = (.ok (), store) := by
      rw [run_requireValidId, if_pos hvalid]
    obtain ⟨disk, hdata, hdisk⟩ := run_removeIfThere store hwritten.disk (hfits hvalid)
    obtain ⟨disk', hinfo, hdisk'⟩ := run_removeIfThere ⟨store.root, store.loaded, disk⟩ hdisk
      (fits_infoFileName (hfits hvalid))
    have hrelease : (release id).run ⟨store.root, store.loaded, disk'⟩ =
        (.ok (store.held? id).isSome,
          ⟨store.root, store.loaded.filter fun entry => entry.1 ≠ id, disk'⟩) := rfl
    have hstore' := h.erase hwritten hdisk'
    rw [run_bind_ok hrequire, dataPath, run_bind_ok hdata, infoPath,
      run_bind_ok (run_tryCatch_ok hinfo), run_bind_ok hrelease]
    simp only [Bool.not_true, Bool.false_eq_true, if_false]
    by_cases hid : id ∈ catalog
    · simp only [if_pos hid, hwritten.isSome_dataFile.mpr hid, Bool.not_true, Bool.and_false,
        Bool.false_eq_true, if_false]
      exact ⟨_, rfl, hstore'⟩
    · rw [Catalog.erase_of_not_mem hid] at hstore'
      simp only [if_neg hid, h.isSome_held?_eq_false hid, hwritten.dataFile_of_not_mem hid]
      exact ⟨_, rfl, hstore'⟩

/-- Dropping a dataset from memory changes no answer if its numbers are read back. -/
theorem run_evict (h : store.Represents catalog) (hback : catalog.ReadsBack) (id : String) :
    ∃ held store', (evict id).run store = (.ok held, store') ∧ store'.Represents catalog :=
  ⟨(store.held? id).isSome, _, rfl, h.filter hback id⟩

/-- **A dataset that is dropped from memory is in the catalog as it is read.** -/
theorem run_evict_reread (h : store.Represents catalog)
    (hwritten : store.Written catalog files written) {entry : Entry}
    (hentry : written[id]? = some entry) :
    ∃ held store', (evict id).run store = (.ok held, store') ∧
      store'.Represents (catalog.insert id entry.reread) := by
  refine ⟨(store.held? id).isSome, _, rfl, ⟨_, _, hwritten.filter hentry⟩, ?_⟩
  intro key dataset hheld
  rw [held?_filter] at hheld
  rw [Catalog.dataset?_insert]
  split at hheld
  · cases hheld
  · next hkey => rw [if_neg hkey, h.held key dataset hheld]

theorem run_start (h : store.Represents catalog) :
    start.run store = (.ok (), ⟨store.root, [], store.disk⟩) := by
  obtain ⟨files, written, hwritten⟩ := h.written
  have hmade : (onDisk fun disk => disk.createDirectories directory).run store = (.ok (), store) :=
    run_onDisk hwritten.disk.createDirectories
  obtain ⟨found, hfound, -⟩ := h.run_fileIds
  rw [start, run_bind_ok hmade, run_bind_ok hfound]
  rfl

/-- **A store that is opened again stands for a catalog**, which has everything as it is read. -/
theorem exists_restart (h : store.Represents catalog) (root : String) :
    ∃ catalog', Represents ⟨root, [], store.disk⟩ catalog' := by
  obtain ⟨files, written, hwritten⟩ := h.written
  exact ⟨written.reread, ⟨files, written, hwritten.disk, hwritten.files, hwritten.sound,
    fun id => .inl (written.getElem?_reread id)⟩, fun _ _ hheld => nomatch hheld⟩

/-- Opening a store again changes no answer if all numbers are read back. -/
theorem restart (h : store.Represents catalog) (hback : catalog.ReadsBack) (root : String) :
    Represents ⟨root, [], store.disk⟩ catalog := by
  obtain ⟨files, written, hwritten⟩ := h.written
  exact ⟨⟨files, written, hwritten.withLoaded fun id _ => .inr (hback id)⟩,
    fun _ _ hheld => nomatch hheld⟩

end Represents

end DatasetStore

/-! ### Requests -/

/-- What is asked of a request: records are added with numbers that are finite and read back, at a
point in time, and the disk takes the names of the files. -/
def DatasetRequest.Admissible : DatasetRequest → Prop
  | .add id records now => Storable records now ∧
    (isValidId id = true → Disk.Fits (temporaryName (dataFileName id)))
  | .remove id | .get id => isValidId id = true → Disk.Fits (dataFileName id)
  | .query tree _ => ∀ checked, validate tree .any = .ok checked →
    isValidId checked.datasetId = true → Disk.Fits (dataFileName checked.datasetId)
  | .list | .ids | .evict _ | .reopen => True

/-- The request does not change what is in a store. -/
def DatasetRequest.IsQuiet : DatasetRequest → Prop
  | .add .. | .remove _ => False
  | .get _ | .list | .ids | .evict _ | .reopen | .query .. => True

namespace DatasetStore

variable {store : DatasetStore} {catalog : Catalog} {request : DatasetRequest}
  {requests : List DatasetRequest}

/-- **The answer to a request is that of the catalog, for which the store goes on to stand**, as
long as all numbers are read back. -/
theorem respond_represents (h : store.Represents catalog) (hback : catalog.ReadsBack)
    (hrequest : request.Admissible) :
    ∃ store', store.respond request = ((catalog.respond request).1, store') ∧
      store'.Represents (catalog.respond request).2 ∧ (catalog.respond request).2.ReadsBack := by
  cases request with
  | add id records now =>
    obtain ⟨store', hrun, hstore'⟩ := h.run_add hrequest.1.toLegible hrequest.2
    refine ⟨store', by rw [respond, hrun]; rfl, hstore', ?_⟩
    show Catalog.ReadsBack (catalog.add id records now).2
    have hentry : Entry.reread ⟨records, now⟩ = ⟨records, now⟩ :=
      congrArg (Entry.mk · now) hrequest.1.readsBack
    rw [Catalog.add]
    repeat' split
    all_goals first | exact hback | exact hback.insert hentry
  | remove id =>
    obtain ⟨store', hrun, hstore'⟩ := h.run_remove hrequest
    refine ⟨store', by rw [respond, hrun]; rfl, hstore', ?_⟩
    show Catalog.ReadsBack (catalog.remove id).2
    rw [Catalog.remove]
    repeat' split
    all_goals first | exact hback | exact hback.erase id
  | get id =>
    obtain ⟨store', hrun, hstore'⟩ := h.run_get hrequest
    exact ⟨store', by rw [respond, hrun]; rfl, hstore', hback⟩
  | list => exact ⟨store, by rw [respond, h.run_infos]; rfl, h, hback⟩
  | ids => exact ⟨store, by rw [respond, h.run_ids]; rfl, h, hback⟩
  | evict id =>
    obtain ⟨held, store', hrun, hstore'⟩ := h.run_evict hback id
    exact ⟨store', by rw [respond, hrun]; rfl, hstore', hback⟩
  | reopen => exact ⟨_, by rw [respond, h.run_start]; rfl, h.restart hback store.root, hback⟩
  | query tree limit =>
    obtain ⟨store', hrun, hstore'⟩ := h.run_query limit hrequest
    exact ⟨store', by rw [respond, hrun]; rfl, hstore', hback⟩

/-- The answers of a store that stands for a catalog. -/
theorem answers_of_represents (h : store.Represents catalog) (hback : catalog.ReadsBack)
    (hrequests : ∀ request ∈ requests, request.Admissible) :
    answers respond store requests = answers Catalog.respond catalog requests := by
  induction requests generalizing store catalog with
  | nil => rfl
  | cons request requests ih =>
    obtain ⟨hfirst, hothers⟩ := List.forall_mem_cons.mp hrequests
    obtain ⟨store', hrespond, hstore', hback'⟩ := respond_represents h hback hfirst
    rw [answers, answers, hrespond]
    exact congrArg _ (ih hstore' hback' hothers)

/-- A store that is opened on an empty disk stands for the empty catalog. -/
theorem start_empty (root : String) :
    ∃ store, start.run ⟨root, [], .empty⟩ = (.ok (), store) ∧ store.Represents ∅ := by
  obtain ⟨disk, hcreate, hdisk⟩ :=
    Disk.holds_createDirectories_empty (show Disk.Fits "datasets" by decide)
  have hmade : (onDisk fun disk => disk.createDirectories directory).run ⟨root, [], .empty⟩ =
      (.ok (), ⟨root, [], disk⟩) := run_onDisk hcreate
  have hstore : Represents ⟨root, [], disk⟩ ∅ := by
    refine ⟨⟨_, _, hdisk, FilesOf.empty, fun id entry hentry => ?_, fun id => .inl ?_⟩,
      fun id dataset hheld => (nomatch hheld)⟩
    · rw [Std.ExtTreeMap.getElem?_empty] at hentry
      cases hentry
    · rw [Std.ExtTreeMap.getElem?_empty, Option.map_none]
  obtain ⟨found, hfound, -⟩ := hstore.run_fileIds
  refine ⟨⟨root, [], disk⟩, ?_, hstore⟩
  rw [start, run_bind_ok hmade, run_bind_ok hfound]
  rfl

end DatasetStore

/-- A request that changes nothing can be left out: only its own answer is missing then. -/
theorem Catalog.eraseIdx_answers {catalog : Catalog} {before after : List DatasetRequest}
    {request : DatasetRequest} (h : request.IsQuiet) :
    (answers respond catalog (before ++ request :: after)).eraseIdx before.length =
      answers respond catalog (before ++ after) := by
  induction before generalizing catalog with
  | nil =>
    have hquiet : (catalog.respond request).2 = catalog := by
      cases request with
      | add => cases h
      | remove => cases h
      | get | list | ids | evict | reopen | query => rfl
    change answers respond (catalog.respond request).2 after = _
    rw [hquiet]
    rfl
  | cons first before ih => exact congrArg _ ih

namespace DatasetStore

/-- **The answers of a store that is opened on an empty disk are those of the empty catalog, and
requests that change nothing change no later answer.** -/
theorem answers_eq_catalog_answers (root : String) {requests : List DatasetRequest}
    (h : ∀ request ∈ requests, request.Admissible) :
    ∃ store, start.run ⟨root, [], .empty⟩ = (.ok (), store) ∧
      answers respond store requests = answers Catalog.respond ∅ requests ∧
      ∀ before request after, requests = before ++ request :: after → request.IsQuiet →
        (answers respond store requests).eraseIdx before.length =
          answers respond store (before ++ after) := by
  obtain ⟨store, hstart, hstore⟩ := start_empty root
  have hback := Catalog.readsBack_empty
  refine ⟨store, hstart, answers_of_represents hstore hback h, ?_⟩
  rintro before request after rfl hquiet
  have hshorter : ∀ other ∈ before ++ after, other.Admissible := by
    intro other hother
    refine h other (List.mem_append.mpr ((List.mem_append.mp hother).imp id fun hafter => ?_))
    exact List.mem_cons_of_mem request hafter
  rw [answers_of_represents hstore hback h, answers_of_represents hstore hback hshorter]
  exact Catalog.eraseIdx_answers hquiet

theorem legible_section {s : Section} (hyear : s.year.isFinite = true)
    (havg : s.avg.isFinite = true) (hpass : s.pass.isFinite = true) (hfail : s.fail.isFinite = true)
    (haudit : s.audit.isFinite = true) : Legible (.sections [s]) ⟨0, 0, 0⟩ := by
  refine ⟨?_, show 1 < twoPow 64 by decide, ⟨by decide, by decide, by decide, by decide⟩⟩
  intro record hrecord name x hfield
  obtain rfl := List.mem_singleton.mp hrecord
  simp only [Record.field?, Section.field?] at hfield
  split at hfield
  all_goals
    simp only [Option.some.injEq, FieldValue.number.injEq, reduceCtorEq] at hfield
  all_goals
    subst hfield
    assumption

/-- A single section. -/
def oneSection : RecordSet :=
  .sections [⟨"1", "310", "sftwr eng", "holmes, reid", "cpsc", ⟨0x409f7c0000000000⟩,
    ⟨0x4058600000000000⟩, .zero, .zero, .zero⟩]

theorem storable_oneSection : Storable oneSection ⟨0, 0, 0⟩ :=
  ⟨legible_section (by decide) (by decide) (by decide) (by decide) (by decide), by decide +kernel⟩

/-- A dataset is dropped from memory, read from its file again, listed and removed. -/
def reloading : List DatasetRequest :=
  [.add "ubc" oneSection ⟨0, 0, 0⟩, .evict "ubc", .reopen, .list, .get "ubc", .remove "ubc", .ids]

theorem answers_reloading :
    (∀ request ∈ reloading, request.Admissible) ∧
    ∃ store, start.run ⟨"data", [], .empty⟩ = (.ok (), store) ∧
      answers respond store reloading =
        [.ids (.ok ["ubc"]), .done (.ok ()), .done (.ok ()),
          .listed (.ok [⟨"ubc", .sections, 1, ⟨0, 0, 0⟩⟩]),
          .found (.ok (some ⟨"ubc", oneSection, ⟨0, 0, 0⟩⟩)), .removed (.ok "ubc"),
          .ids (.ok [])] := by
  have hadmissible : ∀ request ∈ reloading, request.Admissible := by
    simp only [reloading, List.forall_mem_cons, List.not_mem_nil, false_implies, implies_true,
      and_true]
    exact ⟨⟨storable_oneSection, fun _ => by decide⟩, trivial, trivial, trivial, fun _ => by decide,
      fun _ => by decide, trivial⟩
  obtain ⟨store, hstart, hanswers, -⟩ := answers_eq_catalog_answers "data" hadmissible
  exact ⟨hadmissible, store, hstart, hanswers.trans rfl⟩

/-- **A dataset that is dropped from memory is shown as it is read.** -/
theorem answers_dropping (root : String) {id : String} {records : RecordSet} {now : Timestamp}
    (hvalid : isValidId id = true) (hfits : Disk.Fits (temporaryName (dataFileName id)))
    (hrecords : Legible records now) (hempty : records.isEmpty = false) :
    ∃ store, start.run ⟨root, [], .empty⟩ = (.ok (), store) ∧
      answers respond store [.add id records now, .evict id, .get id] =
        [.ids (.ok [id]), .done (.ok ()), .found (.ok (some ⟨id, records.reread, now⟩))] := by
  obtain ⟨store, hstart, hstore⟩ := start_empty root
  obtain ⟨files, written, hwritten⟩ := hstore.written
  have hname := fits_of_temporaryName hfits
  have hsound : Entry.Sound id ⟨records, now⟩ := ⟨hvalid, hempty, hrecords, hname⟩
  obtain ⟨added, files', hadd, hadded, hwritten'⟩ :=
    hstore.run_add_new hwritten hsound hfits Std.ExtTreeMap.not_mem_empty
  obtain ⟨held, dropped, hevict, hdropped⟩ :=
    hadded.run_evict_reread hwritten' Std.ExtTreeMap.getElem?_insert_self
  obtain ⟨last, hget, -⟩ := hdropped.run_get fun _ => hname
  rw [Catalog.dataset?_insert, if_pos rfl] at hget
  have hfirst : store.respond (.add id records now) = (.ids (.ok [id]), added) := by
    rw [respond, hadd]
    rfl
  have hsecond : added.respond (.evict id) = (.done (.ok ()), dropped) := by
    rw [respond, hevict]
    rfl
  have hthird : dropped.respond (.get id) =
      (.found (.ok (some ⟨id, records.reread, now⟩)), last) := by
    rw [respond, hget]
    rfl
  refine ⟨store, hstart, ?_⟩
  simp only [answers, hfirst, hsecond, hthird]

/-- A section that so many have passed. -/
def passedBy (count : Nat) : RecordSet :=
  .sections [⟨"1", "310", "sftwr eng", "holmes, reid", "cpsc", ⟨0x409f7c0000000000⟩,
    ⟨0x4058600000000000⟩, .ofNat count, .zero, .zero⟩]

/-- **A number that is not read back changes an answer.** The file has `8000000000000007.0`, and
8000000000000006 is read. -/
theorem answers_ne_catalog_answers :
    let requests := [.add "ubc" (passedBy 8000000000000007) ⟨0, 0, 0⟩, .evict "ubc", .get "ubc"]
    Legible (passedBy 8000000000000007) ⟨0, 0, 0⟩ ∧
    ∃ store, start.run ⟨"data", [], .empty⟩ = (.ok (), store) ∧
      answers respond store requests = [.ids (.ok ["ubc"]), .done (.ok ()),
        .found (.ok (some ⟨"ubc", passedBy 8000000000000006, ⟨0, 0, 0⟩⟩))] ∧
      answers Catalog.respond ∅ requests = [.ids (.ok ["ubc"]), .done (.ok ()),
        .found (.ok (some ⟨"ubc", passedBy 8000000000000007, ⟨0, 0, 0⟩⟩))] ∧
      passedBy 8000000000000006 ≠ passedBy 8000000000000007 := by
  have hlegible : Legible (passedBy 8000000000000007) ⟨0, 0, 0⟩ :=
    legible_section (by decide) (by decide) (by decide +kernel) (by decide) (by decide)
  have hvalid : isValidId "ubc" = true := by decide
  obtain ⟨store, hstart, hanswers⟩ := answers_dropping "data" hvalid (by decide) hlegible rfl
  have hread : (passedBy 8000000000000007).reread = passedBy 8000000000000006 := by
    decide +kernel
  rw [hread] at hanswers
  exact ⟨hlegible, store, hstart, hanswers, rfl, by decide +kernel⟩

end DatasetStore

end Registrar
