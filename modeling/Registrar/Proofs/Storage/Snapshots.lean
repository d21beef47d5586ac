import Registrar.Proofs.Storage.Invariant

/-!
# Snapshots under a changing disk

Files can come and go while a store is open: another program writes, replaces and removes them
between any two requests. What the store has read stays in memory, and may tell of a file that is
not there any more. It is still a dataset that could have been added under its id, because every
way into memory checks the same things: the id is valid and is the one that was asked for, and there
are records.

Listings are read from the files each time. Every file that does not fit is left out of them, so an
entry always speaks of the id that it is listed under.

## Main definitions

* `DatasetStore.Exposed` — stores that can come about while the files change.

## Main results

* `DatasetStore.Exposed.guarded` — only snapshots are in memory.
* `DatasetStore.exists_run_ids` — ids and listings are in order.
* `DatasetStore.snapshots_sound` — what is held, found and listed.
-/

namespace Registrar

namespace DatasetStore

variable {root : String} {store : DatasetStore} {id : String}

/-- Stores that can come about while the files change: one that was opened on any disk, what any
request leaves, and what is left if the disk becomes any other one on which the directory of the
store is there. -/
inductive Exposed (root : String) : DatasetStore → Prop where
  | start {disk : Disk} {store : DatasetStore}
      (opened : start.run ⟨root, [], disk⟩ = (.ok (), store)) : Exposed root store
  | respond {store : DatasetStore} (before : Exposed root store) (request : DatasetRequest) :
      Exposed root (store.respond request).2
  | outside {store : DatasetStore} (before : Exposed root store) (disk : Disk)
      (directory : disk.find directory = .ok .directory) : Exposed root { store with disk := disk }

/-! ### The invariant -/

/-- The disk that an operation leaves, whatever the operation comes to. -/
theorem exists_run_onDisk {α : Type} (operation : Disk → Except DiskFault α × Disk)
    (store : DatasetStore) : ∃ outcome disk,
      (onDisk operation).run store = (outcome, { store with disk := disk }) := by
  rw [onDisk, run_bind_ok run_get]
  cases operation store.disk with
  | mk result disk =>
    cases result with
    | ok value => exact ⟨_, disk, rfl⟩
    | error fault => exact ⟨_, disk, rfl⟩

/-- The files can be told only where the directory is there. -/
theorem find_directory_of_fileIds {outcome : List String} {store' : DatasetStore}
    (h : fileIds.run store = (.ok outcome, store')) :
    store' = store ∧ store.disk.find directory = .ok .directory := by
  rw [fileIds, lookAtDisk, run_bind, run_bind_ok run_get, Disk.list] at h
  cases hfind : store.disk.find directory with
  | error fault =>
    rw [hfind] at h
    cases h
  | ok node =>
    rw [hfind] at h
    cases node with
    | file content => cases h
    | directory =>
      cases h
      exact ⟨rfl, rfl⟩

/-- A store is opened only where its directory can be listed, and with nothing in memory. -/
theorem guarded_of_start {disk : Disk} (h : start.run ⟨root, [], disk⟩ = (.ok (), store)) :
    store.Guarded (store.disk.nodes.lookup ·) ∧ store.disk.find directory = .ok .directory := by
  obtain ⟨made, disk', hmade⟩ := exists_run_onDisk
    (fun disk => disk.createDirectories directory) ⟨root, [], disk⟩
  rw [start, run_bind, hmade] at h
  cases made with
  | error error => cases h
  | ok =>
    simp only [run_bind] at h
    cases hfiles : fileIds.run ⟨root, [], disk'⟩ with
    | mk found store' =>
      rw [hfiles] at h
      cases found with
      | error error => cases h
      | ok names =>
        obtain ⟨rfl, hdirectory⟩ := find_directory_of_fileIds hfiles
        cases h
        exact ⟨⟨List.forall_mem_nil _, fun _ _ => rfl⟩, hdirectory⟩

/-- **Only snapshots are in memory, and the directory is there.** -/
theorem Exposed.guarded (h : Exposed root store) :
    store.Guarded (store.disk.nodes.lookup ·) ∧ store.disk.find directory = .ok .directory := by
  induction h with
  | start hopened => exact guarded_of_start hopened
  | respond _ request ih =>
    obtain ⟨hguarded, hdirectory⟩ := ih
    have hafter := hguarded.respond (find_directory_iff.mp hdirectory) request
    exact ⟨⟨hafter.held, fun _ _ => rfl⟩,
      hafter.find_directory (find_directory_iff.mp hdirectory)⟩
  | outside _ disk hdirectory ih => exact ⟨⟨ih.1.held, fun _ _ => rfl⟩, hdirectory⟩

/-! ### Ids and listings -/

/-- **Ids and listings can always be had, and are in order.** -/
theorem exists_run_ids (h : store.disk.find directory = .ok .directory) :
    ∃ names, names.Pairwise (· < ·) ∧ ids.run store = (.ok names, store) ∧
      infos.run store = (.ok (names.filterMap store.listed?), store) := by
  obtain ⟨found, hlist⟩ : ∃ found, store.disk.list directory = .ok found := by
    rw [Disk.list, h]
    exact ⟨_, rfl⟩
  have hfiles : fileIds.run store = (.ok (found.filterMap idOfFileName?), store) := by
    rw [fileIds, run_bind_ok (run_lookAtDisk hlist)]
    rfl
  have hids : ids.run store = (.ok ((Json.sortMembers ((store.loaded.map Prod.fst ++
      found.filterMap idOfFileName?).map fun id => (id, ()))).map Prod.fst), store) := by
    rw [ids, run_bind_ok run_get, run_bind_ok hfiles]
    rfl
  refine ⟨_, Json.sorted_sortMembers _, hids, ?_⟩
  rw [infos, run_bind_ok run_get, run_bind_ok hids]
  rfl

/-- What is listed under an id has this id. -/
theorem Guarded.id_of_listed? {nodes : Path → Option Node} (h : store.Guarded nodes)
    {info : DatasetInfo} (hinfo : store.listed? id = some info) : info.id = id := by
  rw [listed?] at hinfo
  split at hinfo
  · next dataset hheld =>
    rw [← Option.some.inj hinfo]
    exact (h.held? hheld).named
  · exact id_of_fileInfo? hinfo

/-- The ids of what is listed are among the ids, and in the same order. -/
theorem Guarded.map_id_sublist {nodes : Path → Option Node} (h : store.Guarded nodes)
    (names : List String) :
    ((names.filterMap store.listed?).map DatasetInfo.id).Sublist names := by
  induction names with
  | nil => exact .slnil
  | cons name names ih =>
    rw [List.filterMap_cons]
    split
    · exact ih.cons name
    · next info hinfo =>
      rw [List.map_cons, h.id_of_listed? hinfo]
      exact ih.cons_cons name

/-! ### Asking -/

/-- No dataset has an id that is not valid; the disk is not looked at. -/
theorem run_get_of_invalid (h : isValidId id = false) (store : DatasetStore) :
    (get id).run store = (.ok none, store) := by
  rw [get, h]
  rfl

/-- A file that holds the dataset of another id is reported. -/
theorem run_get_of_misnamed {text : String} {document : DatasetDocument}
    (hvalid : isValidId id = true) (hheld : store.held? id = none)
    (htext : store.disk.readText (dataPath id) = .ok text)
    (hread : readDocument readDataset scanDataset text = .ok document) (hid : document.id ≠ id) :
    (get id).run store = (.error (.corruption ("file " ++ store.showPath (dataPath id) ++
      " holds dataset " ++ quoted document.id)), store) := by
  have hdocument : (readDataFile.liftExcept (readDocument readDataset scanDataset text)).run store =
      (.ok document, store) := by
    rw [hread]
    rfl
  rw [get, hvalid]
  simp only [Bool.not_true, Bool.false_eq_true, if_false]
  rw [run_bind_ok run_get, hheld]
  simp only
  rw [run_bind_ok run_get, htext]
  simp only
  refine run_bind_error ?_
  rw [readDataFile, run_bind_ok hdocument]
  simp only [ne_eq, hid, not_false_eq_true, if_true]
  rfl

/-- **What is held, found and listed is sound, whatever happens to the files.** -/
theorem snapshots_sound (h : Exposed root store) :
    (∀ entry ∈ store.loaded, entry.2.IsSnapshot entry.1) ∧
    (∀ id dataset store', (get id).run store = (.ok (some dataset), store') →
      dataset.IsSnapshot id) ∧
    (∀ id, isValidId id = false → ∀ disk,
      (get id).run { store with disk := disk } = (.ok none, { store with disk := disk })) ∧
    (∀ id text document, isValidId id = true → store.held? id = none →
      store.disk.readText (dataPath id) = .ok text →
      readDocument readDataset scanDataset text = .ok document → document.id ≠ id →
      (get id).run store = (.error (.corruption ("file " ++ store.showPath (dataPath id) ++
        " holds dataset " ++ quoted document.id)), store)) ∧
    ∃ names listed, ids.run store = (.ok names, store) ∧ names.Pairwise (· < ·) ∧
      infos.run store = (.ok listed, store) ∧ listed = names.filterMap store.listed? ∧
      (∀ id info, store.listed? id = some info → info.id = id) ∧
      (listed.map DatasetInfo.id).Pairwise (· < ·) ∧
      ∀ info ∈ listed, info.id ∈ names := by
  obtain ⟨hguarded, hdirectory⟩ := h.guarded
  obtain ⟨names, hsorted, hids, hinfos⟩ := exists_run_ids hdirectory
  have hsublist := hguarded.map_id_sublist names
  refine ⟨hguarded.held, fun id dataset store' hrun => ?_,
    fun id hinvalid disk => run_get_of_invalid hinvalid _,
    fun id text document hvalid hheld htext hread hid =>
      run_get_of_misnamed hvalid hheld htext hread hid,
    names, _, hids, hsorted, hinfos, rfl, fun id info => hguarded.id_of_listed?,
    hsorted.sublist hsublist, fun info hinfo => hsublist.subset (List.mem_map_of_mem hinfo)⟩
  have hfound := (ensures_get id store hguarded).2
  rw [hrun] at hfound
  exact hfound (some dataset) rfl dataset rfl

/-- A dataset is added, and its file is copied to the name of another id. -/
theorem snapshots_sound_misnamed :
    let added := ((add "ubc" oneSection ⟨0, 0, 0⟩).run
      ⟨"data", [], Disk.empty.setNode directory .directory⟩).2
    let text := (Dataset.toDocument ⟨"ubc", oneSection, ⟨0, 0, 0⟩⟩).compact
    let store := { added with disk := added.disk.setNode (dataPath "sfu") (.file (utf8Bytes text)) }
    Exposed "data" store ∧
      (∀ entry ∈ store.loaded, entry.2.IsSnapshot entry.1) ∧
      (get "s_fu").run store = (.ok none, store) ∧
      (get "sfu").run store = (.error (.corruption ("file " ++ store.showPath (dataPath "sfu") ++
        " holds dataset " ++ quoted "ubc")), store) ∧
      ∃ names listed, ids.run store = (.ok names, store) ∧ names = ["sfu", "ubc"] ∧
        infos.run store = (.ok listed, store) ∧ (listed.map DatasetInfo.id).Pairwise (· < ·) := by
  intro added text store
  have hopened : start.run ⟨"data", [], .empty⟩ =
      (.ok (), ⟨"data", [], Disk.empty.setNode directory .directory⟩) := rfl
  have hadded : Exposed "data" added :=
    .respond (.start hopened) (.add "ubc" oneSection ⟨0, 0, 0⟩)
  have hfind : store.disk.find directory = .ok .directory := by
    subst store added text
    decide +kernel
  have hexposed : Exposed "data" store := hadded.outside _ hfind
  have hfault : added.disk.writeFault? (dataPath "sfu") = none := by
    subst added
    decide +kernel
  have hfile : store.disk.find (dataPath "sfu") = .ok (.file (utf8Bytes text)) :=
    Disk.find_setNode hfault _
  have htext : store.disk.readText (dataPath "sfu") = .ok text := by
    rw [Disk.readText, Disk.readBytes, hfile, bind_ok]
    simp only [pure_bind, textOfUtf8?_utf8Bytes]
    rfl
  have hread : readDocument readDataset scanDataset text =
      .ok ⟨"ubc", ⟨0, 0, 0⟩, oneSection.reread⟩ :=
    readDocument_dataset storable_oneSection.finite storable_oneSection.time
  rw [storable_oneSection.readsBack] at hread
  have hmissing : store.held? "sfu" = none := by
    subst store added text
    decide +kernel
  have hnames : (ids.run store).1 = .ok ["sfu", "ubc"] := by
    subst store added text
    decide +kernel
  clear_value store
  obtain ⟨hheld, -, hinvalid, hmisnamed, names, listed, hids, -, hinfos, -, -, hlisted, -⟩ :=
    snapshots_sound hexposed
  have hreported := hmisnamed "sfu" text ⟨"ubc", ⟨0, 0, 0⟩, oneSection⟩ (by decide) hmissing htext
    hread (by decide)
  rw [hids] at hnames
  exact ⟨hexposed, hheld, hinvalid "s_fu" (by decide) store.disk, hreported, names, listed, hids,
    Except.ok.inj hnames, hinfos, hlisted⟩

end DatasetStore

end Registrar
