import Registrar.Proofs.Storage.Faults
import Registrar.Proofs.Storage.QueryService

/-!
# Orderly stores

Faults leave files behind that stand for no dataset: listing files without a data file, and files
with temporary names. A store stays orderly all the same. Only data files have names that tell an
id, each of them was written under an id that is valid, and what is in memory has its data file.

Requests that change nothing see no more of an orderly store than its data files, the listing files
beside these, and its memory. Stores that are alike in these answer alike, also to all that is asked
later, and whatever faults lie ahead of both.

## Main definitions

* `DatasetStore.Orderly` — the files and the memory of a store are in order.
* `DatasetStore.Alike` — what is behind the answers of two stores is the same.

## Main results

* `DatasetStore.Orderly.respond_quiet` — what requests that change nothing leave.
* `DatasetStore.Alike.answers_eq` — stores that are alike answer alike.
-/

namespace Registrar

namespace DatasetStore

variable {store store' : DatasetStore} {files files' : String → Option (List UInt8)} {id : String}

/-- Only data files have names that tell an id, each was written under a valid id whose temporary
name is not too long, and what is in memory has its data file. -/
structure Orderly (store : DatasetStore) (files : String → Option (List UInt8)) : Prop where
  keeps : store.disk.Keeps directory files
  data : ∀ id, (files (dataFileName id)).isSome →
    isValidId id = true ∧ Disk.Fits (temporaryName (dataFileName id))
  name : ∀ name, (files name).isSome → (∃ id, name = dataFileName id) ∨ idOfFileName? name = none
  held : ∀ id dataset, store.held? id = some dataset →
    dataset.id = id ∧ (files (dataFileName id)).isSome

/-- What listings show of an id. -/
def listed? (store : DatasetStore) (id : String) : Option DatasetInfo :=
  match store.held? id with
  | some dataset => some dataset.info
  | none => fileInfo? store.disk id

/-! ### Looking into an orderly store -/

namespace Orderly

theorem isValidId (h : Orderly store files) (hid : (files (dataFileName id)).isSome) :
    Registrar.isValidId id = true :=
  (h.data id hid).1

theorem fits (h : Orderly store files) (hid : (files (dataFileName id)).isSome) :
    Disk.Fits (dataFileName id) :=
  fits_of_temporaryName (h.data id hid).2

theorem held?_eq_none (h : Orderly store files) (hid : files (dataFileName id) = none) :
    store.held? id = none := by
  cases hheld : store.held? id with
  | none => rfl
  | some dataset =>
    have hfile := (h.held id dataset hheld).2
    rw [hid] at hfile
    cases hfile

theorem run_fileIds (h : Orderly store files) :
    ∃ found, fileIds.run store = (.ok found, store) ∧
      ∀ id, id ∈ found ↔ (files (dataFileName id)).isSome := by
  obtain ⟨names, hlist, hnames⟩ := h.keeps.list
  exact run_fileIds_of_list hlist hnames (fun id => h.isValidId) h.name

/-- The ids of the data files, in order. -/
theorem exists_names (h : Orderly store files) : ∃ names : List String,
    names.Pairwise (· < ·) ∧ ∀ id, id ∈ names ↔ (files (dataFileName id)).isSome := by
  obtain ⟨found, -, hfound⟩ := h.run_fileIds
  refine ⟨(Json.sortMembers (found.map fun id => (id, ()))).map Prod.fst,
    Json.sorted_sortMembers _, fun id => ?_⟩
  rw [Json.mem_map_sortMembers, List.map_map, ← hfound]
  exact Eq.to_iff (congrArg (id ∈ ·) (List.map_id found))

/-- **The ids of a store are those of its data files.** -/
theorem run_ids (h : Orderly store files) {names : List String}
    (hsorted : names.Pairwise (· < ·))
    (hnames : ∀ id, id ∈ names ↔ (files (dataFileName id)).isSome) :
    ids.run store = (.ok names, store) := by
  obtain ⟨found, hrun, hfound⟩ := h.run_fileIds
  exact run_ids_of_fileIds hrun hsorted (fun id => (hfound id).trans (hnames id).symm)
    fun id dataset hheld => (hnames id).mpr (h.held id dataset hheld).2

theorem run_infos (h : Orderly store files) {names : List String}
    (hsorted : names.Pairwise (· < ·))
    (hnames : ∀ id, id ∈ names ↔ (files (dataFileName id)).isSome) :
    infos.run store = (.ok (names.filterMap store.listed?), store) := by
  rw [infos, run_bind_ok Registrar.run_get, run_bind_ok (h.run_ids hsorted hnames)]
  rfl

/-- What is stored under an id has this id, and its data file is there. -/
theorem of_stores (h : Orderly store files) {dataset : Dataset}
    (hstores : store.Stores id dataset) :
    dataset.id = id ∧ (files (dataFileName id)).isSome := by
  cases hstores with
  | inMemory hheld => exact h.held id dataset hheld
  | onDisk _ hfile _ _ hmade => exact ⟨id_of_make hmade, h.keeps.isSome_of_readText hfile⟩

/-- A store is as orderly as another one with the same files that stored all that it holds. -/
theorem of_quiet (h : Orderly store files) (hkeeps : store'.disk.Keeps directory files)
    (hheld : ∀ id dataset, store'.held? id = some dataset → store.Stores id dataset) :
    Orderly store' files :=
  ⟨hkeeps, h.data, h.name, fun id dataset hdataset => h.of_stores (hheld id dataset hdataset)⟩

end Orderly

/-! ### Asking for a dataset -/

/-- What the data file of an id comes to depends on the store only through the directory that
messages show. -/
theorem exists_run_readDataFile (root id text : String) :
    ∃ outcome, (∀ store : DatasetStore, store.root = root →
        (readDataFile id text).run store = (outcome, store)) ∧
      ∀ dataset, outcome = .ok dataset → ∃ document,
        readDocument readDataset scanDataset text = .ok document ∧ document.id = id ∧
          Dataset.make id document.records document.createdAt = .ok dataset := by
  have hdocument : ∀ store : DatasetStore,
      (readDataFile.liftExcept (readDocument readDataset scanDataset text)).run store =
        (readDocument readDataset scanDataset text, store) := by
    intro store
    cases readDocument readDataset scanDataset text <;> rfl
  cases hread : readDocument readDataset scanDataset text with
  | error error =>
    refine ⟨.error error, fun store _ => run_bind_error ?_, fun dataset h => nomatch h⟩
    rw [hdocument, hread]
  | ok document =>
    have hrun : ∀ store, (readDataFile id text).run store = _ := fun store =>
      run_bind_ok ((hdocument store).trans (by rw [hread]))
    by_cases hid : document.id = id
    · cases hmake : Dataset.make id document.records document.createdAt with
      | error fault =>
        refine ⟨.error (.ofDatasetFault fault), fun store _ => ?_, fun dataset h => nomatch h⟩
        rw [hrun]
        simp only [hid, ne_eq, not_true_eq_false, if_false, hmake]
        rfl
      | ok dataset =>
        refine ⟨.ok dataset, fun store _ => run_readDataFile_ok hread hid hmake,
          fun other hother => ⟨document, rfl, hid, ?_⟩⟩
        rw [hmake, Except.ok.inj hother]
    · refine ⟨.error (.corruption ("file " ++ showPath ⟨root, [], .empty⟩ (dataPath id) ++
        " holds dataset " ++ quoted document.id)), ?_, fun dataset h => nomatch h⟩
      rintro store rfl
      rw [hrun]
      simp only [ne_eq, hid, not_false_eq_true, if_true]
      rfl

/-- What asking for a dataset leaves: what was found is in memory, and nothing else has changed. -/
structure Asked (store : DatasetStore) (id : String)
    (outcome : Except StorageError (Option Dataset)) (store' : DatasetStore) : Prop where
  root : store'.root = store.root
  disk : store'.disk = store.disk
  held : ∀ key, store'.held? key = match outcome with
    | .ok (some dataset) => if key = id then some dataset else store.held? key
    | _ => store.held? key
  stored : ∀ dataset, outcome = .ok (some dataset) → store.Stores id dataset

theorem Asked.refl {outcome : Except StorageError (Option Dataset)}
    (h : ∀ dataset, outcome ≠ .ok (some dataset)) : Asked store id outcome store := by
  refine ⟨rfl, rfl, fun key => ?_, fun dataset hdataset => absurd hdataset (h dataset)⟩
  split
  · next dataset => exact absurd rfl (h dataset)
  · rfl

theorem Asked.stores {outcome : Except StorageError (Option Dataset)}
    (h : Asked store id outcome store') {key : String} {dataset : Dataset}
    (hheld : store'.held? key = some dataset) : store.Stores key dataset := by
  rw [h.held] at hheld
  split at hheld
  · split at hheld
    · next hkey =>
      cases hheld
      exact hkey ▸ h.stored dataset rfl
    · exact .inMemory hheld
  · exact .inMemory hheld

theorem exists_run_get (store : DatasetStore) (id : String) :
    ∃ outcome store', (get id).run store = (outcome, store') ∧ Asked store id outcome store' := by
  rw [get]
  split
  · exact ⟨.ok none, store, rfl, .refl fun _ => by simp⟩
  rw [run_bind_ok Registrar.run_get]
  cases hheld : store.held? id with
  | some dataset =>
    refine ⟨.ok (some dataset), store, rfl, rfl, rfl, fun key => ?_, fun other hother => ?_⟩
    · simp only
      split
      · next hkey => rw [hkey, hheld]
      · rfl
    · cases hother
      exact .inMemory hheld
  | none =>
    simp only
    rw [run_bind_ok Registrar.run_get]
    cases htext : store.disk.readText (dataPath id) with
    | error fault =>
      cases fault with
      | notFound => exact ⟨.ok none, store, rfl, .refl fun _ => by simp⟩
      | _ => exact ⟨_, store, rfl, .refl fun _ => by simp⟩
    | ok text =>
      obtain ⟨outcome, hrun, houtcome⟩ := exists_run_readDataFile store.root id text
      simp only
      cases outcome with
      | error error =>
        exact ⟨_, store, run_bind_error (hrun store rfl), .refl fun _ => by simp⟩
      | ok dataset =>
        rw [run_bind_ok (hrun store rfl)]
        obtain ⟨document, hreadable, hnamed, hmade⟩ := houtcome dataset rfl
        refine ⟨_, _, rfl, rfl, rfl, fun key => ?_, fun other hother => ?_⟩
        · rw [held?_insertMember, id_of_make hmade]
        · cases hother
          exact .onDisk hheld htext hreadable hnamed hmade

/-- A query is refused at once, or depends on the store only through what asking for its dataset
comes to. -/
theorem exists_run_query (tree : Json) (limit : Nat) :
    (∃ error, ∀ store, (query tree limit).run store = (.error error, store)) ∨
      ∃ id, ∃ answer : Except StorageError (Option Dataset) → Except QueryError Output,
        ∀ store outcome store', (get id).run store = (outcome, store') →
          (query tree limit).run store = (answer outcome, store') := by
  cases hany : validate tree .any with
  | error fault =>
    refine .inl ⟨.ofFault fault, fun store => ?_⟩
    rw [query, hany]
    rfl
  | ok checked =>
    exact .inr ⟨checked.datasetId, answerOf tree limit checked,
      fun store outcome store' hget => run_query_of_get limit hany hget⟩

/-- Opening a store again takes one entry of the schedule. -/
theorem Orderly.run_start (h : Orderly store files) : start.run store =
    if store.disk.schedule.headD false then
      (.error (.ofDiskFault .scheduled),
        { store with disk := store.disk.withFaults store.disk.schedule.tail })
    else (.ok (), ⟨store.root, [], store.disk.withFaults store.disk.schedule.tail⟩) := by
  have htaken := Disk.scheduled_createDirectories directory store.disk
  simp only [Disk.Holds.createDirectories h.keeps] at htaken
  rw [start]
  split
  · next hfault =>
    rw [if_pos hfault] at htaken
    exact run_bind_error (run_onDisk_error htaken)
  · next hfault =>
    rw [if_neg hfault] at htaken
    have hmade : Orderly { store with disk := store.disk.withFaults store.disk.schedule.tail }
        files := ⟨h.keeps, h.data, h.name, h.held⟩
    obtain ⟨found, hfound, -⟩ := hmade.run_fileIds
    have hcreate : (onDisk fun disk => disk.createDirectories directory).run store = (.ok (),
        { store with disk := store.disk.withFaults store.disk.schedule.tail }) := run_onDisk htaken
    rw [run_bind_ok hcreate, run_bind_ok hfound]
    rfl

/-! ### Requests that change nothing -/

/-- **Requests that change nothing leave the files as they are**, and hold in memory only what was
stored before. -/
theorem Orderly.respond_quiet (h : Orderly store files) {request : DatasetRequest}
    (hquiet : request.IsQuiet) :
    (store.respond request).2.disk.Keeps directory files ∧
      ∀ id dataset, (store.respond request).2.held? id = some dataset →
        store.Stores id dataset := by
  obtain ⟨names, hsorted, hnames⟩ := h.exists_names
  cases request with
  | add => cases hquiet
  | remove => cases hquiet
  | get id =>
    obtain ⟨outcome, store', hrun, hstore'⟩ := exists_run_get store id
    rw [respond, hrun]
    exact ⟨hstore'.disk ▸ h.keeps, fun key dataset => hstore'.stores⟩
  | list =>
    rw [respond, h.run_infos hsorted hnames]
    exact ⟨h.keeps, fun key dataset hheld => .inMemory hheld⟩
  | ids =>
    rw [respond, h.run_ids hsorted hnames]
    exact ⟨h.keeps, fun key dataset hheld => .inMemory hheld⟩
  | evict id =>
    refine ⟨h.keeps, fun key dataset hheld => ?_⟩
    have hheld' := held?_filter.symm.trans hheld
    split at hheld'
    · cases hheld'
    · exact .inMemory hheld'
  | reopen =>
    rw [respond, h.run_start]
    split
    · exact ⟨h.keeps, fun key dataset hheld => .inMemory hheld⟩
    · exact ⟨h.keeps, fun key dataset hheld => by cases hheld⟩
  | query tree limit =>
    obtain ⟨error, hrun⟩ | ⟨id, answer, hrun⟩ := exists_run_query tree limit
    · rw [respond, hrun]
      exact ⟨h.keeps, fun key dataset hheld => .inMemory hheld⟩
    · obtain ⟨outcome, store', hget, hstore'⟩ := exists_run_get store id
      rw [respond, hrun store outcome store' hget]
      exact ⟨hstore'.disk ▸ h.keeps, fun key dataset => hstore'.stores⟩

/-! ### Stores that are alike -/

/-- Both stores are orderly, hold the same in memory, and have the same data files with the same
listing files beside them. -/
structure Alike (store store' : DatasetStore) : Prop where
  root : store'.root = store.root
  held : ∀ id, store'.held? id = store.held? id
  files : ∃ files files', Orderly store files ∧ Orderly store' files' ∧
    ∀ id, files' (dataFileName id) = files (dataFileName id) ∧
      ((files (dataFileName id)).isSome → files' (infoFileName id) = files (infoFileName id))

namespace Alike

theorem refl (h : Orderly store files) : Alike store store :=
  ⟨rfl, fun _ => rfl, files, files, h, h, fun _ => ⟨rfl, fun _ => rfl⟩⟩

theorem trans {store'' : DatasetStore} (h : Alike store store') (h' : Alike store' store'') :
    Alike store store'' := by
  obtain ⟨files, files', hfiles, hfiles', heq⟩ := h.files
  obtain ⟨middle, files'', hmiddle, hfiles'', heq'⟩ := h'.files
  obtain rfl := hfiles'.keeps.unique hmiddle.keeps
  refine ⟨h'.root.trans h.root, fun id => (h'.held id).trans (h.held id), files, files'', hfiles,
    hfiles'', fun id => ⟨(heq' id).1.trans (heq id).1, fun hid => ?_⟩⟩
  exact ((heq' id).2 (by rwa [(heq id).1])).trans ((heq id).2 hid)

/-- Faults that lie ahead do not count. -/
theorem withFaults (h : Alike store store') (faults faults' : List Bool) :
    Alike { store with disk := store.disk.withFaults faults }
      { store' with disk := store'.disk.withFaults faults' } := by
  obtain ⟨files, files', hfiles, hfiles', heq⟩ := h.files
  exact ⟨h.root, h.held, files, files', ⟨hfiles.keeps, hfiles.data, hfiles.name, hfiles.held⟩,
    ⟨hfiles'.keeps, hfiles'.data, hfiles'.name, hfiles'.held⟩, heq⟩

theorem listed?_eq (h : Alike store store') (hid : ∃ files, Orderly store files ∧
    (files (dataFileName id)).isSome) : store'.listed? id = store.listed? id := by
  obtain ⟨files, files', hfiles, hfiles', heq⟩ := h.files
  obtain ⟨_, hother, hid⟩ := hid
  obtain rfl := hfiles.keeps.unique hother.keeps
  rw [listed?, listed?, h.held, fileInfo?, fileInfo?, infoPath,
    hfiles.keeps.readText_congr hfiles'.keeps ((heq id).2 hid)]

/-- Asking stores that are alike for a dataset comes to the same. -/
theorem get_eq (h : Alike store store') (id : String) :
    ((get id).run store').1 = ((get id).run store).1 := by
  obtain ⟨files, files', hfiles, hfiles', heq⟩ := h.files
  rw [get]
  split
  · rfl
  rw [run_bind_ok Registrar.run_get, run_bind_ok Registrar.run_get, h.held]
  cases store.held? id with
  | some dataset => rfl
  | none =>
    simp only
    rw [run_bind_ok Registrar.run_get, run_bind_ok Registrar.run_get, dataPath,
      hfiles.keeps.readText_congr hfiles'.keeps (heq id).1]
    cases store.disk.readText (directory ++ [dataFileName id]) with
    | error fault => cases fault <;> rfl
    | ok text =>
      obtain ⟨outcome, hrun, -⟩ := exists_run_readDataFile store.root id text
      simp only
      cases outcome with
      | error error => rw [run_bind_error (hrun store rfl), run_bind_error (hrun store' h.root)]
      | ok dataset =>
        rw [run_bind_ok (hrun store rfl), run_bind_ok (hrun store' h.root)]
        rfl

/-- What was asked of both stores leaves them alike. -/
theorem asked (h : Alike store store') {outcome : Except StorageError (Option Dataset)}
    {next next' : DatasetStore} (hasked : Asked store id outcome next)
    (hasked' : Asked store' id outcome next') : Alike next next' := by
  obtain ⟨files, files', hfiles, hfiles', heq⟩ := h.files
  refine ⟨hasked'.root.trans (h.root.trans hasked.root.symm), fun key => ?_, files, files',
    hfiles.of_quiet (hasked.disk ▸ hfiles.keeps) fun key dataset => hasked.stores,
    hfiles'.of_quiet (hasked'.disk ▸ hfiles'.keeps) fun key dataset => hasked'.stores, heq⟩
  rw [hasked.held, hasked'.held, h.held]

theorem filter (h : Alike store store') (id : String) :
    Alike { store with loaded := store.loaded.filter fun entry => entry.1 ≠ id }
      { store' with loaded := store'.loaded.filter fun entry => entry.1 ≠ id } := by
  obtain ⟨files, files', hfiles, hfiles', heq⟩ := h.files
  have hfilter {store : DatasetStore} {files : String → Option (List UInt8)}
      (hfiles : Orderly store files) :
      Orderly { store with loaded := store.loaded.filter fun entry => entry.1 ≠ id } files := by
    refine ⟨hfiles.keeps, hfiles.data, hfiles.name, fun key dataset hheld => ?_⟩
    have hheld' := held?_filter.symm.trans hheld
    split at hheld'
    · cases hheld'
    · exact hfiles.held key dataset hheld'
  refine ⟨h.root, fun key => ?_, files, files', hfilter hfiles, hfilter hfiles', heq⟩
  exact held?_filter.trans ((congrArg _ (h.held key)).trans held?_filter.symm)

/-- **One request that changes nothing.** The answers are the same, and so is what is behind the
answers to come. -/
theorem respond (h : Alike store store') (hschedule : store'.disk.schedule = store.disk.schedule)
    {request : DatasetRequest} (hquiet : request.IsQuiet) :
    (store'.respond request).1 = (store.respond request).1 ∧
      Alike (store.respond request).2 (store'.respond request).2 ∧
      (store'.respond request).2.disk.schedule = (store.respond request).2.disk.schedule := by
  obtain ⟨files, files', hfiles, hfiles', heq⟩ := h.files
  obtain ⟨names, hsorted, hnames⟩ := hfiles.exists_names
  have hnames' : ∀ id, id ∈ names ↔ (files' (dataFileName id)).isSome := fun id => by
    rw [hnames, (heq id).1]
  have hasked (id : String) : ∃ outcome next next', (DatasetStore.get id).run store =
      (outcome, next) ∧ (DatasetStore.get id).run store' = (outcome, next') ∧ Alike next next' ∧
      next'.disk.schedule = next.disk.schedule := by
    obtain ⟨outcome, next, hrun, hnext⟩ := exists_run_get store id
    obtain ⟨outcome', next', hrun', hnext'⟩ := exists_run_get store' id
    have hsame := h.get_eq id
    rw [hrun, hrun'] at hsame
    obtain rfl : outcome' = outcome := hsame
    exact ⟨outcome', next, next', hrun, hrun', h.asked hnext hnext', by
      rw [hnext.disk, hnext'.disk, hschedule]⟩
  cases request with
  | add => cases hquiet
  | remove => cases hquiet
  | get id =>
    obtain ⟨outcome, next, next', hrun, hrun', hnext, hschedule'⟩ := hasked id
    simp only [DatasetStore.respond, hrun, hrun']
    exact ⟨rfl, hnext, hschedule'⟩
  | list =>
    simp only [DatasetStore.respond, hfiles.run_infos hsorted hnames,
      hfiles'.run_infos hsorted hnames']
    refine ⟨?_, h, hschedule⟩
    refine congrArg (fun infos => DatasetAnswer.listed (.ok infos)) (List.filterMap_congr ?_)
    exact fun id hid => h.listed?_eq ⟨files, hfiles, (hnames id).mp hid⟩
  | ids =>
    simp only [DatasetStore.respond, hfiles.run_ids hsorted hnames,
      hfiles'.run_ids hsorted hnames']
    exact ⟨rfl, h, hschedule⟩
  | evict id => exact ⟨rfl, h.filter id, hschedule⟩
  | reopen =>
    simp only [DatasetStore.respond, hfiles.run_start, hfiles'.run_start, hschedule]
    split
    · exact ⟨rfl, h.withFaults _ _, rfl⟩
    · refine ⟨rfl, ⟨h.root, fun _ => rfl, files, files', ?_, ?_, heq⟩, rfl⟩
      · exact ⟨hfiles.keeps, hfiles.data, hfiles.name, fun _ _ hheld => by cases hheld⟩
      · exact ⟨hfiles'.keeps, hfiles'.data, hfiles'.name, fun _ _ hheld => by cases hheld⟩
  | query tree limit =>
    obtain ⟨error, hrun⟩ | ⟨id, answer, hrun⟩ := exists_run_query tree limit
    · simp only [DatasetStore.respond, hrun]
      exact ⟨rfl, h, hschedule⟩
    · obtain ⟨outcome, next, next', hget, hget', hnext, hschedule'⟩ := hasked id
      simp only [DatasetStore.respond, hrun _ _ _ hget, hrun _ _ _ hget']
      exact ⟨rfl, hnext, hschedule'⟩

/-- **Stores that are alike answer alike**, with the same faults ahead. -/
theorem answers_eq (h : Alike store store')
    (hschedule : store'.disk.schedule = store.disk.schedule) {requests : List DatasetRequest}
    (hquiet : ∀ request ∈ requests, request.IsQuiet) :
    answers DatasetStore.respond store' requests = answers DatasetStore.respond store requests := by
  induction requests generalizing store store' with
  | nil => rfl
  | cons request requests ih =>
    obtain ⟨hfirst, hothers⟩ := List.forall_mem_cons.mp hquiet
    obtain ⟨hanswer, hnext, hschedule'⟩ := h.respond hschedule hfirst
    rw [answers, answers]
    exact congrArg₂ List.cons hanswer (ih hnext hschedule' hothers)

end Alike

end DatasetStore

end Registrar
