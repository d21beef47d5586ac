import Registrar.Proofs.Storage.DatasetFile
import Registrar.Storage.QueryService

/-!
# Running actions

What an action on a store does is told by running it: the outcome, and the store it leaves behind.
The lemmas here say how running an action goes from step to step, so that proofs about an operation
never look into the monad.

## Main results

* `run_bind_ok`, `run_bind_error` — one step after another.
* `DatasetStore.held?_insertMember`, `DatasetStore.held?_filter` — what is in memory after a change.
* `DatasetStore.run_writeInPlace`, `DatasetStore.run_removeIfThere` — changes of the files.
* `DatasetStore.run_ids_of_fileIds` — the ids of a store are those of its data files.
* `DatasetStore.run_query_of_get` — a query by what asking for its dataset comes to.
-/

namespace Registrar

section Run

variable {ε σ α β : Type} {x : ExceptT ε (StateM σ) α} {f : α → ExceptT ε (StateM σ) β} {s s' : σ}

theorem run_bind : (x >>= f).run s =
    match x.run s with
    | (.ok a, s') => (f a).run s'
    | (.error e, s') => (.error e, s') := by
  simp only [bind, ExceptT.bind, ExceptT.run, ExceptT.mk, StateT.bind]
  cases x s with
  | mk r s' => cases r <;> rfl

theorem run_bind_ok {a : α} (h : x.run s = (.ok a, s')) : (x >>= f).run s = (f a).run s' := by
  rw [run_bind, h]

theorem run_bind_error {e : ε} (h : x.run s = (.error e, s')) :
    (x >>= f).run s = (.error e, s') := by
  rw [run_bind, h]

theorem run_get : (get : ExceptT ε (StateM σ) σ).run s = (.ok s, s) :=
  rfl

theorem run_pure (a : α) : (pure a : ExceptT ε (StateM σ) α).run s = (.ok a, s) :=
  rfl

/-- What succeeds need not be caught. -/
theorem run_tryCatch_ok {a : α} {handle : ε → ExceptT ε (StateM σ) α} (h : x.run s = (.ok a, s')) :
    (tryCatch x handle).run s = (.ok a, s') := by
  simp only [ExceptT.run] at h
  simp only [tryCatch, tryCatchThe, MonadExceptOf.tryCatch, ExceptT.tryCatch, bind, ExceptT.run,
    ExceptT.mk, StateT.bind, h]
  rfl

/-- What fails is caught, and what it did until then stays done. -/
theorem run_tryCatch_error {e : ε} {handle : ε → ExceptT ε (StateM σ) α}
    (h : x.run s = (.error e, s')) : (tryCatch x handle).run s = (handle e).run s' := by
  simp only [ExceptT.run] at h
  simp only [tryCatch, tryCatchThe, MonadExceptOf.tryCatch, ExceptT.tryCatch, bind, ExceptT.run,
    ExceptT.mk, StateT.bind, h]

/-- A step that never fails. -/
theorem run_lift {state : StateM σ α} {a : α} (h : state s = (a, s')) :
    (liftM state : ExceptT ε (StateM σ) α).run s = (.ok a, s') := by
  simp only [liftM, monadLift, MonadLift.monadLift, ExceptT.lift, ExceptT.run, ExceptT.mk,
    Functor.map, StateT.map, h]
  rfl

end Run

namespace DatasetStore

variable {store : DatasetStore} {id : String} {files : String → Option (List UInt8)}

/-! ### The disk -/

theorem run_onDisk {α : Type} {operation : Disk → Except DiskFault α × Disk} {a : α} {disk' : Disk}
    (h : operation store.disk = (.ok a, disk')) :
    (onDisk operation).run store = (.ok a, { store with disk := disk' }) := by
  rw [onDisk, run_bind_ok run_get, h]
  rfl

theorem run_lookAtDisk {α : Type} {operation : Disk → Except DiskFault α} {a : α}
    (h : operation store.disk = .ok a) : (lookAtDisk operation).run store = (.ok a, store) := by
  rw [lookAtDisk, run_bind_ok run_get, h]
  rfl

/-- **A file is written in place of the one that was there.** -/
theorem run_writeInPlace (store : DatasetStore) {name : String}
    (h : store.disk.Holds directory files) (hfits : Disk.Fits (temporaryName name))
    (hname : Disk.Fits name) (hfree : files (temporaryName name) = none) (content : String) :
    ∃ disk', (writeInPlace name content).run store = (.ok (), { store with disk := disk' }) ∧
      disk'.Holds directory (Function.update files name (some (utf8Bytes content))) := by
  obtain ⟨written, hwrite, hwritten⟩ := h.write hfits (utf8Bytes content)
  obtain ⟨moved, hrename, hmoved⟩ := hwritten.rename hfits hname (Function.update_self ..)
  refine ⟨moved, ?_, ?_⟩
  · rw [writeInPlace, run_bind_ok (run_onDisk hwrite), run_onDisk hrename]
  · rwa [Function.update_idem, ← hfree, Function.update_eq_self] at hmoved

/-- **A file is removed, if it is there.** -/
theorem run_removeIfThere (store : DatasetStore) {name : String}
    (h : store.disk.Holds directory files) (hname : Disk.Fits name) :
    ∃ disk', (removeIfThere (directory ++ [name])).run store =
        (.ok (files name).isSome, { store with disk := disk' }) ∧
      disk'.Holds directory (Function.update files name none) := by
  cases hfile : files name with
  | none =>
    refine ⟨store.disk, ?_, ?_⟩
    · rw [removeIfThere, run_bind_ok run_get, h.removeFile_none hname hfile]
      rfl
    · rwa [← hfile, Function.update_eq_self]
  | some content =>
    obtain ⟨disk', hremove, hdisk'⟩ := h.removeFile hname hfile
    refine ⟨disk', ?_, hdisk'⟩
    rw [removeIfThere, run_bind_ok run_get, hremove]
    rfl

/-! ### Memory -/

theorem run_requireValidId :
    (requireValidId id).run store =
      (if isValidId id then .ok () else .error (.invalidId id), store) := by
  rw [requireValidId]
  split <;> rfl

theorem held?_insertMember {dataset : Dataset} {key : String} {disk : Disk} :
    held? ⟨store.root, Json.insertMember id dataset store.loaded, disk⟩ key =
      if key = id then some dataset else store.held? key :=
  Json.lookup_insertMember

theorem held?_filter {key : String} {disk : Disk} :
    held? ⟨store.root, store.loaded.filter fun entry => entry.1 ≠ id, disk⟩ key =
      if key = id then none else store.held? key :=
  lookup_filter_ne

/-! ### Asking -/

/-- The names of the files in the directory tell the ids of the data files. -/
theorem run_fileIds_of_list {names : List String} (hlist : store.disk.list directory = .ok names)
    (hnames : ∀ name, name ∈ names ↔ (files name).isSome)
    (hvalid : ∀ id, (files (dataFileName id)).isSome → isValidId id = true)
    (hother : ∀ name, (files name).isSome →
      (∃ id, name = dataFileName id) ∨ idOfFileName? name = none) :
    ∃ found, fileIds.run store = (.ok found, store) ∧
      ∀ id, id ∈ found ↔ (files (dataFileName id)).isSome := by
  have htold : ∀ id, (files (dataFileName id)).isSome →
      idOfFileName? (dataFileName id) = some id := fun id hfile =>
    idOfFileName?_dataFileName (ne_empty_of_isValidId (hvalid id hfile))
  refine ⟨names.filterMap idOfFileName?, ?_, fun id => ?_⟩
  · rw [fileIds, run_bind_ok (run_lookAtDisk hlist)]
    rfl
  rw [List.mem_filterMap]
  constructor
  · rintro ⟨name, hname, hid⟩
    have hfile := (hnames name).mp hname
    obtain ⟨key, rfl⟩ | hnone := hother name hfile
    · rw [htold key hfile] at hid
      rwa [← Option.some.inj hid]
    · rw [hnone] at hid
      cases hid
  · intro hfile
    exact ⟨dataFileName id, (hnames _).mpr hfile, htold id hfile⟩

/-- The ids are those of the files, if those in memory are among them. -/
theorem run_ids_of_fileIds {found names : List String}
    (hrun : fileIds.run store = (.ok found, store)) (hsorted : names.Pairwise (· < ·))
    (hfound : ∀ id, id ∈ found ↔ id ∈ names)
    (hheld : ∀ id dataset, store.held? id = some dataset → id ∈ names) :
    ids.run store = (.ok names, store) := by
  have hids : (Json.sortMembers ((store.loaded.map Prod.fst ++ found).map fun id =>
      (id, ()))).map Prod.fst = names := by
    refine Json.map_sortMembers_eq hsorted fun id => ?_
    rw [List.map_map]
    change _ ↔ id ∈ (store.loaded.map Prod.fst ++ found).map fun id => id
    rw [List.map_id', List.mem_append, hfound]
    refine ⟨.inr, fun hid => hid.elim (fun hmemory => ?_) fun hid => hid⟩
    obtain ⟨dataset, hdataset⟩ := Option.isSome_iff_exists.mp (mem_names_iff.mp hmemory)
    exact hheld id dataset hdataset
  rw [ids, run_bind_ok run_get, run_bind_ok hrun, run_pure, hids]

/-- A data file that holds the dataset of its id. -/
theorem run_readDataFile_ok {text : String} {document : DatasetDocument} {dataset : Dataset}
    (hread : readDocument readDataset scanDataset text = .ok document) (hid : document.id = id)
    (hmake : Dataset.make id document.records document.createdAt = .ok dataset) :
    (readDataFile id text).run store = (.ok dataset, store) := by
  have hdocument : (readDataFile.liftExcept (readDocument readDataset scanDataset text)).run store =
      (.ok document, store) := by
    rw [hread]
    rfl
  rw [readDataFile, run_bind_ok hdocument]
  simp only [hid, ne_eq, not_true_eq_false, if_false, hmake]
  rfl

/-- What a query that was checked comes to, by what asking for its dataset has come to. -/
def answerOf (tree : Json) (limit : Nat) (checked : Query) :
    Except StorageError (Option Dataset) → Except QueryError Output
  | .error error => .error (.storage error)
  | .ok none => .error (.datasetNotFound checked.datasetId)
  | .ok (some dataset) =>
    match validate tree dataset.kind.schema with
    | .error fault => .error (.ofFault fault)
    | .ok query => (execute query dataset.records.toList limit).mapError .ofExecutionError

/-- **A query asks for its dataset, and for nothing else.** -/
theorem run_query_of_get {tree : Json} {checked : Query} (limit : Nat)
    (hany : validate tree .any = .ok checked) {outcome : Except StorageError (Option Dataset)}
    {store' : DatasetStore} (hget : (get checked.datasetId).run store = (outcome, store')) :
    (query tree limit).run store = (answerOf tree limit checked outcome, store') := by
  rw [query, hany]
  simp only
  rw [run_bind_ok (run_lift hget)]
  cases outcome with
  | error error => rfl
  | ok found =>
    cases found with
    | none => rfl
    | some dataset =>
      simp only [answerOf]
      cases validate tree dataset.kind.schema with
      | error fault => rfl
      | ok checked =>
        simp only
        cases execute checked dataset.records.toList limit <;> rfl

end DatasetStore

end Registrar
