import Registrar.Proofs.Query.Widening
import Registrar.Proofs.Storage.Refinement

/-!
# Checking a query twice

A query to the store is checked against the fields of all kinds before anything is read, and against
the fields of one kind when its dataset is at hand. The first check is there to refuse early. It
never changes what comes out: whatever the second check accepts, the first one has accepted as the
same query, so the dataset that is read is the right one.

Nothing is asked of the store here. Its files may be broken and faults may lie ahead; a dataset is
stored if it is in memory, or if its data file can be read and holds it.

## Main definitions

* `DatasetStore.Stores`, `DatasetStore.Lacks` — what is stored under an id.
* `DatasetStore.Loads` — how the store changes when a dataset is asked for.

## Main results

* `DatasetStore.run_get_of_stores` — what is stored is found.
* `DatasetStore.run_query_checks` — what a query comes to, by the two checks.
-/

namespace Registrar

namespace DatasetStore

variable {store : DatasetStore} {id : String} {dataset : Dataset} {tree : Json}

/-- The dataset is stored under the id: in memory, or else in the data file of the id. -/
inductive Stores (store : DatasetStore) (id : String) (dataset : Dataset) : Prop where
  | inMemory (held : store.held? id = some dataset)
  | onDisk {text : String} {document : DatasetDocument} (missing : store.held? id = none)
      (file : store.disk.readText (dataPath id) = .ok text)
      (readable : readDocument readDataset scanDataset text = .ok document)
      (named : document.id = id)
      (made : Dataset.make id document.records document.createdAt = .ok dataset)

/-- Nothing is stored under the id: neither in memory nor in a data file. -/
structure Lacks (store : DatasetStore) (id : String) : Prop where
  missing : store.held? id = none
  noFile : store.disk.readText (dataPath id) = .error .notFound

/-- The dataset is in memory afterwards, and nothing else has changed. -/
structure Loads (store : DatasetStore) (id : String) (dataset : Dataset) (store' : DatasetStore) :
    Prop where
  root : store'.root = store.root
  disk : store'.disk = store.disk
  held : ∀ key, store'.held? key = if key = id then some dataset else store.held? key

theorem id_of_make {records : RecordSet} {createdAt : Timestamp}
    (h : Dataset.make id records createdAt = .ok dataset) : dataset.id = id := by
  rw [Dataset.make] at h
  split at h
  · cases h
  split at h
  · cases h
  · rw [← Except.ok.inj h]

/-- **What is stored under a valid id is found.** -/
theorem run_get_of_stores (h : store.Stores id dataset) (hvalid : isValidId id = true) :
    ∃ store', (get id).run store = (.ok (some dataset), store') ∧
      store.Loads id dataset store' := by
  rw [get, hvalid]
  simp only [Bool.not_true, Bool.false_eq_true, if_false]
  rw [run_bind_ok Registrar.run_get]
  cases h with
  | inMemory hheld =>
    refine ⟨store, by rw [hheld]; rfl, rfl, rfl, fun key => ?_⟩
    split
    · next hkey => rw [hkey, hheld]
    · rfl
  | onDisk hmissing hfile hreadable hnamed hmade =>
    rw [hmissing]
    simp only
    rw [run_bind_ok Registrar.run_get, hfile]
    simp only
    rw [run_bind_ok (run_readDataFile_ok hreadable hnamed hmade)]
    refine ⟨_, rfl, rfl, rfl, fun key => ?_⟩
    rw [held?_insertMember, id_of_make hmade]

/-- Nothing is found where nothing is stored, and the store is left as it is. -/
theorem run_get_of_lacks (h : store.Lacks id) : (get id).run store = (.ok none, store) := by
  rw [get]
  split
  · rfl
  · rw [run_bind_ok Registrar.run_get, h.missing]
    simp only
    rw [run_bind_ok Registrar.run_get, h.noFile]
    rfl

theorem isValidId_of_validate {schema : Schema} {query : Query}
    (h : validate tree schema = .ok query) : isValidId query.datasetId = true := by
  obtain ⟨-, -, -, -, -, hvalid, -, -, -, -, -⟩ := validate_eq_ok_iff.mp h
  exact hvalid

/-- A query whose dataset is stored. -/
theorem run_query_of_stores {checked : Query} (limit : Nat)
    (hany : validate tree .any = .ok checked) (h : store.Stores checked.datasetId dataset) :
    ∃ store', (query tree limit).run store =
        (answerOf tree limit checked (.ok (some dataset)), store') ∧
      store.Loads checked.datasetId dataset store' := by
  obtain ⟨store', hget, hloads⟩ := run_get_of_stores h (isValidId_of_validate hany)
  exact ⟨store', run_query_of_get limit hany hget, hloads⟩

/-- **The two checks of a query are those of its own kind.** A tree that is accepted for the kind of
the stored dataset was accepted before as the same query, and gives what this query gives on the
records. A tree that no kind accepts is refused and leaves the store as it is. If nothing is stored,
the id is reported, and if the tree is not accepted for the kind, its fault, as one of the query:
all patterns have been compiled by then. -/
theorem run_query_checks (store : DatasetStore) (tree : Json) (limit : Nat) :
    (∀ (kind : DatasetKind) checked, validate tree kind.schema = .ok checked →
      validate tree .any = .ok checked) ∧
    (∀ checked dataset, store.Stores checked.datasetId dataset →
      validate tree dataset.kind.schema = .ok checked →
        ∃ store', (query tree limit).run store =
            ((execute checked dataset.records.toList limit).mapError .ofExecutionError, store') ∧
          store.Loads checked.datasetId dataset store') ∧
    (∀ fault, validate tree .any = .error fault →
      (query tree limit).run store = (.error (.ofFault fault), store)) ∧
    (∀ checked, validate tree .any = .ok checked → store.Lacks checked.datasetId →
      (query tree limit).run store = (.error (.datasetNotFound checked.datasetId), store)) ∧
    ∀ checked dataset fault, validate tree .any = .ok checked →
      store.Stores checked.datasetId dataset → validate tree dataset.kind.schema = .error fault →
        ∃ store', (query tree limit).run store = (.error (.invalid fault.message), store') ∧
          store.Loads checked.datasetId dataset store' := by
  refine ⟨fun kind checked h => validate_any_of_validate h, ?_, ?_, ?_, ?_⟩
  · intro checked dataset hstores hchecked
    obtain ⟨store', hrun, hloads⟩ :=
      run_query_of_stores limit (validate_any_of_validate hchecked) hstores
    rw [answerOf, hchecked] at hrun
    exact ⟨store', hrun, hloads⟩
  · intro fault hany
    rw [query, hany]
    rfl
  · intro checked hany hlacks
    exact run_query_of_get limit hany (run_get_of_lacks hlacks)
  · intro checked dataset fault hany hstores hfault
    obtain ⟨store', hrun, hloads⟩ := run_query_of_stores limit hany hstores
    obtain ⟨key, rfl⟩ : ∃ key, fault = .unknownField key := by
      obtain hok | ⟨key, herror⟩ := validate_eq_ok_or_unknownField dataset.kind hany
      · rw [hok] at hfault
        cases hfault
      · exact ⟨key, Except.error.inj (hfault.symm.trans herror)⟩
    rw [answerOf, hfault] at hrun
    exact ⟨store', hrun, hloads⟩

/-- A query to a dataset of sections, of which one department is asked for. -/
theorem run_query_checks_sections :
    let dataset : Dataset := ⟨"s", oneSection, ⟨0, 0, 0⟩⟩
    let store : DatasetStore := ⟨"data", [("s", dataset)], .empty⟩
    let tree : Json := .object [("WHERE", .object [("IS", .object [("s_dept", .string "c*")])]),
      ("OPTIONS", .object [("COLUMNS", .array [.string "s_id", .string "s_avg"])])]
    let checked : Query := ⟨"s", .accepts ⟨"s", "dept"⟩ ⟨false, ['c'], true⟩,
      [.field ⟨"s", "id"⟩, .field ⟨"s", "avg"⟩], none, none⟩
    store.Stores checked.datasetId dataset ∧
      validate tree dataset.kind.schema = .ok checked ∧ validate tree .any = .ok checked ∧
      ∃ store', (query tree 1).run store = (.ok ⟨["s_id", "s_avg"],
        [Row.empty.insertAll [("s_id", .text "310"), ("s_avg", .number ⟨0x4058600000000000⟩)]],
        1⟩, store') := by
  intro dataset store tree checked
  have hstores : store.Stores checked.datasetId dataset := .inMemory rfl
  have hchecked : validate tree dataset.kind.schema = .ok checked := rfl
  obtain ⟨hany, hrun, -⟩ := run_query_checks store tree 1
  obtain ⟨store', hrun, -⟩ := hrun checked dataset hstores hchecked
  exact ⟨hstores, hchecked, hany dataset.kind checked hchecked, store', hrun.trans rfl⟩

end DatasetStore

end Registrar
