import Registrar.Proofs.Dataset.Reading
import Registrar.Proofs.Storage.Atomicity

/-!
# Invariants of a dataset store

Some things hold of a dataset store whatever its files are like, and whatever faults lie ahead:
what is in memory is a snapshot of the id it is held under, and no request changes anything on the
disk but names in the directory of the store. Such a property is not told from the answer of a
request, but from its steps: each of them keeps it.

So an action is looked at step by step, with a rule for each way to put steps together. A rule also
says what is known of the value that a step returns, because what is read is what is held next.

## Main definitions

* `Ensures` — an action keeps a property of the state, and returns values with a property.
* `Dataset.IsSnapshot` — a dataset that may be held under an id.
* `DatasetStore.Guarded` — only snapshots are in memory, and the disk is as it was outside the
  directory of the store.

## Main results

* `Ensures.bind`, `Ensures.tryCatch` — the rules.
* `DatasetStore.Guarded.respond` — every request keeps a store guarded.
-/

namespace Registrar

/-! ### Actions that keep a property -/

section Rules

variable {ε σ α β : Type} {P : σ → Prop} {Q : α → Prop} {S : β → Prop}
  {x : ExceptT ε (StateM σ) α}

/-- From states with the property the action leads to such states, and what it returns has the
property of values. -/
def Ensures (P : σ → Prop) (x : ExceptT ε (StateM σ) α) (Q : α → Prop) : Prop :=
  ∀ state, P state → P (x.run state).2 ∧ ∀ value, (x.run state).1 = .ok value → Q value

theorem ensures_pure {a : α} (h : Q a) : Ensures P (pure a : ExceptT ε (StateM σ) α) Q :=
  fun _ hstate => ⟨hstate, fun _ hvalue => Except.ok.inj hvalue ▸ h⟩

theorem ensures_throw {e : ε} : Ensures P (throw e : ExceptT ε (StateM σ) α) Q :=
  fun _ hstate => ⟨hstate, fun _ hvalue => nomatch hvalue⟩

/-- What is known of the state is known of the state that is read. -/
theorem ensures_getState : Ensures P (get : ExceptT ε (StateM σ) σ) P :=
  fun _ hstate => ⟨hstate, fun _ hvalue => Except.ok.inj hvalue ▸ hstate⟩

theorem ensures_setState {state : σ} (h : P state) :
    Ensures P (set state : ExceptT ε (StateM σ) PUnit) fun _ => True :=
  fun _ _ => ⟨h, fun _ _ => trivial⟩

theorem ensures_modifyState {f : σ → σ} (h : ∀ state, P state → P (f state)) :
    Ensures P (modify f : ExceptT ε (StateM σ) PUnit) fun _ => True :=
  fun state hstate => ⟨h state hstate, fun _ _ => trivial⟩

namespace Ensures

theorem bind {f : α → ExceptT ε (StateM σ) β} (hx : Ensures P x Q)
    (hf : ∀ a, Q a → Ensures P (f a) S) : Ensures P (x >>= f) S := by
  intro state hstate
  obtain ⟨hkeep, hvalue⟩ := hx state hstate
  rw [run_bind]
  cases hrun : x.run state with
  | mk result state' =>
    rw [hrun] at hkeep hvalue
    cases result with
    | ok a => exact hf a (hvalue a rfl) state' hkeep
    | error e => exact ⟨hkeep, fun _ h => nomatch h⟩

/-- What is done until a failure stays done, so the handler starts from a state with the property.
-/
theorem tryCatch {handle : ε → ExceptT ε (StateM σ) α} (hx : Ensures P x Q)
    (hhandle : ∀ e, Ensures P (handle e) Q) : Ensures P (MonadExcept.tryCatch x handle) Q := by
  intro state hstate
  obtain ⟨hkeep, hvalue⟩ := hx state hstate
  cases hrun : x.run state with
  | mk result state' =>
    rw [hrun] at hkeep hvalue
    cases result with
    | ok a =>
      have hcaught : (MonadExcept.tryCatch x handle).run state = (.ok a, state') :=
        run_tryCatch_ok hrun
      exact ⟨by rw [hcaught]; exact hkeep, fun value h => by
        rw [hcaught] at h
        exact hvalue value h⟩
    | error e =>
      have hcaught : (MonadExcept.tryCatch x handle).run state = (handle e).run state' :=
        run_tryCatch_error hrun
      exact ⟨by rw [hcaught]; exact (hhandle e state' hkeep).1, fun value h => by
        rw [hcaught] at h
        exact (hhandle e state' hkeep).2 value h⟩

end Ensures

end Rules

/-! ### The disk elsewhere -/

namespace Disk

variable {disk : Disk} {path other : Path} {content : List UInt8}

theorem lookup_withFaults (disk : Disk) (faults : List Bool) :
    (disk.withFaults faults).nodes.lookup path = disk.nodes.lookup path :=
  rfl

theorem lookup_exists? (disk : Disk) (path : Path) :
    (disk.exists? path).2.nodes.lookup other = disk.nodes.lookup other := by
  rw [exists?, takeFault_eq]
  simp only
  split <;> rfl

theorem lookup_write (h : other ≠ path) :
    (disk.write path content).2.nodes.lookup other = disk.nodes.lookup other := by
  rw [write, takeFault_eq]
  simp only
  split
  · rfl
  split
  · rfl
  · rw [lookup_setNode, if_neg h, lookup_withFaults]

theorem lookup_rename {source : Path} (h : other ≠ source) (h' : other ≠ path) :
    (disk.rename source path).2.nodes.lookup other = disk.nodes.lookup other := by
  rw [rename, takeFault_eq]
  simp only
  split
  · rfl
  split
  · rfl
  · rfl
  · rw [lookup_setNode, if_neg h', lookup_eraseNode, if_neg h, lookup_withFaults]

theorem lookup_removeFile (h : other ≠ path) :
    (disk.removeFile path).2.nodes.lookup other = disk.nodes.lookup other := by
  rw [removeFile, takeFault_eq]
  simp only
  split
  · rfl
  split
  · rfl
  · rfl
  · rw [lookup_eraseNode, if_neg h, lookup_withFaults]

/-- Making a directory that is there changes nothing. -/
theorem lookup_createDirectories (h : disk.find path = .ok .directory) :
    (disk.createDirectories path).2.nodes.lookup other = disk.nodes.lookup other := by
  rw [createDirectories, takeFault_eq]
  simp only
  split
  · rfl
  · rw [makeDirectories_of_follow ((find_withFaults _ _).trans h), lookup_withFaults]

end Disk

/-! ### Snapshots -/

/-- A dataset that may be held under an id: it has this id, which is valid, and it has records, all
of its own kind. -/
structure Dataset.IsSnapshot (dataset : Dataset) (id : String) : Prop where
  named : dataset.id = id
  validId : isValidId dataset.id = true
  nonempty : dataset.records.toList ≠ []
  kinds : ∀ record ∈ dataset.records.toList, record.kind = dataset.kind

theorem RecordSet.isEmpty_iff {set : RecordSet} : set.isEmpty = true ↔ set.toList = [] := by
  cases set with
  | sections records => cases records <;> simp [isEmpty, length, toList]
  | rooms records => cases records <;> simp [isEmpty, length, toList]

/-- Every dataset that is made is a snapshot of its id. -/
theorem Dataset.isSnapshot_of_make {id : String} {records : RecordSet} {createdAt : Timestamp}
    {dataset : Dataset} (h : Dataset.make id records createdAt = .ok dataset) :
    dataset.IsSnapshot id := by
  rw [Dataset.make] at h
  split at h
  · cases h
  next hvalid =>
  split at h
  · cases h
  next hnonempty =>
  cases h
  exact ⟨rfl, by simpa using hvalid, fun hnil => hnonempty (RecordSet.isEmpty_iff.mpr hnil),
    fun _ => RecordSet.kind_of_mem_toList⟩

namespace DatasetStore

/-- Only snapshots are in memory, and outside the directory of the store the disk has the given
nodes. -/
structure Guarded (nodes : Path → Option Node) (store : DatasetStore) : Prop where
  held : ∀ entry ∈ store.loaded, entry.2.IsSnapshot entry.1
  elsewhere : ∀ path, (∀ name, path ≠ directory ++ [name]) →
    store.disk.nodes.lookup path = nodes path

variable {nodes : Path → Option Node} {store : DatasetStore} {id : String}

/-! ### The directory -/

theorem find_directory_iff {disk : Disk} :
    disk.find directory = .ok .directory ↔ disk.nodes.lookup directory = some .directory := by
  have hfits : Disk.Fits "datasets" := by decide
  rw [Disk.find, directory, Disk.follow_cons_eq_ok_iff, Disk.follow_nil_eq_ok_iff,
    Disk.nodeAt?_append]
  exact ⟨fun h => h.2.2, fun h => ⟨rfl, hfits, h⟩⟩

/-- The directory of the store is none of the names in it. -/
theorem directory_ne (name : String) : directory ≠ directory ++ [name] := by
  simp

namespace Guarded

theorem find_directory (h : store.Guarded nodes) (hnodes : nodes directory = some .directory) :
    store.disk.find directory = .ok .directory :=
  find_directory_iff.mpr ((h.elsewhere _ directory_ne).trans hnodes)

theorem ofDisk (h : store.Guarded nodes) {disk : Disk}
    (hdisk : ∀ path, (∀ name, path ≠ directory ++ [name]) →
      disk.nodes.lookup path = store.disk.nodes.lookup path) :
    Guarded nodes { store with disk := disk } :=
  ⟨h.held, fun path hpath => (hdisk path hpath).trans (h.elsewhere path hpath)⟩

theorem held? (h : store.Guarded nodes) {dataset : Dataset}
    (hheld : store.held? id = some dataset) : dataset.IsSnapshot id := by
  obtain ⟨before, after, hsplit, -⟩ := List.lookup_eq_some_iff.mp hheld
  exact h.held (id, dataset) (hsplit ▸ List.mem_append_right _ List.mem_cons_self)

end Guarded

/-! ### Changes of the disk -/

/-- The operation changes nothing but names in the directory of the store. -/
def ChangesFiles {α : Type} (operation : Disk → Except DiskFault α × Disk) : Prop :=
  ∀ disk path, (∀ name, path ≠ directory ++ [name]) →
    (operation disk).2.nodes.lookup path = disk.nodes.lookup path

theorem ensures_onDisk {α : Type} {operation : Disk → Except DiskFault α × Disk}
    (h : ChangesFiles operation) : Ensures (Guarded nodes) (onDisk operation) fun _ => True := by
  refine ensures_getState.bind fun store hstore => (ensures_setState ?_).bind fun _ _ => ?_
  · exact hstore.ofDisk fun path => h store.disk path
  · split
    · exact ensures_pure trivial
    · exact ensures_throw

theorem ensures_writeInPlace (name content : String) :
    Ensures (Guarded nodes) (writeInPlace name content) fun _ => True :=
  (ensures_onDisk fun _ _ hpath => Disk.lookup_write (hpath _)).bind fun _ _ =>
    ensures_onDisk fun _ _ hpath => Disk.lookup_rename (hpath _) (hpath _)

theorem ensures_removeIfThere (name : String) :
    Ensures (Guarded nodes) (removeIfThere (directory ++ [name])) fun _ => True := by
  refine ensures_getState.bind fun store hstore => (ensures_setState ?_).bind fun _ _ => ?_
  · exact hstore.ofDisk fun path hpath => Disk.lookup_removeFile (hpath name)
  · split
    · exact ensures_pure trivial
    · exact ensures_pure trivial
    · exact ensures_throw

/-! ### Changes of the memory -/

theorem ensures_hold {dataset : Dataset} (h : dataset.IsSnapshot dataset.id) :
    Ensures (Guarded nodes) (hold dataset) fun _ => True := by
  refine ensures_modifyState fun store hstore => ⟨fun entry hentry => ?_, hstore.elsewhere⟩
  obtain rfl | hentry := Json.of_mem_insertMember hentry
  · exact h
  · exact hstore.held entry hentry

theorem ensures_release (id : String) :
    Ensures (Guarded nodes) (release id) fun _ => True := by
  refine ensures_getState.bind fun store hstore =>
    (ensures_setState ?_).bind fun _ _ => ensures_pure trivial
  exact ⟨fun entry hentry => hstore.held entry (List.mem_of_mem_filter hentry), hstore.elsewhere⟩

/-! ### Operations -/

theorem ensures_fileIds : Ensures (Guarded nodes) fileIds fun _ => True := by
  refine Ensures.bind (Q := fun _ => True) (ensures_getState.bind fun store _ => ?_)
    fun _ _ => ensures_pure trivial
  split
  · exact ensures_pure trivial
  · exact ensures_throw

theorem ensures_ids : Ensures (Guarded nodes) ids fun _ => True :=
  ensures_getState.bind fun _ _ => ensures_fileIds.bind fun _ _ => ensures_pure trivial

theorem ensures_start (hnodes : nodes directory = some .directory) :
    Ensures (Guarded nodes) start fun _ => True := by
  have hmade : Ensures (Guarded nodes) (onDisk fun disk => disk.createDirectories directory)
      fun _ => True := by
    refine ensures_getState.bind fun store hstore => (ensures_setState ?_).bind fun _ _ => ?_
    · exact hstore.ofDisk fun _ _ =>
        Disk.lookup_createDirectories (hstore.find_directory hnodes)
    · split
      · exact ensures_pure trivial
      · exact ensures_throw
  exact hmade.bind fun _ _ => ensures_fileIds.bind fun _ _ => ensures_modifyState fun _ hstore =>
    ⟨fun _ hentry => (nomatch hentry), hstore.elsewhere⟩

theorem ensures_requireValidId (id : String) :
    Ensures (Guarded nodes) (requireValidId id) fun _ => isValidId id = true := by
  rw [requireValidId]
  split
  · next h => exact ensures_pure h
  · exact ensures_throw

theorem ensures_requireNew (id : String) :
    Ensures (Guarded nodes) (requireNew id) fun _ => True := by
  refine ensures_getState.bind fun store _ => ?_
  split
  · exact ensures_throw
  · refine (ensures_onDisk fun disk _ _ => Disk.lookup_exists? disk _).bind fun taken _ => ?_
    split
    · exact ensures_throw
    · exact ensures_pure trivial

theorem ensures_add (id : String) (records : RecordSet) (now : Timestamp) :
    Ensures (Guarded nodes) (add id records now) fun _ => True := by
  refine (ensures_requireValidId id).bind fun _ _ => (ensures_requireNew id).bind fun _ _ => ?_
  split
  · exact ensures_throw
  · next dataset hmake =>
    have hdataset := Dataset.isSnapshot_of_make hmake
    rw [← hdataset.named] at hdataset
    exact (ensures_writeInPlace _ _).bind fun _ _ => (ensures_writeInPlace _ _).bind fun _ _ =>
      (ensures_hold hdataset).bind fun _ _ => ensures_ids

theorem ensures_remove (id : String) : Ensures (Guarded nodes) (remove id) fun _ => True := by
  refine (ensures_requireValidId id).bind fun _ _ => (ensures_removeIfThere _).bind fun _ _ =>
    ((ensures_removeIfThere _).tryCatch fun _ => ensures_pure trivial).bind fun _ _ =>
      (ensures_release id).bind fun _ _ => ?_
  split
  · exact ensures_throw
  · exact ensures_pure trivial

theorem ensures_readDataFile (id text : String) :
    Ensures (Guarded nodes) (readDataFile id text) fun dataset => dataset.IsSnapshot id := by
  intro store hstore
  obtain ⟨outcome, hrun, hmade⟩ := exists_run_readDataFile store.root id text
  rw [hrun store rfl]
  refine ⟨hstore, fun dataset hdataset => ?_⟩
  obtain ⟨document, -, rfl, hmake⟩ := hmade dataset hdataset
  exact Dataset.isSnapshot_of_make hmake

/-- **What is found under an id is a snapshot of it.** -/
theorem ensures_get (id : String) : Ensures (Guarded nodes) (get id) fun found =>
    ∀ dataset ∈ found, dataset.IsSnapshot id := by
  have hnone : Ensures (Guarded nodes) (pure none : Action (Option Dataset)) fun found =>
      ∀ dataset ∈ found, dataset.IsSnapshot id := ensures_pure fun _ h => nomatch h
  rw [get]
  split
  · exact hnone
  refine ensures_getState.bind fun store hstore => ?_
  split
  · next dataset hheld =>
    refine ensures_pure fun other hother => ?_
    rw [← Option.some.inj hother]
    exact hstore.held? hheld
  refine ensures_getState.bind fun _ _ => ?_
  split
  · exact hnone
  · exact ensures_throw
  · refine (ensures_readDataFile id _).bind fun dataset hdataset => ?_
    refine (ensures_hold (hdataset.named.symm ▸ hdataset)).bind fun _ _ => ensures_pure ?_
    intro other hother
    rwa [← Option.some.inj hother]

theorem ensures_infos : Ensures (Guarded nodes) infos fun _ => True :=
  ensures_getState.bind fun _ _ => ensures_ids.bind fun _ _ => ensures_pure trivial

/-! ### Requests -/

/-- **Every request keeps a store guarded.** -/
theorem Guarded.respond (h : store.Guarded nodes) (hnodes : nodes directory = some .directory)
    (request : DatasetRequest) : (store.respond request).2.Guarded nodes := by
  cases request with
  | add id records now => exact (ensures_add id records now store h).1
  | remove id => exact (ensures_remove id store h).1
  | get id => exact (ensures_get id store h).1
  | list => exact (ensures_infos store h).1
  | ids => exact (ensures_ids store h).1
  | evict id => exact (ensures_release id store h).1
  | reopen => exact (ensures_start hnodes store h).1
  | query tree limit =>
    obtain ⟨error, hrun⟩ | ⟨id, answer, hrun⟩ := exists_run_query tree limit
    · rw [DatasetStore.respond, hrun]
      exact h
    · rw [DatasetStore.respond, hrun store _ _ rfl]
      exact (ensures_get id store h).1

end DatasetStore

end Registrar
