import Registrar.Proofs.Storage.Orderly

/-!
# Adding and removing are atomic

Adding a dataset takes up to five steps on the disk and removing one takes two, and each of them may
fail. If the request fails, no later answer tells that it was made: the store is like the one before
in all that its answers depend on, even though a listing file or a file with a temporary name may be
new. If it succeeds, the dataset is there, or is not there any more and its id is free again.

This holds of every store that has come about from an empty disk by any requests, whatever faults
they met. Such stores are orderly.

## Why the order of the steps matters

The data file decides whether there is a dataset. It is the last thing on the disk that an addition
makes and the first that a removal takes away, so the listing file of a dataset is there as long as
its data file is. What is in memory changes only when no step can fail any more.

## Main definitions

* `DatasetStore.Reachable` — stores that can come about.
* `DatasetStore.Indistinguishable` — no requests that change nothing tell two stores apart.
* `DatasetStore.Has`, `DatasetStore.HasNone` — the dataset is there; there is none under an id.

## Main results

* `DatasetStore.Orderly.run_add`, `DatasetStore.Orderly.run_remove` — what the two can come to.
* `DatasetStore.add_remove_atomic` — atomicity.
-/

namespace Registrar

namespace DatasetStore

variable {store store' : DatasetStore} {files : String → Option (List UInt8)} {id : String}
  {records : RecordSet} {now : Timestamp}

/-! ### Steps that leave a store alike -/

namespace Orderly

/-- New files that stand for no dataset make no difference. -/
theorem alike_of_files (h : Orderly store files) {disk : Disk}
    {files' : String → Option (List UInt8)} (hkeeps : disk.Keeps directory files')
    (hdata : ∀ id, files' (dataFileName id) = files (dataFileName id))
    (hinfo : ∀ id, (files (dataFileName id)).isSome →
      files' (infoFileName id) = files (infoFileName id))
    (hname : ∀ name, (files' name).isSome → (files name).isSome ∨ idOfFileName? name = none) :
    Alike store { store with disk := disk } := by
  refine ⟨rfl, fun _ => rfl, files, files', h, ⟨hkeeps, fun id hid => ?_, fun name hfile => ?_,
    fun id dataset hheld => ?_⟩, fun id => ⟨hdata id, hinfo id⟩⟩
  · rw [hdata] at hid
    exact h.data id hid
  · obtain hfile | hnone := hname name hfile
    · exact h.name name hfile
    · exact .inr hnone
  · rw [hdata]
    exact h.held id dataset hheld

theorem alike_of_keeps (h : Orderly store files) {disk : Disk}
    (hkeeps : disk.Keeps directory files) : Alike store { store with disk := disk } :=
  h.alike_of_files hkeeps (fun _ => rfl) (fun _ _ => rfl) fun _ hfile => .inl hfile

/-- Writing the listing file of an id without a data file makes no difference. -/
theorem alike_of_writeInfo (h : Orderly store files) {disk : Disk}
    {files' : String → Option (List UInt8)} (hkeeps : disk.Keeps directory files')
    (hfree : files (dataFileName id) = none)
    (hothers : ∀ other, other ≠ infoFileName id → other ≠ temporaryName (infoFileName id) →
      files' other = files other) : Alike store { store with disk := disk } := by
  refine h.alike_of_files hkeeps (fun key => ?_) (fun key hkey => ?_) fun name hfile => ?_
  · exact hothers _ (dataFileName_ne_infoFileName key id)
      (temporaryName_ne_dataFileName _ key).symm
  · refine hothers _ (fun heq => ?_) (temporaryName_ne_infoFileName _ key).symm
    rw [infoFileName_injective heq, hfree] at hkey
    cases hkey
  · by_cases hinfo : name = infoFileName id
    · exact .inr (hinfo ▸ idOfFileName?_infoFileName id)
    by_cases htemporary : name = temporaryName (infoFileName id)
    · exact .inr (htemporary ▸ idOfFileName?_temporaryName _)
    · exact .inl (by rwa [← hothers name hinfo htemporary])

/-! ### Adding -/

theorem run_requireNew (h : Orderly store files) (id : String) :
    ∃ disk, disk.schedule = store.disk.schedule.tail ∧ disk.Keeps directory files ∧
      ((∃ error store', (requireNew id).run store = (.error error, store') ∧ Alike store store' ∧
          (files (dataFileName id) = none → Disk.Fits (dataFileName id) →
            store.disk.schedule ≠ [])) ∨
        (requireNew id).run store = (.ok (), { store with disk := disk }) ∧
          files (dataFileName id) = none) := by
  obtain ⟨disk, hschedule, hkeeps, hexists⟩ := h.keeps.exists? (dataFileName id)
  refine ⟨disk, hschedule, hkeeps, ?_⟩
  rw [requireNew, run_bind_ok Registrar.run_get]
  cases hheld : (store.held? id).isSome with
  | true =>
    refine .inl ⟨_, store, rfl, .refl h, fun hfree => ?_⟩
    rw [h.held?_eq_none hfree] at hheld
    cases hheld
  | false =>
    simp only [Bool.false_eq_true, if_false]
    obtain ⟨fault, hexists, hfaulty⟩ | hexists := hexists
    · exact .inl ⟨_, _, run_bind_error (run_onDisk_error hexists), h.alike_of_keeps hkeeps,
        fun _ => hfaulty⟩
    · rw [run_bind_ok (run_onDisk hexists)]
      cases hfile : files (dataFileName id) with
      | none => exact .inr ⟨rfl, rfl⟩
      | some content =>
        exact .inl ⟨_, _, rfl, h.alike_of_keeps hkeeps, fun hfree => by cases hfree⟩

end Orderly

/-- The files of a dataset are there, and it is in memory. -/
structure Added (store : DatasetStore) (dataset : Dataset) : Prop where
  held : store.held? dataset.id = some dataset
  files : ∃ files, Orderly store files ∧
    files (dataFileName dataset.id) = some (utf8Bytes dataset.toDocument.compact) ∧
    files (infoFileName dataset.id) = some (utf8Bytes dataset.info.toJson.compact)

namespace Orderly

/-- The store after both files of a dataset were written and it was held in memory. -/
theorem added (h : Orderly store files) {dataset : Dataset} {disk : Disk}
    {files' : String → Option (List UInt8)} (hkeeps : disk.Keeps directory files')
    (hvalid : Registrar.isValidId dataset.id = true)
    (hfits : Disk.Fits (temporaryName (dataFileName dataset.id)))
    (hdata : files' (dataFileName dataset.id) = some (utf8Bytes dataset.toDocument.compact))
    (hinfo : files' (infoFileName dataset.id) = some (utf8Bytes dataset.info.toJson.compact))
    (hothers : ∀ other, other ≠ dataFileName dataset.id →
      other ≠ temporaryName (dataFileName dataset.id) → files' other = files other) :
    Added ⟨store.root, Json.insertMember dataset.id dataset store.loaded, disk⟩ dataset := by
  have hother {key : String} (hkey : key ≠ dataset.id) :
      files' (dataFileName key) = files (dataFileName key) :=
    hothers _ (fun heq => hkey (dataFileName_injective heq))
      (temporaryName_ne_dataFileName _ key).symm
  refine ⟨?_, files', ⟨hkeeps, fun key hfile => ?_, fun name hfile => ?_,
    fun key other hheld => ?_⟩, hdata, hinfo⟩
  · rw [held?_insertMember, if_pos rfl]
  · by_cases hkey : key = dataset.id
    · rw [hkey]
      exact ⟨hvalid, hfits⟩
    · rw [hother hkey] at hfile
      exact h.data key hfile
  · by_cases hname : name = dataFileName dataset.id
    · exact .inl ⟨_, hname⟩
    by_cases htemporary : name = temporaryName (dataFileName dataset.id)
    · exact .inr (htemporary ▸ idOfFileName?_temporaryName _)
    · rw [hothers name hname htemporary] at hfile
      exact h.name name hfile
  · rw [held?_insertMember] at hheld
    split at hheld
    · next hkey =>
      cases hheld
      rw [hkey, hdata]
      exact ⟨rfl, rfl⟩
    · next hkey =>
      rw [hother hkey]
      exact h.held key other hheld

/-- **What writing the files of a dataset can come to.** Before the data file is in place nothing is
told from before. -/
theorem run_register (h : Orderly store files) (dataset : Dataset)
    (hvalid : Registrar.isValidId dataset.id = true)
    (hfree : files (dataFileName dataset.id) = none) : ∃ store',
      (∃ error, (register dataset).run store = (.error error, store') ∧ Alike store store' ∧
        (Disk.Fits (temporaryName (dataFileName dataset.id)) → store.disk.schedule ≠ [])) ∨
      ∃ names, (register dataset).run store = (.ok names, store') ∧
        ids.run store' = (.ok names, store') ∧ Added store' dataset := by
  rw [register]
  obtain ⟨disk, files₁, hkeeps₁, hschedule, hothers₁, ⟨error, hrun, -, hfaulty⟩ |
    ⟨hrun, -, hinfo⟩⟩ := run_writeInPlace_outcome h.keeps (infoFileName dataset.id)
      dataset.info.toJson.compact
  · exact ⟨_, .inl ⟨error, run_bind_error hrun, h.alike_of_writeInfo hkeeps₁ hfree hothers₁,
      fun hfits => hfaulty (fits_temporaryName_infoFileName hfits)⟩⟩
  have halike := h.alike_of_writeInfo hkeeps₁ hfree hothers₁
  obtain ⟨_, files₁', -, horderly, -⟩ := halike.files
  obtain rfl := horderly.keeps.unique hkeeps₁
  rw [run_bind_ok hrun]
  obtain ⟨disk', files₂, hkeeps₂, -, hothers₂, ⟨error, hrun', hsame, hfaulty⟩ |
    ⟨hrun', hfits, hdata⟩⟩ := run_writeInPlace_outcome horderly.keeps (dataFileName dataset.id)
      dataset.toDocument.compact
  · refine ⟨_, .inl ⟨error, run_bind_error hrun', halike.trans (horderly.alike_of_files hkeeps₂
      (fun key => ?_) (fun key _ => ?_) fun name hfile => ?_), fun hfits hnil =>
        hfaulty hfits (hschedule hnil)⟩⟩
    · by_cases hkey : dataFileName key = dataFileName dataset.id
      · rw [hkey, hsame]
      · exact hothers₂ _ hkey (temporaryName_ne_dataFileName _ key).symm
    · exact hothers₂ _ (dataFileName_ne_infoFileName _ key).symm
        (temporaryName_ne_infoFileName _ key).symm
    · by_cases hname : name = dataFileName dataset.id
      · rw [hname, hsame] at hfile
        exact .inl (hname ▸ hfile)
      by_cases htemporary : name = temporaryName (dataFileName dataset.id)
      · exact .inr (htemporary ▸ idOfFileName?_temporaryName _)
      · exact .inl (by rwa [← hothers₂ name hname htemporary])
  · rw [run_bind_ok hrun']
    have hadded := horderly.added hkeeps₂ hvalid hfits hdata (by
      rw [hothers₂ _ (dataFileName_ne_infoFileName _ _).symm
        (temporaryName_ne_infoFileName _ _).symm, hinfo]) hothers₂
    obtain ⟨files₃, hfiles₃, -⟩ := hadded.files
    obtain ⟨names, hsorted, hnames⟩ := hfiles₃.exists_names
    have hids := hfiles₃.run_ids hsorted hnames
    exact ⟨_, .inr ⟨names, hids, hids, hadded⟩⟩

/-- **What adding a dataset can come to.** Without faults it fails only for a reason that it
reports: an id that is not valid or not free, no records, or a name that is too long. -/
theorem run_add (h : Orderly store files) (id : String) (records : RecordSet) (now : Timestamp) :
    ∃ store', (∃ error, (add id records now).run store = (.error error, store') ∧
        Alike store store' ∧
        (Registrar.isValidId id = true → files (dataFileName id) = none → records.isEmpty = false →
          Disk.Fits (temporaryName (dataFileName id)) → store.disk.schedule ≠ [])) ∨
      ∃ names, (add id records now).run store = (.ok names, store') ∧
        records.isEmpty = false ∧ ids.run store' = (.ok names, store') ∧
        Added store' ⟨id, records, now⟩ := by
  rw [DatasetStore.add]
  cases hvalid : Registrar.isValidId id with
  | false =>
    refine ⟨store, .inl ⟨.invalidId id, run_bind_error ?_, .refl h,
      fun hvalid' => by cases hvalid'⟩⟩
    rw [run_requireValidId, hvalid]
    rfl
  | true =>
    have hrequire : (requireValidId id).run store = (.ok (), store) := by
      rw [run_requireValidId, if_pos hvalid]
    rw [run_bind_ok hrequire]
    obtain ⟨disk, hschedule, hkeeps, ⟨error, store', hrun, halike, hfaulty⟩ | ⟨hrun, hfree⟩⟩ :=
      h.run_requireNew id
    · exact ⟨store', .inl ⟨error, run_bind_error hrun, halike, fun _ hfree _ hfits =>
        hfaulty hfree (fits_of_temporaryName hfits)⟩⟩
    rw [run_bind_ok hrun]
    have halike := h.alike_of_keeps hkeeps
    cases hempty : records.isEmpty with
    | true =>
      rw [Dataset.make, hvalid, hempty]
      exact ⟨_, .inl ⟨_, rfl, halike, fun _ _ hnonempty => by cases hnonempty⟩⟩
    | false =>
      have hmake : Dataset.make id records now = .ok ⟨id, records, now⟩ := by
        rw [Dataset.make, hvalid, hempty]
        rfl
      rw [hmake]
      have horderly : Orderly { store with disk := disk } files :=
        ⟨hkeeps, h.data, h.name, h.held⟩
      obtain ⟨store', ⟨error, hregister, halike', hfaulty⟩ | ⟨names, hregister, hadded⟩⟩ :=
        horderly.run_register ⟨id, records, now⟩ hvalid hfree
      · refine ⟨store', .inl ⟨error, hregister, halike.trans halike', fun _ _ _ hfits hnil => ?_⟩⟩
        exact hfaulty hfits (by rw [hschedule, hnil]; rfl)
      · exact ⟨store', .inr ⟨names, hregister, rfl, hadded⟩⟩

end Orderly

/-! ### Removing -/

/-- Files without those of an id, of which the listing file may have been left. -/
structure WithoutId (files files' : String → Option (List UInt8)) (id : String) : Prop where
  gone : files' (dataFileName id) = none
  others : ∀ name, name ≠ dataFileName id → name ≠ infoFileName id → files' name = files name
  fewer : ∀ name, (files' name).isSome → (files name).isSome

theorem withoutId_update : WithoutId files (Function.update files (dataFileName id) none) id where
  gone := Function.update_self ..
  others _ hdata _ := Function.update_of_ne hdata ..
  fewer name hfile := by
    rw [Function.update_apply] at hfile
    split at hfile
    · cases hfile
    · exact hfile

theorem WithoutId.update_info {files' : String → Option (List UInt8)}
    (h : WithoutId files files' id) :
    WithoutId files (Function.update files' (infoFileName id) none) id where
  gone := (Function.update_of_ne (dataFileName_ne_infoFileName id id) ..).trans h.gone
  others name hdata hinfo := (Function.update_of_ne hinfo ..).trans (h.others name hdata hinfo)
  fewer name hfile := by
    rw [Function.update_apply] at hfile
    split at hfile
    · cases hfile
    · exact h.fewer name hfile

theorem WithoutId.of_ne {files' : String → Option (List UInt8)} (h : WithoutId files files' id)
    {key : String} (hkey : key ≠ id) : files' (dataFileName key) = files (dataFileName key) ∧
      files' (infoFileName key) = files (infoFileName key) :=
  ⟨h.others _ (fun heq => hkey (dataFileName_injective heq)) (dataFileName_ne_infoFileName _ _),
    h.others _ (dataFileName_ne_infoFileName _ _).symm
      fun heq => hkey (infoFileName_injective heq)⟩

/-- The listing file may stay or go; that it cannot be removed is no reason to fail. -/
theorem run_removeInfo (store : DatasetStore) {files' : String → Option (List UInt8)}
    (h : store.disk.Keeps directory files') (hfiles : WithoutId files files' id) :
    ∃ found disk files'', (tryCatch (removeIfThere (infoPath id)) fun _ =>
        return false).run store = (.ok found, { store with disk := disk }) ∧
      disk.Keeps directory files'' ∧ WithoutId files files'' id := by
  obtain ⟨disk, ⟨error, hrun, hkeeps⟩ | ⟨hrun, -, hkeeps⟩⟩ :=
    run_removeIfThere_outcome h (infoFileName id)
  · exact ⟨false, disk, files', run_tryCatch_error hrun, hkeeps, hfiles⟩
  · exact ⟨_, disk, _, run_tryCatch_ok hrun, hkeeps, hfiles.update_info⟩

namespace Orderly

/-- The store after the data file of an id was removed and it was dropped from memory. -/
theorem withoutId (h : Orderly store files) {disk : Disk} {files' : String → Option (List UInt8)}
    (hkeeps : disk.Keeps directory files') (hfiles : WithoutId files files' id) :
    Orderly ⟨store.root, store.loaded.filter fun entry => entry.1 ≠ id, disk⟩ files' := by
  refine ⟨hkeeps, fun key hfile => h.data key (hfiles.fewer _ hfile),
    fun name hfile => h.name name (hfiles.fewer _ hfile), fun key dataset hheld => ?_⟩
  have hheld' := held?_filter.symm.trans hheld
  split at hheld'
  · cases hheld'
  · next hkey =>
    rw [(hfiles.of_ne hkey).1]
    exact h.held key dataset hheld'

/-- If there was no data file, the store is like the one before. -/
theorem alike_withoutId (h : Orderly store files) {disk : Disk}
    {files' : String → Option (List UInt8)} (hkeeps : disk.Keeps directory files')
    (hfiles : WithoutId files files' id) (hfree : files (dataFileName id) = none) :
    Alike store ⟨store.root, store.loaded.filter fun entry => entry.1 ≠ id, disk⟩ := by
  refine ⟨rfl, fun key => ?_, files, files', h, h.withoutId hkeeps hfiles, fun key => ?_⟩
  · refine held?_filter.trans ?_
    split
    · next hkey => rw [hkey, h.held?_eq_none hfree]
    · rfl
  · by_cases hkey : key = id
    · rw [hkey, hfiles.gone, hfree]
      exact ⟨rfl, fun hsome => by cases hsome⟩
    · exact ⟨(hfiles.of_ne hkey).1, fun _ => (hfiles.of_ne hkey).2⟩

/-- **What removing a dataset can come to.** -/
theorem run_remove (h : Orderly store files) (id : String) :
    ∃ store', (∃ error, (remove id).run store = (.error error, store') ∧ Alike store store') ∨
      ∃ files', (remove id).run store = (.ok id, store') ∧ Orderly store' files' ∧
        files' (dataFileName id) = none ∧ Registrar.isValidId id = true ∧
        Disk.Fits (temporaryName (dataFileName id)) := by
  rw [DatasetStore.remove]
  cases hvalid : Registrar.isValidId id with
  | false =>
    refine ⟨store, .inl ⟨.invalidId id, run_bind_error ?_, .refl h⟩⟩
    rw [run_requireValidId, hvalid]
    rfl
  | true =>
    have hrequire : (requireValidId id).run store = (.ok (), store) := by
      rw [run_requireValidId, if_pos hvalid]
    rw [run_bind_ok hrequire, dataPath]
    obtain ⟨disk, ⟨error, hrun, hkeeps⟩ | ⟨hrun, -, hkeeps⟩⟩ :=
      run_removeIfThere_outcome h.keeps (dataFileName id)
    · exact ⟨_, .inl ⟨error, run_bind_error hrun, h.alike_of_keeps hkeeps⟩⟩
    obtain ⟨found, disk', files', hinfo, hkeeps', hfiles⟩ :=
      run_removeInfo { store with disk := disk } hkeeps withoutId_update
    have hrelease : (release id).run { store with disk := disk' } = (.ok (store.held? id).isSome,
        ⟨store.root, store.loaded.filter fun entry => entry.1 ≠ id, disk'⟩) := rfl
    rw [run_bind_ok hrun, run_bind_ok hinfo, run_bind_ok hrelease]
    cases hfile : files (dataFileName id) with
    | some content =>
      simp only [Option.isSome_some, Bool.not_true, Bool.and_false, Bool.false_eq_true, if_false]
      exact ⟨_, .inr ⟨files', rfl, h.withoutId hkeeps' hfiles, hfiles.gone, trivial,
        (h.data id (by rw [hfile]; rfl)).2⟩⟩
    | none =>
      simp only [h.held?_eq_none hfile, Option.isSome_none, Bool.not_false, Bool.and_true, if_true]
      exact ⟨_, .inl ⟨_, rfl, h.alike_withoutId hkeeps' hfiles hfile⟩⟩

end Orderly

/-! ### Stores that can come about -/

/-- The store with these faults ahead. -/
def withFaults (store : DatasetStore) (faults : List Bool) : DatasetStore :=
  { store with disk := store.disk.withFaults faults }

/-- Stores that can come about: one that was opened on an empty disk, and what any request leaves,
whatever faults lie ahead of it. -/
inductive Reachable (root : String) : DatasetStore → Prop where
  | start {store : DatasetStore} (opened : start.run ⟨root, [], .empty⟩ = (.ok (), store)) :
      Reachable root store
  | respond {store : DatasetStore} (before : Reachable root store) (faults : List Bool)
      (request : DatasetRequest) : Reachable root ((store.withFaults faults).respond request).2

theorem Orderly.withFaults (h : Orderly store files) (faults : List Bool) :
    Orderly (store.withFaults faults) files :=
  ⟨h.keeps, h.data, h.name, h.held⟩

/-- Every request leaves an orderly store. -/
theorem Orderly.respond (h : Orderly store files) (request : DatasetRequest) :
    ∃ files', Orderly (store.respond request).2 files' := by
  have halike : ∀ {store'}, Alike store store' → ∃ files', Orderly store' files' := by
    rintro store' ⟨-, -, -, files', -, hfiles', -⟩
    exact ⟨files', hfiles'⟩
  have hquiet (hrequest : request.IsQuiet) :
      ∃ files', Orderly (store.respond request).2 files' := by
    obtain ⟨hkeeps, hheld⟩ := h.respond_quiet hrequest
    exact ⟨files, h.of_quiet hkeeps hheld⟩
  cases request with
  | add id records now =>
    rw [DatasetStore.respond]
    obtain ⟨store', ⟨error, hrun, hstore', -⟩ | ⟨names, hrun, -, -, hadded⟩⟩ :=
      h.run_add id records now
    · rw [hrun]
      exact halike hstore'
    · rw [hrun]
      obtain ⟨files', hfiles', -⟩ := hadded.files
      exact ⟨files', hfiles'⟩
  | remove id =>
    rw [DatasetStore.respond]
    obtain ⟨store', ⟨error, hrun, hstore'⟩ | ⟨files', hrun, hfiles', -⟩⟩ := h.run_remove id
    · rw [hrun]
      exact halike hstore'
    · rw [hrun]
      exact ⟨files', hfiles'⟩
  | get | list | ids | evict | reopen | query => exact hquiet trivial

/-- **Every store that can come about is orderly.** -/
theorem Reachable.orderly {root : String} (h : Reachable root store) :
    ∃ files, Orderly store files := by
  induction h with
  | start hopened =>
    obtain ⟨store', hstart, ⟨files, written, hwritten⟩, hheld⟩ := start_empty root
    rw [hstart] at hopened
    cases hopened
    have hnone : ∀ name, files name = none := by
      intro name
      cases hfile : files name with
      | none => rfl
      | some content =>
        obtain ⟨id, hid, -⟩ := hwritten.files.name name (by rw [hfile]; rfl)
        exact absurd (hwritten.mem_iff.mp hid) Std.ExtTreeMap.not_mem_empty
    refine ⟨files, hwritten.disk.keeps, fun id hid => ?_, fun name hname => ?_,
      fun id dataset hid => ?_⟩
    · rw [hnone] at hid
      cases hid
    · rw [hnone] at hname
      cases hname
    · have hcatalog := hheld id dataset hid
      rw [Catalog.dataset?, Std.ExtTreeMap.getElem?_empty] at hcatalog
      cases hcatalog
  | respond _ faults request ih =>
    obtain ⟨files, hfiles⟩ := ih
    exact (hfiles.withFaults faults).respond request

/-! ### What there is -/

/-- What requests, one after another, leave. -/
def after (store : DatasetStore) (requests : List DatasetRequest) : DatasetStore :=
  requests.foldl (fun store request => (store.respond request).2) store

/-- No requests that change nothing tell the two stores apart, whatever faults lie ahead. -/
def Indistinguishable (store store' : DatasetStore) : Prop :=
  ∀ faults requests, (∀ request ∈ requests, request.IsQuiet) →
    answers DatasetStore.respond (store'.withFaults faults) requests =
      answers DatasetStore.respond (store.withFaults faults) requests

/-- The dataset is there: it is among the ids, it is listed, and it is found. -/
structure Has (store : DatasetStore) (dataset : Dataset) : Prop where
  ids : ∃ names, ids.run store = (.ok names, store) ∧ dataset.id ∈ names
  listed : ∃ listed, infos.run store = (.ok listed, store) ∧ dataset.info ∈ listed ∧
    ∀ info ∈ listed, info.id = dataset.id → info = dataset.info
  got : ∃ store', (get dataset.id).run store = (.ok (some dataset), store')

/-- There is no dataset under the id: it is not among the ids, nothing is listed or found under it,
and without faults it can be added. -/
structure HasNone (store : DatasetStore) (id : String) : Prop where
  ids : ∃ names, ids.run store = (.ok names, store) ∧ id ∉ names
  listed : ∃ listed, infos.run store = (.ok listed, store) ∧ ∀ info ∈ listed, info.id ≠ id
  got : (get id).run store = (.ok none, store)
  addable : ∀ records now, records.isEmpty = false →
    ∃ names store', (add id records now).run (store.withFaults []) = (.ok names, store')

theorem id_of_fileInfo? {disk : Disk} {info : DatasetInfo} (h : fileInfo? disk id = some info) :
    info.id = id := by
  rw [fileInfo?] at h
  split at h
  · cases h
  · split at h
    · split at h
      · next hid => rw [← Option.some.inj h, hid]
      · cases h
    · cases h

theorem Orderly.id_of_listed? (h : Orderly store files) {info : DatasetInfo}
    (hinfo : store.listed? id = some info) : info.id = id := by
  rw [listed?] at hinfo
  split at hinfo
  · next dataset hheld =>
    rw [← Option.some.inj hinfo]
    exact (h.held id dataset hheld).1
  · exact id_of_fileInfo? hinfo

/-- A dataset is there if it is stored and listed as it is. -/
theorem Orderly.has (h : Orderly store files) {dataset : Dataset}
    (hstores : store.Stores dataset.id dataset)
    (hlisted : store.listed? dataset.id = some dataset.info) : store.Has dataset := by
  obtain ⟨-, hfile⟩ := h.of_stores hstores
  obtain ⟨names, hsorted, hnames⟩ := h.exists_names
  have hmem := (hnames dataset.id).mpr hfile
  refine ⟨⟨names, h.run_ids hsorted hnames, hmem⟩, ⟨_, h.run_infos hsorted hnames,
    List.mem_filterMap.mpr ⟨_, hmem, hlisted⟩, fun info hinfo hid => ?_⟩, ?_⟩
  · obtain ⟨key, -, hkey⟩ := List.mem_filterMap.mp hinfo
    rw [← h.id_of_listed? hkey, hid, hlisted] at hkey
    exact (Option.some.inj hkey).symm
  · obtain ⟨store', hrun, -⟩ := run_get_of_stores hstores (h.isValidId hfile)
    exact ⟨store', hrun⟩

/-- There is no dataset under a valid id without a data file. -/
theorem Orderly.hasNone (h : Orderly store files) (hfile : files (dataFileName id) = none)
    (hvalid : Registrar.isValidId id = true) (hfits : Disk.Fits (temporaryName (dataFileName id))) :
    store.HasNone id := by
  obtain ⟨names, hsorted, hnames⟩ := h.exists_names
  have hmem : id ∉ names := by
    rw [hnames, hfile]
    exact Bool.false_ne_true
  refine ⟨⟨names, h.run_ids hsorted hnames, hmem⟩, ⟨_, h.run_infos hsorted hnames,
    fun info hinfo hid => ?_⟩, run_get_of_lacks ⟨h.held?_eq_none hfile,
      h.keeps.readText_none (fits_of_temporaryName hfits) hfile⟩, fun records now hnonempty => ?_⟩
  · obtain ⟨key, hkey, hlisted⟩ := List.mem_filterMap.mp hinfo
    rw [← h.id_of_listed? hlisted, hid] at hkey
    exact hmem hkey
  · obtain ⟨store', ⟨_, -, -, hfaulty⟩ | ⟨names, hrun, -⟩⟩ :=
      (h.withFaults []).run_add id records now
    · exact absurd rfl (hfaulty hvalid hfile hnonempty hfits)
    · exact ⟨names, store', hrun⟩

/-! ### What stays -/

/-- A property of stores that every request that changes nothing keeps. -/
theorem after_quiet {P : DatasetStore → Prop} {requests : List DatasetRequest}
    (hrequests : ∀ request ∈ requests, request.IsQuiet) (h : P store)
    (hstep : ∀ store request, P store → request.IsQuiet → P (store.respond request).2) :
    P (store.after requests) := by
  induction requests generalizing store with
  | nil => exact h
  | cons request requests ih =>
    obtain ⟨hfirst, hothers⟩ := List.forall_mem_cons.mp hrequests
    exact ih hothers (hstep store request h hfirst)

/-- The files of an entry are there, and nothing else is in memory under its id. -/
structure Settled (store : DatasetStore) (id : String) (entry : Entry) : Prop where
  files : ∃ files, Orderly store files ∧
    files (dataFileName id) = some (utf8Bytes (entry.dataset id).toDocument.compact) ∧
    files (infoFileName id) = some (utf8Bytes (entry.dataset id).info.toJson.compact)
  held : ∀ dataset, store.held? id = some dataset → dataset = entry.dataset id

namespace Settled

variable {entry : Entry} (hsound : entry.Sound id) (hback : entry.reread = entry)

include hsound hback

theorem eq_of_stores (h : Settled store id entry) {dataset : Dataset}
    (hstores : store.Stores id dataset) : dataset = entry.dataset id := by
  obtain ⟨files, hfiles, hdata, -⟩ := h.files
  cases hstores with
  | inMemory hheld => exact h.held dataset hheld
  | onDisk _ hfile hreadable _ hmade =>
    rw [dataPath, hfiles.keeps.readText hsound.fits hdata] at hfile
    cases hfile
    rw [hsound.readDocument_dataset] at hreadable
    cases hreadable
    dsimp only at hmade
    rw [hsound.make_reread, hback] at hmade
    exact (Except.ok.inj hmade).symm

theorem respond_quiet (h : Settled store id entry)
    {request : DatasetRequest} (hquiet : request.IsQuiet) :
    Settled (store.respond request).2 id entry := by
  obtain ⟨files, hfiles, hdata, hinfo⟩ := h.files
  obtain ⟨hkeeps, hheld⟩ := hfiles.respond_quiet hquiet
  exact ⟨⟨files, hfiles.of_quiet hkeeps hheld, hdata, hinfo⟩,
    fun dataset hdataset => h.eq_of_stores hsound hback (hheld id dataset hdataset)⟩

/-- What is settled is there, in memory or not. -/
theorem has (h : Settled store id entry) :
    store.Has (entry.dataset id) := by
  obtain ⟨files, hfiles, hdata, hinfo⟩ := h.files
  cases hheld : store.held? id with
  | some dataset =>
    obtain rfl := h.held dataset hheld
    exact hfiles.has (.inMemory hheld) (by rw [listed?, Entry.dataset, hheld]; rfl)
  | none =>
    have htext := hfiles.keeps.readText (fits_infoFileName hsound.fits) hinfo
    have hmade := hsound.make_reread
    rw [hback] at hmade
    refine hfiles.has (.onDisk hheld (hfiles.keeps.readText hsound.fits hdata)
      hsound.readDocument_dataset rfl hmade) ?_
    rw [listed?, Entry.dataset, hheld]
    simp only [fileInfo?, infoPath, htext, hsound.readDocument_info]
    exact if_pos rfl

end Settled

/-! ### Atomicity -/

/-- **Adding and removing are atomic.** In every store that can come about, and whatever faults they
meet: if one of the two fails, no requests that change nothing tell the store from the one before.
If adding succeeds, the dataset is there, and if it can be read back, it is there after any requests
that change nothing. If removing succeeds, there is no dataset under the id from then on, until it
is added again, which it can be. -/
theorem add_remove_atomic {root : String} (h : Reachable root store) (faults : List Bool)
    (id : String) :
    (∀ records now error store',
      (add id records now).run (store.withFaults faults) = (.error error, store') →
        Indistinguishable store store') ∧
    (∀ error store', (remove id).run (store.withFaults faults) = (.error error, store') →
      Indistinguishable store store') ∧
    (∀ records now names store',
      (add id records now).run (store.withFaults faults) = (.ok names, store') →
        id ∈ names ∧ store'.Has ⟨id, records, now⟩ ∧
        (Storable records now → ∀ faults requests, (∀ request ∈ requests, request.IsQuiet) →
          ((store'.withFaults faults).after requests).Has ⟨id, records, now⟩)) ∧
    ∀ removed store', (remove id).run (store.withFaults faults) = (.ok removed, store') →
      removed = id ∧ ∀ faults requests, (∀ request ∈ requests, request.IsQuiet) →
        ((store'.withFaults faults).after requests).HasNone id := by
  obtain ⟨files, hfiles⟩ := h.orderly
  have hfaulty := hfiles.withFaults faults
  have halike {store' : DatasetStore} (halike : Alike (store.withFaults faults) store') :
      Indistinguishable store store' := fun faults requests hquiet =>
    (halike.withFaults faults faults).answers_eq rfl hquiet
  refine ⟨fun records now error store' hrun => ?_, fun error store' hrun => ?_,
    fun records now names store' hrun => ?_, fun removed store' hrun => ?_⟩
  · obtain ⟨_, ⟨_, hadd, hstore', -⟩ | ⟨_, hadd, -⟩⟩ := hfaulty.run_add id records now
    · cases hadd.symm.trans hrun
      exact halike hstore'
    · cases hadd.symm.trans hrun
  · obtain ⟨_, ⟨_, hremove, hstore'⟩ | ⟨_, hremove, -⟩⟩ := hfaulty.run_remove id
    · cases hremove.symm.trans hrun
      exact halike hstore'
    · cases hremove.symm.trans hrun
  · obtain ⟨_, ⟨_, hadd, -⟩ | ⟨_, hadd, hnonempty, hids, hadded⟩⟩ :=
      hfaulty.run_add id records now
    · cases hadd.symm.trans hrun
    cases hadd.symm.trans hrun
    obtain ⟨files', hfiles', hdata, hinfo⟩ := hadded.files
    have hhas : store'.Has ⟨id, records, now⟩ := hfiles'.has (.inMemory hadded.held)
      (by rw [listed?, hadded.held])
    obtain ⟨names', hids', hmem⟩ := hhas.ids
    cases hids.symm.trans hids'
    refine ⟨hmem, hhas, fun hstorable faults requests hquiet => ?_⟩
    obtain ⟨hvalid, hfits⟩ := hfiles'.data id (by rw [hdata]; rfl)
    have hsound : Entry.Sound id ⟨records, now⟩ :=
      ⟨hvalid, hnonempty, hstorable.toLegible, fits_of_temporaryName hfits⟩
    have hback : Entry.reread ⟨records, now⟩ = ⟨records, now⟩ :=
      congrArg (Entry.mk · now) hstorable.readsBack
    have hsettled : Settled (store'.withFaults faults) id ⟨records, now⟩ :=
      ⟨⟨files', hfiles'.withFaults faults, hdata, hinfo⟩, fun dataset hheld =>
        Option.some.inj (hheld.symm.trans hadded.held)⟩
    have hafter := after_quiet (P := fun store => Settled store id ⟨records, now⟩) hquiet hsettled
      fun store request hstore hrequest => hstore.respond_quiet hsound hback hrequest
    exact hafter.has hsound hback
  · obtain ⟨_, ⟨_, hremove, -⟩ | ⟨files', hremove, hfiles', hgone, hvalid, hfits⟩⟩ :=
      hfaulty.run_remove id
    · cases hremove.symm.trans hrun
    cases hremove.symm.trans hrun
    refine ⟨rfl, fun faults requests hquiet => ?_⟩
    have horderly := after_quiet (P := fun store => Orderly store files') hquiet
      (hfiles'.withFaults faults) fun store request horderly hrequest => by
        obtain ⟨hkeeps, hheld⟩ := horderly.respond_quiet hrequest
        exact horderly.of_quiet hkeeps hheld
    exact horderly.hasNone hgone hvalid hfits

/-- The data file of a dataset cannot be written, and nothing tells of its listing file. When no
fault lies ahead it is added, and then removed although its listing file cannot be. -/
theorem add_remove_atomic_oneSection :
    let empty : DatasetStore := ⟨"data", [], Disk.empty.setNode directory .directory⟩
    let failing := (add "ubc" oneSection ⟨0, 0, 0⟩).run
      (empty.withFaults [false, false, false, true])
    let adding := (add "ubc" oneSection ⟨0, 0, 0⟩).run (failing.2.withFaults [])
    let removing := (remove "ubc").run (adding.2.withFaults [false, true])
    Reachable "data" empty ∧
      failing.1 = .error (.ofDiskFault .scheduled) ∧ Indistinguishable empty failing.2 ∧
      adding.1 = .ok ["ubc"] ∧
      ((adding.2.withFaults [true]).after [.evict "ubc", .reopen, .list]).Has
        ⟨"ubc", oneSection, ⟨0, 0, 0⟩⟩ ∧
      removing.1 = .ok "ubc" ∧ (removing.2.withFaults []).HasNone "ubc" := by
  intro empty failing adding removing
  have hempty : Reachable "data" empty := .start rfl
  have hafter {store : DatasetStore} (h : Reachable "data" store) (faults : List Bool) :
      Reachable "data" ((add "ubc" oneSection ⟨0, 0, 0⟩).run (store.withFaults faults)).2 :=
    .respond h faults (.add "ubc" oneSection ⟨0, 0, 0⟩)
  have hfailed : Reachable "data" failing.2 := hafter hempty _
  have hadded : Reachable "data" adding.2 := hafter hfailed _
  have hfailing : failing.1 = .error (.ofDiskFault .scheduled) := rfl
  have hadding : adding.1 = .ok ["ubc"] := by
    subst adding failing empty
    decide +kernel
  have hremoving : removing.1 = .ok "ubc" := by
    subst removing adding failing empty
    decide +kernel
  have hrun {α σ : Type} {x : α × σ} {a : α} (h : x.1 = a) : x = (a, x.2) := by rw [← h]
  obtain ⟨hfail, -⟩ := add_remove_atomic hempty [false, false, false, true] "ubc"
  obtain ⟨-, -, hadd, -⟩ := add_remove_atomic hfailed [] "ubc"
  obtain ⟨-, -, -, hremove⟩ := add_remove_atomic hadded [false, true] "ubc"
  have hatomic : Indistinguishable empty failing.2 :=
    hfail oneSection ⟨0, 0, 0⟩ (.ofDiskFault .scheduled) failing.2 (hrun hfailing)
  have hhas := (hadd oneSection ⟨0, 0, 0⟩ ["ubc"] adding.2 (hrun hadding)).2.2 storable_oneSection
    [true] [.evict "ubc", .reopen, .list] (by simp [DatasetRequest.IsQuiet])
  have hnone := (hremove "ubc" removing.2 (hrun hremoving)).2 [] [] (by simp)
  exact ⟨hempty, hfailing, hatomic, hadding, hhas, hremoving, hnone⟩

end DatasetStore

end Registrar
