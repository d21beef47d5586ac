import Registrar.Http.Service
import Registrar.Proofs.Storage.Refusal
import Registrar.Proofs.Storage.Sharing
import Registrar.Proofs.Storage.Snapshots

/-!
# What a service has

The two stores of a service are opened on one disk, and each leaves the disk to the other one but
for its own files. What a service has is therefore told by a catalog of datasets and by the tallies
of rooms, and a request to one of the stores has no effect on what the other one has.

## Main definitions

* `Holdings` — datasets and tallies.
* `Service.Stands` — a service that has given holdings.

## Main results

* `Service.Stands.withDatasets`, `Service.Stands.withReviews` — requests to one of the stores.
* `Service.stands_start`, `Service.Stands.exists_restart`, `Service.Stands.restart` — services that
  are opened.
-/

namespace Registrar

/-- Datasets by id, and tallies by room. -/
structure Holdings where
  catalog : Catalog
  tallies : String → Option Tally

namespace Holdings

/-- Neither datasets nor tallies. -/
def empty : Holdings := ⟨∅, fun _ => none⟩

/-- All numbers are read as they were written. -/
structure ReadsBack (holdings : Holdings) : Prop where
  catalog : holdings.catalog.ReadsBack
  tallies : ∀ room tally, holdings.tallies room = some tally → tally.reread = tally

/-- The same tallies with other datasets. -/
def withCatalog (holdings : Holdings) (catalog : Catalog) : Holdings :=
  { holdings with catalog := catalog }

end Holdings

namespace Service

/-- A service with these settings that has the holdings. -/
structure Stands (settings : ApiSettings) (maxResults : Nat) (holdings : Holdings)
    (service : Service) : Prop where
  settings : service.settings = settings
  maxResults : service.maxResults = maxResults
  datasets : service.datasetStore.Represents holdings.catalog
  held : ∀ entry ∈ service.loaded, entry.2.IsSnapshot entry.1
  reviews : service.reviewStore.Kept
  tally : ∀ room, service.reviewStore.tally? room = holdings.tallies room

variable {service : Service} {settings : ApiSettings} {maxResults : Nat} {holdings : Holdings}

/-- The file of the reviews is not in the directory of the datasets. -/
theorem reviewPath_ne (name : String) : reviewPath ≠ DatasetStore.directory ++ [name] := by
  simp [reviewPath, DatasetStore.directory]

namespace Stands

theorem guarded (h : service.Stands settings maxResults holdings) :
    service.datasetStore.Guarded (service.disk.nodes.lookup ·) :=
  ⟨h.held, fun _ _ => rfl⟩

theorem lookup_directory (h : service.Stands settings maxResults holdings) :
    service.disk.nodes.lookup DatasetStore.directory = some .directory := by
  obtain ⟨files, hdisk⟩ := h.datasets.holds
  exact DatasetStore.find_directory_iff.mp hdisk.directory

/-- **A request to the datasets leaves the reviews alone.** -/
theorem withDatasets (h : service.Stands settings maxResults holdings) (request : DatasetRequest)
    {store : DatasetStore} (hstore : (service.datasetStore.respond request).2 = store)
    {catalog : Catalog} (hafter : store.Represents catalog) :
    (service.withDatasets store).Stands settings maxResults (holdings.withCatalog catalog) := by
  have hguarded := h.guarded.respond h.lookup_directory request
  rw [hstore] at hguarded
  obtain ⟨files, hdisk⟩ := hafter.holds
  have hdatasets := hafter.ofDisk hdisk.healthy rfl (fun _ => rfl) service.root
  exact ⟨h.settings, h.maxResults, hdatasets, hguarded.held,
    h.reviews.ofDisk rfl (hguarded.elsewhere reviewPath reviewPath_ne), h.tally⟩

theorem afterAdd (h : service.Stands settings maxResults holdings) {id : String}
    {records : RecordSet} {now : Timestamp} {outcome : Except StorageError (List String)}
    {store : DatasetStore}
    (hrun : (DatasetStore.add id records now).run service.datasetStore = (outcome, store))
    {catalog : Catalog} (hafter : store.Represents catalog) :
    (service.withDatasets store).Stands settings maxResults (holdings.withCatalog catalog) := by
  refine h.withDatasets (.add id records now) ?_ hafter
  rw [DatasetStore.respond, hrun]
  rfl

theorem afterRemove (h : service.Stands settings maxResults holdings) {id : String}
    {outcome : Except StorageError String} {store : DatasetStore}
    (hrun : (DatasetStore.remove id).run service.datasetStore = (outcome, store))
    {catalog : Catalog} (hafter : store.Represents catalog) :
    (service.withDatasets store).Stands settings maxResults (holdings.withCatalog catalog) := by
  refine h.withDatasets (.remove id) ?_ hafter
  rw [DatasetStore.respond, hrun]
  rfl

theorem afterQuery (h : service.Stands settings maxResults holdings) {tree : Json} {limit : Nat}
    {outcome : Except QueryError Output} {store : DatasetStore}
    (hrun : (DatasetStore.query tree limit).run service.datasetStore = (outcome, store))
    (hafter : store.Represents holdings.catalog) :
    (service.withDatasets store).Stands settings maxResults holdings := by
  refine h.withDatasets (.query tree limit) ?_ hafter
  rw [DatasetStore.respond, hrun]
  rfl

/-- **A request to the reviews leaves the datasets alone.** -/
theorem withReviews (h : service.Stands settings maxResults holdings) (request : ReviewRequest) :
    (service.withReviews (service.reviewStore.respond request).2).Stands settings maxResults
      ⟨holdings.catalog, (service.reviewStore.respond request).2.tally?⟩ := by
  obtain ⟨files, hdisk⟩ := h.datasets.holds
  have hconfined : service.reviewStore.Confined "room_reviews.json" (service.disk.nodes.lookup ·) :=
    ⟨rfl, hdisk.healthy, fun _ _ => rfl⟩
  have hafter := hconfined.respond request
  have hstore : (service.withReviews (service.reviewStore.respond request).2).reviewStore =
      (service.reviewStore.respond request).2 := by
    rw [reviewStore, reviewPath, ← hafter.path]
    rfl
  refine ⟨h.settings, h.maxResults, ?_, h.held, ?_, fun room => ?_⟩
  · exact h.datasets.ofDisk hafter.healthy (hafter.elsewhere _ (by decide))
      (fun name => hafter.elsewhere _ (reviewPath_ne name).symm) service.root
  · rw [hstore]
    exact (h.reviews.step request).2
  · rw [hstore]

end Stands

/-! ### Opening -/

theorem start_eq {root : String} {disk : Disk} {result : Except StorageError Unit}
    {store : DatasetStore} (h : DatasetStore.start.run ⟨root, [], disk⟩ = (result, store)) :
    start settings maxResults root disk = (result, ⟨settings, maxResults, root, store.loaded,
      ReviewStore.talliesOnDisk store.disk reviewPath, store.disk⟩) := by
  rw [start, datasetStore]
  simp only [h]
  rfl

/-- **A service that is opened on an empty disk has nothing.** -/
theorem stands_start (settings : ApiSettings) (maxResults : Nat) (root : String) :
    ∃ service, start settings maxResults root .empty = (.ok (), service) ∧
      service.Stands settings maxResults .empty := by
  obtain ⟨store, hstart, hstore⟩ := DatasetStore.start_empty root
  have hopened : DatasetStore.start.run ⟨root, [], .empty⟩ =
      (.ok (), ⟨root, [], Disk.empty.setNode DatasetStore.directory .directory⟩) := rfl
  obtain rfl := (Prod.mk.inj (hstart.symm.trans hopened)).2
  have hnone : (Disk.empty.setNode DatasetStore.directory .directory).FileAt reviewPath none := by
    rintro content ⟨⟩
  exact ⟨_, start_eq hopened, rfl, rfl, hstore, List.forall_mem_nil _,
    (ReviewStore.Kept.opened hnone).1, fun room => rfl⟩

/-- A service that is opened again has the datasets that its files stand for, and the tallies that
were there or what is read of them. -/
theorem Stands.start_of_represents (h : service.Stands settings maxResults holdings) {root : String}
    {catalog : Catalog} (hforgot : DatasetStore.Represents ⟨root, [], service.disk⟩ catalog) :
    ∃ service', start settings maxResults root service.disk = (.ok (), service') ∧
      service'.Stands settings maxResults ⟨catalog, service'.reviewStore.tally?⟩ ∧
      (service'.tallies = service.tallies ∨
        service'.tallies = ReviewStore.rereadTallies service.tallies) := by
  have hrun := hforgot.run_start
  have hguarded : DatasetStore.Guarded (service.disk.nodes.lookup ·) ⟨root, [], service.disk⟩ :=
    ⟨List.forall_mem_nil _, fun _ _ => rfl⟩
  have hafter := hguarded.respond h.lookup_directory .reopen
  rw [DatasetStore.respond, hrun] at hafter
  obtain ⟨htallies, hkept⟩ := (h.reviews.ofDisk rfl
    (hafter.elsewhere reviewPath reviewPath_ne)).talliesOnDisk_cases
  exact ⟨_, start_eq hrun, ⟨rfl, rfl, hforgot, hafter.held, hkept, fun _ => rfl⟩, htallies⟩

/-- **A service that is opened again has something.** -/
theorem Stands.exists_restart (h : service.Stands settings maxResults holdings) (root : String) :
    ∃ service' holdings', start settings maxResults root service.disk = (.ok (), service') ∧
      service'.Stands settings maxResults holdings' := by
  obtain ⟨catalog, hcatalog⟩ := h.datasets.exists_restart root
  obtain ⟨service', hstart, hstands, -⟩ := h.start_of_represents hcatalog
  exact ⟨service', _, hstart, hstands⟩

/-- **A service that is opened again has what it had**, if all numbers are read back. -/
theorem Stands.restart (h : service.Stands settings maxResults holdings)
    (hback : holdings.ReadsBack) (root : String) :
    ∃ service', start settings maxResults root service.disk = (.ok (), service') ∧
      service'.Stands settings maxResults holdings := by
  obtain ⟨service', hstart, hstands, htallies⟩ :=
    h.start_of_represents (h.datasets.restart hback.catalog root)
  have hreread : ReviewStore.rereadTallies service.tallies = service.tallies :=
    h.reviews.rereadTallies_eq fun room tally htally =>
      hback.tallies room tally ((h.tally room).symm.trans htally)
  rw [hreread, or_self] at htallies
  refine ⟨service', hstart, { hstands with tally := fun room => ?_ }⟩
  exact (congrArg (List.lookup room) htallies).trans (h.tally room)

end Service

end Registrar
