import Registrar.Proofs.Http.Observation

/-!
# The contract for datasets

Datasets are added with `PUT /api/v1/dataset/:id/:kind` and removed with
`DELETE /api/v1/dataset/:id`. A request is refused for what is wrong with it, and it is wrong with
the request if its parts, its body, the records, or the id are not what they should be; the status
says so. No other request to a service that is reached adds or removes anything.

The names of files are limited in length, so an id can be too long for the disk. The contract is
about ids that are not.

## Main definitions

* `IsUpload` — a body that can be added as a dataset.
* `Service.AnswersUpload`, `Service.AnswersRemoval` — what comes of the two requests.
* `Service.KeepsContract` — the contract.

## Main results

* `Service.Stands.answersUpload`, `Service.Stands.answersRemoval` — the two requests.
* `Service.Reachable.keepsContract` — every reachable service keeps the contract.
-/

namespace Registrar

/-- The body is an array of complete records of a kind, which can be added under the id. -/
structure IsUpload (catalog : Catalog) (id kindText : String) (body : Json) (kind : DatasetKind)
    (items : List Json) : Prop where
  kindOf : DatasetKind.ofText? kindText = some kind
  array : body = .array items
  complete : ∀ item ∈ items, IsRecord kind item
  valid : isValidId id = true
  new : id ∉ catalog
  nonempty : items ≠ []

namespace Catalog

variable {catalog : Catalog} {id : String}

theorem add_of_new {records : RecordSet} {now : Timestamp} (hvalid : isValidId id = true)
    (hnew : id ∉ catalog) (hrecords : records.isEmpty = false) :
    catalog.add id records now =
      (.ok (catalog.insert id ⟨records, now⟩).keys, catalog.insert id ⟨records, now⟩) := by
  simp only [add, hvalid, hrecords, if_neg hnew, Bool.not_true, Bool.false_eq_true, if_false]

/-- What is not added is answered as a fault of the request. -/
theorem add_of_not_new {records : RecordSet} {now : Timestamp}
    (h : ¬(isValidId id = true ∧ id ∉ catalog ∧ records.isEmpty = false)) :
    ∃ error, catalog.add id records now = (.error error, catalog) ∧
      error.statusCode.1 = .badRequest := by
  rw [add]
  repeat' split
  case isFalse hvalid hnew hrecords =>
    exact absurd ⟨by simpa using hvalid, hnew, by simpa using hrecords⟩ h
  all_goals exact ⟨_, rfl, rfl⟩

theorem remove_of_mem (hvalid : isValidId id = true) (hmem : id ∈ catalog) :
    catalog.remove id = (.ok id, catalog.erase id) := by
  simp only [remove, hvalid, if_pos hmem, Bool.not_true, Bool.false_eq_true, if_false]

theorem remove_of_not_mem (hvalid : isValidId id = true) (hmissing : id ∉ catalog) :
    catalog.remove id = (.error (.datasetNotFound id), catalog) := by
  simp only [remove, hvalid, if_neg hmissing, Bool.not_true, Bool.false_eq_true, if_false]

theorem remove_of_not_valid (hinvalid : isValidId id = false) :
    catalog.remove id = (.error (.invalidId id), catalog) := by
  simp only [remove, hinvalid, Bool.not_false, if_true]

end Catalog

theorem RecordSet.isEmpty_eq_false_iff {set : RecordSet} {items : List Json}
    (h : List.Forall₂ Record.WrittenAs set.toList items) :
    set.isEmpty = false ↔ items ≠ [] := by
  rw [isEmpty, ← length_toList, h.length_eq]
  simp

/-! ### Parts of a path -/

namespace Endpoint

variable {idPart kindPart id kindText : String}

theorem decode?_addDataset (hid : Percent.decode? idPart = some id)
    (hkind : Percent.decode? kindPart = some kindText) :
    (addDataset idPart kindPart).decode? = .ok (addDataset id kindText) := by
  simp only [decode?, decode?.part, hid, hkind]
  rfl

theorem decode?_addDataset_eq_ok {endpoint : Endpoint}
    (h : (addDataset idPart kindPart).decode? = .ok endpoint) :
    ∃ id kindText, Percent.decode? idPart = some id ∧ Percent.decode? kindPart = some kindText ∧
      endpoint = addDataset id kindText := by
  simp only [decode?, decode?.part] at h
  cases hid : Percent.decode? idPart with
  | none =>
    rw [hid] at h
    cases h
  | some id =>
    cases hkind : Percent.decode? kindPart with
    | none =>
      rw [hid, hkind] at h
      cases h
    | some kindText =>
      rw [hid, hkind] at h
      cases h
      exact ⟨id, kindText, rfl, rfl, rfl⟩

theorem decode?_removeDataset (hid : Percent.decode? idPart = some id) :
    (removeDataset idPart).decode? = .ok (removeDataset id) := by
  simp only [decode?, decode?.part, hid]
  rfl

theorem decode?_removeDataset_of_none (hid : Percent.decode? idPart = none) :
    (removeDataset idPart).decode? = .error "id" := by
  simp only [decode?, decode?.part, hid]
  rfl

end Endpoint

namespace Service

variable {service : Service} {settings : ApiSettings} {maxResults : Nat} {holdings : Holdings}
  {request : Request} {arrival : Arrival} {body : Json} {id kindText : String}

/-! ### Adding -/

/-- A body that is no array of records of a kind is answered as a fault of the request. -/
theorem run_addDataset_of_no_records {now : Timestamp}
    (hbody : request.jsonBody service.settings.maxBodySize = .ok body)
    (h : ∀ kind, DatasetKind.ofText? kindText = some kind →
      ∃ error, recordsOf kind body = .error error) :
    ∃ failure, (addDataset request now id kindText).run service = (.error failure, service) ∧
      ∀ requestId, (failure.response requestId).status = .badRequest := by
  have hrun : (bodyOf request).run service = (.ok body, service) := by
    rw [run_bodyOf, hbody]
    rfl
  rw [addDataset, run_bind_ok hrun]
  cases hkind : DatasetKind.ofText? kindText with
  | none => exact ⟨_, rfl, fun _ => rfl⟩
  | some kind =>
    obtain ⟨error, herror⟩ := h kind hkind
    simp only [herror]
    exact ⟨.failed error, run_bind_error (run_orFail _), fun _ => status_of_recordsOf herror⟩

/-- The items of a body that holds records. -/
theorem items_of_recordsOf {kind : DatasetKind} {records : RecordSet} (h : body.IsCanonical)
    (hrecords : recordsOf kind body = .ok records) :
    ∃ items, body = .array items ∧ (∀ item ∈ items, IsRecord kind item) ∧
      List.Forall₂ Record.WrittenAs records.toList items := by
  obtain ⟨hkind, items, rfl, hwritten⟩ :=
    (RecordSet.ofJson_eq_ok_iff h).mp (recordsOf_eq_ok_iff.mp hrecords)
  refine ⟨items, rfl, fun item hitem => ?_, hwritten⟩
  obtain ⟨record, hrecord, hwritten⟩ := exists_of_mem_forall₂ hwritten hitem
  exact isRecord_iff.mpr ⟨record, (RecordSet.kind_of_mem_toList hrecord).trans hkind, hwritten⟩

/-- The records in a body are added as the store of datasets does it. -/
theorem run_addDataset_of_records {now : Timestamp} {kind : DatasetKind} {records : RecordSet}
    (hbody : request.jsonBody service.settings.maxBodySize = .ok body)
    (hkind : DatasetKind.ofText? kindText = some kind)
    (hrecords : recordsOf kind body = .ok records)
    {outcome : Except StorageError (List String)} {store : DatasetStore}
    (hadd : (DatasetStore.add id records now).run service.datasetStore = (outcome, store)) :
    (addDataset request now id kindText).run service =
      ((outcome.mapError fun error => .failed (.storage error)).map fun ids =>
        resultResponse (.ofStrings ids), service.withDatasets store) := by
  have hrun : (bodyOf request).run service = (.ok body, service) := by
    rw [run_bodyOf, hbody]
    rfl
  have hread : (orFail (recordsOf kind body)).run service = (.ok records, service) := by
    rw [run_orFail, hrecords]
    rfl
  rw [addDataset, run_bind_ok hrun]
  simp only [hkind]
  rw [run_bind_ok hread, run_bind, run_onDatasets hadd]
  cases outcome <;> rfl

/-- **A dataset that can be added is added**, with exactly the records in the body. -/
theorem Stands.run_addDataset_of_isUpload (h : service.Stands settings maxResults holdings)
    (hlimit : settings.maxBodySize < twoPow 64) {now : Timestamp} (hnow : now.InRange)
    (hbody : request.jsonBody service.settings.maxBodySize = .ok body)
    (hfits : isValidId id = true → Disk.Fits (temporaryName (dataFileName id)))
    {kind : DatasetKind} {items : List Json}
    (hupload : IsUpload holdings.catalog id kindText body kind items) :
    ∃ records, records.kind = kind ∧ List.Forall₂ Record.WrittenAs records.toList items ∧
      ∃ ids service', (addDataset request now id kindText).run service =
          (.ok (resultResponse (.ofStrings ids)), service') ∧
        service'.Stands settings maxResults
          (holdings.withCatalog (holdings.catalog.insert id ⟨records, now⟩)) := by
  obtain ⟨hcanonical, -, -⟩ := Request.jsonBody_eq_ok hbody
  obtain ⟨records, hrecords⟩ :=
    (exists_recordsOf_iff hcanonical).mpr ⟨items, hupload.array, hupload.complete⟩
  obtain ⟨hsame, items', harray, hwritten⟩ :=
    (RecordSet.ofJson_eq_ok_iff hcanonical).mp (recordsOf_eq_ok_iff.mp hrecords)
  cases hupload.array.symm.trans harray
  have hsome := (RecordSet.isEmpty_eq_false_iff hwritten).mpr hupload.nonempty
  have hlegible := legible_of_recordsOf (h.settings ▸ hlimit) hbody hrecords hnow
  obtain ⟨store, hadd, hstore⟩ := h.datasets.run_add hlegible hfits
  have hrun := run_addDataset_of_records hbody hupload.kindOf hrecords hadd
  rw [Catalog.add_of_new hupload.valid hupload.new hsome] at hrun hstore
  exact ⟨records, hsame, hwritten, _, _, hrun, h.afterAdd hadd hstore⟩

/-- **Where there is nothing to add, the request is at fault.** -/
theorem Stands.run_addDataset_of_no_upload (h : service.Stands settings maxResults holdings)
    (hlimit : settings.maxBodySize < twoPow 64) {now : Timestamp} (hnow : now.InRange)
    (hbody : request.jsonBody service.settings.maxBodySize = .ok body)
    (hfits : isValidId id = true → Disk.Fits (temporaryName (dataFileName id)))
    (hnone : ∀ kind items, ¬IsUpload holdings.catalog id kindText body kind items) :
    ∃ failure service', (addDataset request now id kindText).run service =
        (.error failure, service') ∧
      ∀ requestId, (failure.response requestId).status = .badRequest := by
  obtain ⟨hcanonical, -, -⟩ := Request.jsonBody_eq_ok hbody
  by_cases hread : ∃ kind records, DatasetKind.ofText? kindText = some kind ∧
      recordsOf kind body = .ok records
  · obtain ⟨kind, records, hkind, hrecords⟩ := hread
    have hnew : ¬(isValidId id = true ∧ id ∉ holdings.catalog ∧ records.isEmpty = false) := by
      rintro ⟨hvalid, hmissing, hsome⟩
      obtain ⟨items, harray, hcomplete, hwritten⟩ := items_of_recordsOf hcanonical hrecords
      exact hnone kind items ⟨hkind, harray, hcomplete, hvalid, hmissing,
        (RecordSet.isEmpty_eq_false_iff hwritten).mp hsome⟩
    have hlegible := legible_of_recordsOf (h.settings ▸ hlimit) hbody hrecords hnow
    obtain ⟨store, hadd, -⟩ := h.datasets.run_add hlegible hfits
    obtain ⟨error, herror, hstatus⟩ := Catalog.add_of_not_new hnew
    have hrun := run_addDataset_of_records hbody hkind hrecords hadd
    rw [herror] at hrun
    exact ⟨_, _, hrun, fun _ => hstatus⟩
  · have hfault : ∀ kind, DatasetKind.ofText? kindText = some kind →
        ∃ error, recordsOf kind body = .error error := by
      intro kind hkind
      cases hrecords : recordsOf kind body with
      | ok records => exact absurd ⟨kind, records, hkind, hrecords⟩ hread
      | error error => exact ⟨error, rfl⟩
    obtain ⟨failure, hrun, hstatus⟩ := run_addDataset_of_no_records hbody hfault
    exact ⟨failure, service, hrun, hstatus⟩

/-- What comes of a request to add the records in a body as a dataset. -/
structure AnswersUpload (service : Service) (maxResults : Nat) (holdings : Holdings)
    (request : Request) (arrival : Arrival) (idPart kindPart : String) (body : Json) : Prop where
  ok_iff : (service.exchange request arrival).1.status = .ok ↔
    ∃ id kindText kind items, Percent.decode? idPart = some id ∧
      Percent.decode? kindPart = some kindText ∧
      IsUpload holdings.catalog id kindText body kind items
  otherwise : (service.exchange request arrival).1.status ≠ .ok →
    (service.exchange request arrival).1.status = .badRequest
  /-- Exactly the records in the body are added, under exactly this id. -/
  added : ∀ id kindText kind items, Percent.decode? idPart = some id →
    Percent.decode? kindPart = some kindText →
    IsUpload holdings.catalog id kindText body kind items →
    ∃ records : RecordSet, records.kind = kind ∧
      List.Forall₂ Record.WrittenAs records.toList items ∧
      (service.exchange request arrival).2.Shows maxResults
        (holdings.withCatalog (holdings.catalog.insert id ⟨records, arrival.now⟩))

/-- A request at fault has nothing to add. -/
theorem AnswersUpload.refused {idPart kindPart : String}
    (hstatus : (service.exchange request arrival).1.status = .badRequest)
    (hnone : ∀ id kindText kind items, Percent.decode? idPart = some id →
      Percent.decode? kindPart = some kindText →
      ¬IsUpload holdings.catalog id kindText body kind items) :
    service.AnswersUpload maxResults holdings request arrival idPart kindPart body where
  ok_iff := by
    constructor
    · intro hok
      cases hstatus.symm.trans hok
    · rintro ⟨id, kindText, kind, items, hid, hkind, hupload⟩
      exact absurd hupload (hnone id kindText kind items hid hkind)
  otherwise _ := hstatus
  added id kindText kind items hid hkind hupload :=
    absurd hupload (hnone id kindText kind items hid hkind)

/-- **A request to add a dataset is answered with success exactly if there is one to add.** -/
theorem Stands.answersUpload (h : service.Stands settings maxResults holdings)
    (hlimit : settings.maxBodySize < twoPow 64) (hnow : arrival.now.InRange)
    {idPart kindPart : String} (hasks : request.Asks .put (.datasetOfKind idPart kindPart))
    (hbody : request.jsonBody service.settings.maxBodySize = .ok body)
    (hfits : ∀ id, Percent.decode? idPart = some id → isValidId id = true →
      Disk.Fits (temporaryName (dataFileName id))) :
    service.AnswersUpload maxResults holdings request arrival idPart kindPart body := by
  cases hdecode : (Endpoint.addDataset idPart kindPart).decode? with
  | error name =>
    refine .refused (exchange_of_asks_error service arrival hasks (by decide) (by decide) rfl
      hdecode).1 fun id kindText kind items hid hkind _ => ?_
    cases hdecode.symm.trans (Endpoint.decode?_addDataset hid hkind)
  | ok endpoint =>
    obtain ⟨id, kindText, hid, hkind, rfl⟩ := Endpoint.decode?_addDataset_eq_ok hdecode
    obtain ⟨hanswer, hafter⟩ := exchange_of_asks service arrival hasks (by decide) (by decide) rfl
      hdecode
    rw [perform] at hanswer hafter
    by_cases hupload : ∃ kind items, IsUpload holdings.catalog id kindText body kind items
    · obtain ⟨kind, items, hupload⟩ := hupload
      obtain ⟨records, hsame, hwritten, ids, service', hrun, hstands⟩ :=
        h.run_addDataset_of_isUpload hlimit hnow hbody (hfits id hid) hupload
      rw [hrun] at hanswer hafter
      refine ⟨⟨fun _ => ⟨id, kindText, kind, items, hid, hkind, hupload⟩, fun _ => hanswer.status⟩,
        fun hfailed => absurd hanswer.status hfailed, ?_⟩
      intro id' kindText' kind' items' hid' hkind' hupload'
      cases hid.symm.trans hid'
      cases hkind.symm.trans hkind'
      cases hupload.kindOf.symm.trans hupload'.kindOf
      cases hupload.array.symm.trans hupload'.array
      exact ⟨records, hsame, hwritten, hafter ▸ hstands.shows⟩
    · have hnone : ∀ kind items, ¬IsUpload holdings.catalog id kindText body kind items :=
        fun kind items h => hupload ⟨kind, items, h⟩
      obtain ⟨failure, service', hrun, hfault⟩ :=
        h.run_addDataset_of_no_upload hlimit hnow hbody (hfits id hid) hnone
      rw [hrun] at hanswer
      refine .refused (hanswer.status.trans (hfault _))
        fun id' kindText' kind items hid' hkind' => ?_
      cases hid.symm.trans hid'
      cases hkind.symm.trans hkind'
      exact hnone kind items

/-! ### Removing -/

/-- What comes of a request to remove a dataset. -/
structure AnswersRemoval (service : Service) (maxResults : Nat) (holdings : Holdings)
    (request : Request) (arrival : Arrival) (idPart : String) : Prop where
  registered : ∀ id, Percent.decode? idPart = some id → id ∈ holdings.catalog →
    (service.exchange request arrival).1.status = .ok
  unregistered : ∀ id, Percent.decode? idPart = some id → isValidId id = true →
    id ∉ holdings.catalog → (service.exchange request arrival).1.status = .notFound
  invalid : (∀ id, Percent.decode? idPart = some id → isValidId id = false) →
    (service.exchange request arrival).1.status = .badRequest
  /-- Exactly the dataset of this id is removed. -/
  removed : ∀ id, Percent.decode? idPart = some id → id ∈ holdings.catalog →
    (service.exchange request arrival).2.Shows maxResults
      (holdings.withCatalog (holdings.catalog.erase id))

theorem Stands.run_removeDataset (h : service.Stands settings maxResults holdings)
    (request : Request) (arrival : Arrival)
    (hfits : isValidId id = true → Disk.Fits (dataFileName id)) :
    ∃ service', (perform request arrival (.removeDataset id)).run service =
        (((holdings.catalog.remove id).1.mapError fun error => .failed (.storage error)).map
          fun id => resultResponse (.string id), service') ∧
      service'.Stands settings maxResults
        (holdings.withCatalog (holdings.catalog.remove id).2) := by
  obtain ⟨store, hrun, hstore⟩ := h.datasets.run_remove hfits
  refine ⟨_, ?_, h.afterRemove hrun hstore⟩
  rw [perform, run_bind, run_onDatasets hrun]
  cases (holdings.catalog.remove id).1 <;> rfl

/-- **A request to remove a dataset is answered by whether there is one.** -/
theorem Stands.answersRemoval (h : service.Stands settings maxResults holdings)
    {idPart : String} (hasks : request.Asks .delete (.dataset idPart))
    (hfits : ∀ id, Percent.decode? idPart = some id → isValidId id = true →
      Disk.Fits (dataFileName id)) :
    service.AnswersRemoval maxResults holdings request arrival idPart := by
  cases hid : Percent.decode? idPart with
  | none =>
    have hstatus := (exchange_of_asks_error service arrival hasks (by decide) (by decide) rfl
      (Endpoint.decode?_removeDataset_of_none hid)).1
    have hnone : ∀ id, Percent.decode? idPart ≠ some id := by
      intro id hsome
      cases hid.symm.trans hsome
    exact ⟨fun id hsome => absurd hsome (hnone id), fun id hsome => absurd hsome (hnone id),
      fun _ => hstatus, fun id hsome => absurd hsome (hnone id)⟩
  | some id =>
    obtain ⟨service', hrun, hstands⟩ := h.run_removeDataset request arrival (hfits id hid)
    obtain ⟨hanswer, hafter⟩ := exchange_of_asks service arrival hasks (by decide) (by decide) rfl
      (Endpoint.decode?_removeDataset hid)
    have hstatus := hanswer.status
    rw [hrun] at hstatus hafter
    refine ⟨?_, ?_, fun hinvalid => ?_, ?_⟩
    · intro id' hid' hmem
      cases hid.symm.trans hid'
      rw [hstatus, Catalog.remove_of_mem (h.datasets.isValidId hmem) hmem]
      rfl
    · intro id' hid' hvalid hmissing
      cases hid.symm.trans hid'
      rw [hstatus, Catalog.remove_of_not_mem hvalid hmissing]
      rfl
    · rw [hstatus, Catalog.remove_of_not_valid (hinvalid id hid)]
      rfl
    · intro id' hid' hmem
      cases hid.symm.trans hid'
      rw [Catalog.remove_of_mem (h.datasets.isValidId hmem) hmem] at hstands
      exact hafter ▸ hstands.shows

/-! ### The contract -/

/-- What a service with the holdings does with requests about datasets, and what other requests
leave alone. -/
structure KeepsContract (service : Service) (maxResults : Nat) (holdings : Holdings) : Prop where
  shows : service.Shows maxResults holdings
  uploads : ∀ request arrival idPart kindPart body,
    request.Asks .put (.datasetOfKind idPart kindPart) →
    request.jsonBody service.settings.maxBodySize = .ok body → arrival.now.InRange →
    (∀ id, Percent.decode? idPart = some id → isValidId id = true →
      Disk.Fits (temporaryName (dataFileName id))) →
    service.AnswersUpload maxResults holdings request arrival idPart kindPart body
  removals : ∀ request arrival idPart, request.Asks .delete (.dataset idPart) →
    (∀ id, Percent.decode? idPart = some id → isValidId id = true →
      Disk.Fits (dataFileName id)) →
    service.AnswersRemoval maxResults holdings request arrival idPart
  /-- Every answer but success leaves everything as it is. -/
  failures : ∀ request arrival, arrival.now.InRange →
    (service.exchange request arrival).1.status ≠ .ok →
    (service.exchange request arrival).2.Shows maxResults holdings

/-- **Every reachable service keeps the contract.** Adding a dataset is answered with success
exactly if the kind, the records and the id are right, and removing one by whether it is there. Then
the service shows the change, and after any other answer it shows what it showed. -/
theorem Reachable.keepsContract {root : String} (h : Reachable settings maxResults root service)
    (hlimit : settings.maxBodySize < twoPow 64) :
    ∃ holdings, service.KeepsContract maxResults holdings := by
  obtain ⟨holdings, hstands⟩ := h.exists_stands hlimit
  exact ⟨holdings, {
    shows := hstands.shows
    uploads := fun request arrival idPart kindPart body hasks hbody hnow hfits =>
      hstands.answersUpload hlimit hnow hasks hbody hfits
    removals := fun request arrival idPart hasks hfits => hstands.answersRemoval hasks hfits
    failures := fun request arrival hnow hfailed =>
      ((hstands.exchange hlimit request hnow).2 hfailed).shows }⟩

/-- A service without datasets. -/
def newService : Service :=
  (start (.ofAddress "localhost" 4321) 5000 "data" .empty).2

/-- What requests find that arrive at midnight. -/
def atMidnight : Arrival :=
  ⟨⟨20000, 0, 0⟩, "1", 0, 0⟩

/-- Asks for one section to be added. -/
def sectionUpload : Request :=
  ⟨.put, "/api/v1/dataset/s/sections", "", [("content-type", "application/json")],
    "[[\"1\",\"310\",\"algorithms\",\"\",\"cpsc\",2000,97,9,1,0]]"⟩

/-- Asks for the section to be removed. -/
def sectionRemoval : Request :=
  ⟨.delete, "/api/v1/dataset/s", "", [], ""⟩

theorem exists_jsonBody_sectionUpload :
    ∃ body, sectionUpload.jsonBody newService.settings.maxBodySize = .ok body := by
  have hread :
      (sectionUpload.jsonBody newService.settings.maxBodySize).toOption.isSome = true := by
    decide +kernel
  cases hbody : sectionUpload.jsonBody newService.settings.maxBodySize with
  | ok body => exact ⟨body, rfl⟩
  | error rejection =>
    rw [hbody] at hread
    cases hread

theorem keepsContract_newService :
    ApiSettings.defaultMaxBodySize < twoPow 64 ∧
      Reachable (.ofAddress "localhost" 4321) 5000 "data" newService ∧
      ∃ holdings, newService.Shows 5000 holdings ∧ "s" ∉ holdings.catalog ∧
        (newService.exchange sectionRemoval atMidnight).1.status = .notFound ∧
        (newService.exchange sectionRemoval atMidnight).2.Shows 5000 holdings ∧
        (newService.exchange sectionUpload atMidnight).1.status = .ok ∧
        ∃ records, (newService.exchange sectionUpload atMidnight).2.Shows 5000
          (holdings.withCatalog (holdings.catalog.insert "s" ⟨records, atMidnight.now⟩)) := by
  have hreached : Reachable (.ofAddress "localhost" 4321) 5000 "data" newService := .start
  have hlimit : ApiSettings.defaultMaxBodySize < twoPow 64 := by decide
  obtain ⟨holdings, hcontract⟩ := hreached.keepsContract hlimit
  have hnow : atMidnight.now.InRange := ⟨by decide, by decide, by decide, by decide⟩
  have hdecode : Percent.decode? "s" = some "s" := by decide +kernel
  have hid : ∀ id, Percent.decode? "s" = some id → id = "s" := fun id hsome =>
    Option.some.inj (hsome.symm.trans hdecode)
  -- The body is not written out: that the request succeeds tells that it holds an upload.
  obtain ⟨body, hbody⟩ := exists_jsonBody_sectionUpload
  have hupload := hcontract.uploads sectionUpload atMidnight "s" "sections" body
    ⟨rfl, by decide +kernel⟩ hbody hnow fun id hsome _ => hid id hsome ▸ by decide
  have hadded : (newService.exchange sectionUpload atMidnight).1.status = .ok := by
    decide +kernel
  obtain ⟨id, kindText, kind, items, hsome, hkindText, hrecords⟩ := hupload.ok_iff.mp hadded
  obtain ⟨records, -, -, hafter⟩ := hupload.added id kindText kind items hsome hkindText hrecords
  obtain rfl := hid id hsome
  have hremoval := hcontract.removals sectionRemoval atMidnight "s" ⟨rfl, by decide +kernel⟩
    fun id hsome _ => hid id hsome ▸ by decide
  have hmissing := hremoval.unregistered "s" hdecode hrecords.valid hrecords.new
  have hkept := hcontract.failures sectionRemoval atMidnight hnow (by rw [hmissing]; decide)
  exact ⟨hlimit, hreached, holdings, hcontract.shows, hrecords.new, hmissing, hkept, hadded,
    records, hafter⟩

end Service

end Registrar
