import Registrar.Proofs.Http.Endpoints

/-!
# What a service shows

A client does not see the files of a service, nor what is in memory. It sees the answers to requests
that look at something: the list of the datasets, the rows of a query, the summary of a room. They
depend on nothing but what the service has.

## Main definitions

* `Service.Shows` — the answers of a service to such requests are those of given holdings.
* `Service.Reachable` — a service that has answered requests since it was opened on an empty disk.

## Main results

* `Service.Stands.shows` — a service shows what it has.
* `Service.Reachable.exists_stands` — every reachable service has something.
-/

namespace Registrar

namespace Service

variable {service : Service} {settings : ApiSettings} {maxResults : Nat} {holdings : Holdings}
  {request : Request} {arrival : Arrival}

/-- The answer to a query, in a format. -/
def rowsResponse (arrival : Arrival) (format : String) : Except QueryError Output → Response
  | .ok output =>
    if format = "csv" then .csv output.toCsv else .json .ok (output.toJson arrival.elapsed)
  | .error error => (ApiError.query error).response arrival.requestId

/-- The answer to a question about a room. -/
def tallyResponse (arrival : Arrival) (room : String) : Option Tally → Response
  | some tally => resultResponse (tally.summary room).toJson
  | none => (ApiError.storage (.reviewNotFound room)).response arrival.requestId

/-- The answers of the service to requests that look at something are those of the holdings. -/
structure Shows (service : Service) (maxResults : Nat) (holdings : Holdings) : Prop where
  datasets : ∀ request arrival, request.Asks .get .datasets →
    (service.exchange request arrival).1.Tells
      (resultResponse (.array (holdings.catalog.infos.map DatasetInfo.toJson)))
  query : ∀ request arrival tree, request.Asks .post .query →
    ∀ format ∈ ["json", "csv"], request.resultFormat = .ok format →
    request.jsonBody service.settings.maxBodySize = .ok tree →
    (∀ checked, validate tree .any = .ok checked → isValidId checked.datasetId = true →
      Disk.Fits (dataFileName checked.datasetId)) →
    (service.exchange request arrival).1.Tells
      (rowsResponse arrival format (holdings.catalog.query tree maxResults))
  rooms : ∀ request arrival part room, request.Asks .get (.room part) →
    Percent.decode? part = some room →
    (service.exchange request arrival).1.Tells
      (tallyResponse arrival room (holdings.tallies room))

theorem Stands.run_listDatasets (h : service.Stands settings maxResults holdings)
    (request : Request) (arrival : Arrival) :
    responseOf arrival.requestId ((perform request arrival .listDatasets).run service).1 =
      resultResponse (.array (holdings.catalog.infos.map DatasetInfo.toJson)) := by
  rw [perform, run_bind_ok (run_onDatasets h.datasets.run_infos)]
  rfl

theorem Stands.run_performQuery (h : service.Stands settings maxResults holdings) {tree : Json}
    {format : String} (hmem : format ∈ ["json", "csv"])
    (hformat : request.resultFormat = .ok format)
    (htree : request.jsonBody service.settings.maxBodySize = .ok tree)
    (hfits : ∀ checked, validate tree .any = .ok checked → isValidId checked.datasetId = true →
      Disk.Fits (dataFileName checked.datasetId)) :
    responseOf arrival.requestId ((perform request arrival .performQuery).run service).1 =
      rowsResponse arrival format (holdings.catalog.query tree maxResults) := by
  obtain ⟨store, hrun, -⟩ := h.datasets.run_query maxResults hfits
  have hbody : (bodyOf request).run service = (.ok tree, service) := by
    rw [run_bodyOf, htree]
    rfl
  rw [perform, performQuery, hformat, run_bind_ok (run_orReject _), run_bind_ok hbody,
    run_bind_ok run_get, h.maxResults]
  cases houtput : holdings.catalog.query tree maxResults with
  | error error =>
    rw [houtput] at hrun
    rw [run_bind_error (run_onDatasets hrun)]
    rfl
  | ok output =>
    rw [houtput] at hrun
    rw [run_bind_ok (run_onDatasets hrun)]
    obtain rfl | rfl : format = "json" ∨ format = "csv" := by simpa using hmem
    · rfl
    · rfl

theorem Stands.run_showReviews (h : service.Stands settings maxResults holdings) (room : String) :
    responseOf arrival.requestId ((perform request arrival (.showReviews room)).run service).1 =
      tallyResponse arrival room (holdings.tallies room) := by
  rw [perform, ← h.tally room]
  cases htally : service.reviewStore.tally? room with
  | none =>
    have hget : (ReviewStore.get room).run service.reviewStore =
        (.error (.reviewNotFound room), service.reviewStore) := by
      rw [ReviewStore.get, run_bind_ok run_get, htally]
      rfl
    rw [run_bind_error (run_onReviews hget)]
    rfl
  | some tally =>
    have hget : (ReviewStore.get room).run service.reviewStore =
        (.ok (tally.summary room), service.reviewStore) := by
      rw [ReviewStore.get, run_bind_ok run_get, htally]
      rfl
    rw [run_bind_ok (run_onReviews hget)]
    rfl

/-- **A service shows what it has.** -/
theorem Stands.shows (h : service.Stands settings maxResults holdings) :
    service.Shows maxResults holdings where
  datasets request arrival hasks := by
    rw [← h.run_listDatasets request arrival]
    exact (exchange_of_asks service arrival hasks (by decide) (by decide) rfl rfl).1
  query request arrival tree hasks format hmem hformat htree hfits := by
    rw [← h.run_performQuery hmem hformat htree hfits]
    exact (exchange_of_asks service arrival hasks (by decide) (by decide) rfl rfl).1
  rooms request arrival part room hasks hpart := by
    have hdecode : (Endpoint.showReviews part).decode? = .ok (.showReviews room) := by
      simp only [Endpoint.decode?, Endpoint.decode?.part, hpart]
      rfl
    rw [← h.run_showReviews room]
    exact (exchange_of_asks service arrival hasks (by decide) (by decide) rfl hdecode).1

/-! ### Services that are reached -/

/-- The service has answered requests since it was opened on an empty disk; it may have been closed
and opened again. -/
inductive Reachable (settings : ApiSettings) (maxResults : Nat) (root : String) : Service → Prop
  | start : Reachable settings maxResults root (start settings maxResults root .empty).2
  | answer {service : Service} (h : Reachable settings maxResults root service) (request : Request)
      {arrival : Arrival} (hnow : arrival.now.InRange) :
      Reachable settings maxResults root (service.exchange request arrival).2
  | restart {service : Service} (h : Reachable settings maxResults root service) :
      Reachable settings maxResults root (Service.start settings maxResults root service.disk).2

/-- **An answer other than success leaves what a service has as it is**, and every answer leaves it
with something. -/
theorem Stands.exchange (h : service.Stands settings maxResults holdings)
    (hlimit : settings.maxBodySize < twoPow 64) (request : Request) (hnow : arrival.now.InRange) :
    (∃ holdings', (service.exchange request arrival).2.Stands settings maxResults holdings') ∧
      ((service.exchange request arrival).1.status ≠ .ok →
        (service.exchange request arrival).2.Stands settings maxResults holdings) := by
  obtain hsame | ⟨endpoint, hstatus, hafter⟩ := exchange_cases service request arrival
  · rw [hsame]
    exact ⟨⟨holdings, h⟩, fun _ => h⟩
  · rw [hstatus, hafter]
    exact (atomic_perform hlimit hnow endpoint service h).imp_right fun hfailed =>
      hfailed arrival.requestId

/-- **Every reachable service has something.** -/
theorem Reachable.exists_stands {root : String} (hlimit : settings.maxBodySize < twoPow 64)
    (h : Reachable settings maxResults root service) :
    ∃ holdings, service.Stands settings maxResults holdings := by
  induction h with
  | start =>
    obtain ⟨service, hstart, hstands⟩ := stands_start settings maxResults root
    rw [hstart]
    exact ⟨_, hstands⟩
  | answer _ request hnow ih =>
    obtain ⟨holdings, hstands⟩ := ih
    exact (hstands.exchange hlimit request hnow).1
  | restart _ ih =>
    obtain ⟨holdings, hstands⟩ := ih
    obtain ⟨service', holdings', hstart, hstands'⟩ := hstands.exists_restart root
    rw [hstart]
    exact ⟨holdings', hstands'⟩

end Service

end Registrar
