import Registrar.Proofs.Http.Exchange

/-!
# Endpoints and what a service has

An endpoint looks at what a service has, or it changes it. Those that look leave everything as it
is, whatever they come to. Those that change something do so in one step, and only if they are
answered with success: everything that can be wrong with a request is found before that step, and a
store that fails is as it was before.

## Main definitions

* `Endpoint.IsQuiet` — the endpoint looks.
* `Service.Atomic` — an action that changes what a service has only if it is answered with success.

## Main results

* `Service.ensures_perform_of_isQuiet` — looking changes nothing.
* `Service.atomic_perform` — every endpoint is such an action.
-/

namespace Registrar

/-- The endpoint changes neither datasets nor reviews. -/
def Endpoint.IsQuiet : Endpoint → Prop
  | .addDataset .. | .removeDataset _ | .openReviews _ | .submitScore .. => False
  | .listDatasets | .performQuery | .showReviews _ | .live | .ready | .health => True

namespace Catalog

variable {catalog catalog' : Catalog} {id : String} {error : StorageError}

/-- What is not added changes nothing. -/
theorem eq_of_add_error {records : RecordSet} {now : Timestamp}
    (h : catalog.add id records now = (.error error, catalog')) : catalog' = catalog := by
  rw [add] at h
  repeat' split at h
  all_goals cases h
  all_goals rfl

/-- What is not removed changes nothing. -/
theorem eq_of_remove_error (h : catalog.remove id = (.error error, catalog')) :
    catalog' = catalog := by
  rw [remove] at h
  repeat' split at h
  all_goals cases h
  all_goals rfl

end Catalog

namespace Service

variable {service : Service} {settings : ApiSettings} {maxResults : Nat} {holdings : Holdings}
  {request : Request} {arrival : Arrival}

/-! ### Looking -/

/-- A request to the datasets that keeps what the service has. -/
theorem ensures_onDatasets {α ε : Type} {toError : ε → ApiError}
    {action : ExceptT ε (StateM DatasetStore) α}
    (h : ∀ service : Service, service.Stands settings maxResults holdings →
      (service.withDatasets (action.run service.datasetStore).2).Stands settings maxResults
        holdings) :
    Ensures (Stands settings maxResults holdings) (onDatasets toError action)
      fun _ => True := by
  intro service hservice
  rw [run_onDatasets (Prod.mk.eta (p := action.run service.datasetStore)).symm]
  exact ⟨h service hservice, fun _ _ => trivial⟩

theorem ensures_orReject {α : Type} (result : Except Rejection α) :
    Ensures (Stands settings maxResults holdings) (orReject result) fun a => result = .ok a := by
  cases result with
  | ok value => exact ensures_pure rfl
  | error rejection => exact ensures_throw

theorem ensures_orFail {α : Type} (result : Except ApiError α) :
    Ensures (Stands settings maxResults holdings) (orFail result) fun a => result = .ok a := by
  cases result with
  | ok value => exact ensures_pure rfl
  | error error => exact ensures_throw

theorem ensures_bodyOf (request : Request) :
    Ensures (Stands settings maxResults holdings) (bodyOf request)
      fun body => request.jsonBody settings.maxBodySize = .ok body :=
  ensures_getState.bind fun _ h => h.settings ▸ ensures_orReject _

theorem ensures_listDatasets :
    Ensures (Stands settings maxResults holdings)
      (perform request arrival .listDatasets) fun _ => True := by
  refine (ensures_onDatasets fun service h => ?_).bind fun _ _ => ensures_pure trivial
  rw [h.datasets.run_infos]
  exact h

theorem ensures_performQuery :
    Ensures (Stands settings maxResults holdings)
      (perform request arrival .performQuery) fun _ => True := by
  refine (ensures_orReject _).bind fun format _ => (ensures_bodyOf request).bind fun tree _ =>
    ensures_getState.bind fun before _ =>
      (ensures_onDatasets fun service h => ?_).bind fun output _ => ?_
  · obtain ⟨outcome, store, hrun, hstore⟩ := h.datasets.exists_run_query tree before.maxResults
    rw [hrun]
    exact h.afterQuery hrun hstore
  · split
    · exact ensures_pure trivial
    · exact ensures_pure trivial
    · exact ensures_throw

theorem ensures_countDatasets :
    Ensures (Stands settings maxResults holdings) countDatasets
      fun _ => True := by
  refine Ensures.tryCatch ((ensures_onDatasets fun service h => ?_).bind fun _ _ =>
    ensures_pure trivial) fun _ => ensures_pure trivial
  rw [h.datasets.run_ids]
  exact h

theorem ensures_onReviews_get (room : String) :
    Ensures (Stands settings maxResults holdings) (onReviews (ReviewStore.get room))
      fun _ => True := by
  intro service h
  obtain ⟨outcome, hrun⟩ : ∃ outcome,
      (ReviewStore.get room).run service.reviewStore = (outcome, service.reviewStore) := by
    rw [ReviewStore.get, run_bind_ok run_get]
    cases service.reviewStore.tally? room with
    | none => exact ⟨_, rfl⟩
    | some tally => exact ⟨_, rfl⟩
  rw [run_onReviews hrun]
  exact ⟨h, fun _ _ => trivial⟩

/-- **Looking changes nothing that a service has.** -/
theorem ensures_perform_of_isQuiet {endpoint : Endpoint} (h : endpoint.IsQuiet) :
    Ensures (Stands settings maxResults holdings) (perform request arrival endpoint)
      fun _ => True := by
  cases endpoint with
  | listDatasets => exact ensures_listDatasets
  | performQuery => exact ensures_performQuery
  | showReviews room => exact (ensures_onReviews_get room).bind fun _ _ => ensures_pure trivial
  | live => exact ensures_pure trivial
  | ready => exact ensures_countDatasets.bind fun _ _ => ensures_pure trivial
  | health =>
    exact ensures_countDatasets.bind fun _ _ => ensures_getState.bind fun _ _ =>
      ensures_pure trivial
  | addDataset | removeDataset | openReviews | submitScore => cases h

/-! ### Changing -/

/-- An action that changes what a service has only if it is answered with success. -/
def Atomic (settings : ApiSettings) (maxResults : Nat) (holdings : Holdings)
    (action : Action Response) : Prop :=
  ∀ service : Service, service.Stands settings maxResults holdings →
    (∃ holdings', (action.run service).2.Stands settings maxResults holdings') ∧
      ∀ requestId, (responseOf requestId (action.run service).1).status ≠ .ok →
        (action.run service).2.Stands settings maxResults holdings

namespace Atomic

theorem of_ensures {action : Action Response} {Q : Response → Prop}
    (h : Ensures (Stands settings maxResults holdings) action Q) :
    Atomic settings maxResults holdings action :=
  fun service hservice => ⟨⟨holdings, (h service hservice).1⟩, fun _ _ => (h service hservice).1⟩

theorem throw (failure : Failure) :
    Atomic settings maxResults holdings (MonadExcept.throw failure) :=
  .of_ensures (Q := fun _ => True) ensures_throw

/-- What is done first is done only if nothing has been changed by it. -/
theorem bind {α : Type} {x : Action α} {f : α → Action Response} {Q : α → Prop}
    (hx : Ensures (Stands settings maxResults holdings) x Q)
    (hf : ∀ a, Q a → Atomic settings maxResults holdings (f a)) :
    Atomic settings maxResults holdings (x >>= f) := by
  intro service hservice
  obtain ⟨hkeep, hvalue⟩ := hx service hservice
  rw [run_bind]
  cases hrun : x.run service with
  | mk outcome service' =>
    rw [hrun] at hkeep hvalue
    cases outcome with
    | ok a => exact hf a (hvalue a rfl) service' hkeep
    | error failure => exact ⟨⟨holdings, hkeep⟩, fun _ _ => hkeep⟩

end Atomic

/-- A change of the datasets that is answered with success. -/
theorem atomic_onDatasets {α : Type} {toError : StorageError → ApiError}
    {action : DatasetStore.Action α} {toResponse : α → Response}
    (hok : ∀ a, (toResponse a).status = .ok)
    (h : ∀ service : Service, service.Stands settings maxResults holdings →
      ∃ outcome store catalog, action.run service.datasetStore = (outcome, store) ∧
        (service.withDatasets store).Stands settings maxResults (holdings.withCatalog catalog) ∧
        ∀ error, outcome = .error error → catalog = holdings.catalog) :
    Atomic settings maxResults holdings (do return toResponse (← onDatasets toError action)) := by
  intro service hservice
  obtain ⟨outcome, store, catalog, hrun, hstands, hfailed⟩ := h service hservice
  rw [run_bind, run_onDatasets hrun]
  cases outcome with
  | ok a => exact ⟨⟨_, hstands⟩, fun _ hstatus => absurd (hok a) hstatus⟩
  | error error =>
    obtain rfl := hfailed error rfl
    exact ⟨⟨_, hstands⟩, fun _ _ => hstands⟩

theorem atomic_onReviews {action : ReviewStore.Action ReviewSummary}
    {toResponse : ReviewSummary → Response} (hok : ∀ a, (toResponse a).status = .ok)
    (asked : ReviewRequest)
    (h : ∀ store : ReviewStore,
      store.respond asked = (.shown (action.run store).1, (action.run store).2)) :
    Atomic settings maxResults holdings (do return toResponse (← onReviews action)) := by
  intro service hservice
  have hafter := hservice.withReviews asked
  have hstep := (hservice.reviews.step asked).1
  rw [h] at hafter hstep
  rw [run_bind, run_onReviews (Prod.mk.eta (p := action.run service.reviewStore)).symm]
  cases houtcome : (action.run service.reviewStore).1 with
  | ok summary => exact ⟨⟨_, hafter⟩, fun _ hstatus => absurd (hok summary) hstatus⟩
  | error error =>
    have hunchanged := hstep.unchanged (by rw [houtcome]; exact Option.some_ne_none error)
    refine ⟨⟨_, hafter⟩, fun _ _ => { hafter with tally := fun room => ?_ }⟩
    exact (hafter.tally room).trans ((congrArg (List.lookup room) hunchanged.tallies).trans
      (hservice.tally room))

theorem atomic_addDataset (hlimit : settings.maxBodySize < twoPow 64) {now : Timestamp}
    (hnow : now.InRange) (id kindText : String) :
    Atomic settings maxResults holdings (addDataset request now id kindText) := by
  rw [addDataset]
  refine Atomic.bind (ensures_bodyOf request) fun body hbody => ?_
  split
  · exact .throw _
  · next kind _ =>
    refine Atomic.bind (ensures_orFail _) fun records hrecords => ?_
    refine atomic_onDatasets (fun _ => rfl) fun service h => ?_
    obtain ⟨outcome, store, hrun, hcases⟩ := h.datasets.exists_run_add id
      (legible_of_recordsOf hlimit hbody hrecords hnow)
    obtain ⟨hstore, houtcome⟩ | ⟨hstore, -⟩ := hcases
    · exact ⟨outcome, store, _, hrun, h.afterAdd hrun hstore, fun error herror =>
        Catalog.eq_of_add_error (Prod.ext (houtcome.symm.trans herror) rfl)⟩
    · exact ⟨outcome, store, _, hrun, h.afterAdd hrun hstore, fun _ _ => rfl⟩

theorem atomic_removeDataset (id : String) :
    Atomic settings maxResults holdings (perform request arrival (.removeDataset id)) := by
  refine atomic_onDatasets (fun _ => rfl) fun service h => ?_
  obtain ⟨outcome, store, hrun, hcases⟩ := h.datasets.exists_run_remove id
  obtain ⟨hstore, houtcome⟩ | ⟨hstore, -⟩ := hcases
  · exact ⟨outcome, store, _, hrun, h.afterRemove hrun hstore, fun error herror =>
      Catalog.eq_of_remove_error (Prod.ext (houtcome.symm.trans herror) rfl)⟩
  · exact ⟨outcome, store, _, hrun, h.afterRemove hrun hstore, fun _ _ => rfl⟩

theorem atomic_submitScore (room scoreText : String) :
    Atomic settings maxResults holdings (submitScore room scoreText) := by
  rw [submitScore]
  split
  · exact .throw _
  · next score _ => exact atomic_onReviews (fun _ => rfl) (.submit room score) fun _ => rfl

/-- **Every endpoint changes what a service has only if it answers with success.** -/
theorem atomic_perform (hlimit : settings.maxBodySize < twoPow 64) (hnow : arrival.now.InRange)
    (endpoint : Endpoint) :
    Atomic settings maxResults holdings (perform request arrival endpoint) := by
  cases endpoint with
  | addDataset id kind => exact atomic_addDataset hlimit hnow id kind
  | removeDataset id => exact atomic_removeDataset id
  | openReviews room => exact atomic_onReviews (fun _ => rfl) (.openEntry room) fun _ => rfl
  | submitScore room score => exact atomic_submitScore room score
  | listDatasets | performQuery | showReviews | live | ready | health =>
    exact .of_ensures (ensures_perform_of_isQuiet trivial)

end Service

end Registrar
