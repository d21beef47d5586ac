import Registrar.Proofs.Http.Stores
import Registrar.Proofs.Http.Upload

/-!
# What a request comes to

Most of what is done with a request does not change the service: the method and the path select an
endpoint, percent-encoding is undone, and headers are added to the answer. This leaves what the
endpoint does, and how its outcome is told.

## Main definitions

* `Service.exchange` — the answer to a request, and the service after it.
* `Request.Asks` — what a request is for; `Response.Tells` — an answer but for its headers.
* `Service.responseOf` — the answer for an outcome of an endpoint.

## Main results

* `Service.exchange_of_asks` — a request is answered by what its endpoint comes to.
* `Service.exchange_cases` — a request changes no more than what its endpoint does.
-/

namespace Registrar

/-- The response tells what is expected; its headers may be others. -/
structure Response.Tells (response expected : Response) : Prop where
  status : response.status = expected.status
  body : response.body = expected.body

/-- The request asks for a resource with a method. -/
structure Request.Asks (request : Request) (method : Method) (resource : Resource) : Prop where
  method : request.method = method
  resource : Resource.ofPath? request.path = some resource

/-- The answer to a request without a result. -/
def Failure.response (requestId : String) : Failure → Response
  | rejected rejection => rejection.response
  | failed error => error.response requestId

namespace Service

variable {service : Service} {request : Request} {arrival : Arrival}

/-- The answer to a request, and the service after it. -/
def exchange (service : Service) (request : Request) (arrival : Arrival) : Response × Service :=
  (respond request arrival).run service

/-- The answer for what an endpoint comes to. -/
def responseOf (requestId : String) : Except Failure Response → Response
  | .ok response => response
  | .error failure => failure.response requestId

theorem exchange_of_options (h : request.method = .options) :
    (service.exchange request arrival).2 = service := by
  rw [exchange, respond]
  simp only [h, if_true]
  cases Resource.ofPath? request.path <;> rfl

theorem exchange_of_dispatch (h : request.method ≠ .options) :
    service.exchange request arrival =
      ((OriginPolicy.ofOrigins service.settings.origins).apply (request.header? "origin")
          ((dispatch request arrival).run service).1,
        ((dispatch request arrival).run service).2) := by
  rw [exchange, respond]
  simp only [h, if_false]
  rfl

theorem run_dispatch_of_none (h : Resource.ofPath? request.path = none) :
    ((dispatch request arrival).run service).2 = service := by
  rw [dispatch, h]
  rfl

theorem run_dispatch_of_endpoint {resource : Resource}
    (h : Resource.ofPath? request.path = some resource) {endpoint : Endpoint}
    (hendpoint : resource.endpoint? (if request.method = .head then .get else request.method) =
      some endpoint) :
    (dispatch request arrival).run service =
      (if request.method = .head then
          ((answer request arrival endpoint).run service).1.withLength.withoutBody
        else ((answer request arrival endpoint).run service).1.withLength,
        ((answer request arrival endpoint).run service).2) := by
  rw [dispatch, h]
  simp only [hendpoint]
  rfl

theorem run_dispatch_of_no_endpoint {resource : Resource}
    (h : Resource.ofPath? request.path = some resource)
    (hendpoint : resource.endpoint? (if request.method = .head then .get else request.method) =
      none) :
    ((dispatch request arrival).run service).2 = service := by
  rw [dispatch, h]
  simp only [hendpoint]
  rfl

theorem run_answer_of_error {endpoint : Endpoint} {name : String}
    (h : endpoint.decode? = .error name) :
    (answer request arrival endpoint).run service =
      ((Rejection.partNotText name).response, service) := by
  rw [answer, h]
  rfl

theorem run_answer_of_ok {endpoint decoded : Endpoint} (h : endpoint.decode? = .ok decoded) :
    (answer request arrival endpoint).run service =
      (responseOf arrival.requestId ((perform request arrival decoded).run service).1,
        ((perform request arrival decoded).run service).2) := by
  rw [answer, h]
  cases hrun : (perform request arrival decoded).run service with
  | mk outcome service' =>
    have hstep : StateT.run (perform request arrival decoded).run service = (outcome, service') :=
      hrun
    simp only [StateT.run_bind, hstep]
    rcases outcome with (_ | _) | _ <;> rfl

/-! ### Answers -/

/-- **A request whose parts are texts is answered by what its endpoint comes to.** -/
theorem exchange_of_asks (service : Service) (arrival : Arrival) {method : Method}
    {resource : Resource} {endpoint decoded : Endpoint} (h : request.Asks method resource)
    (hmethod : method ≠ .options) (hhead : method ≠ .head)
    (hendpoint : resource.endpoint? method = some endpoint)
    (hdecode : endpoint.decode? = .ok decoded) :
    (service.exchange request arrival).1.Tells
        (responseOf arrival.requestId ((perform request arrival decoded).run service).1) ∧
      (service.exchange request arrival).2 = ((perform request arrival decoded).run service).2 := by
  obtain ⟨rfl, hresource⟩ := h
  rw [exchange_of_dispatch hmethod, run_dispatch_of_endpoint hresource (by rwa [if_neg hhead]),
    run_answer_of_ok hdecode, if_neg hhead]
  exact ⟨⟨rfl, rfl⟩, rfl⟩

/-- A request with a part that is no text is not looked at. -/
theorem exchange_of_asks_error (service : Service) (arrival : Arrival) {method : Method}
    {resource : Resource} {endpoint : Endpoint} {name : String}
    (h : request.Asks method resource) (hmethod : method ≠ .options)
    (hhead : method ≠ .head) (hendpoint : resource.endpoint? method = some endpoint)
    (hdecode : endpoint.decode? = .error name) :
    (service.exchange request arrival).1.status = .badRequest ∧
      (service.exchange request arrival).2 = service := by
  obtain ⟨rfl, hresource⟩ := h
  rw [exchange_of_dispatch hmethod, run_dispatch_of_endpoint hresource (by rwa [if_neg hhead]),
    run_answer_of_error hdecode, if_neg hhead]
  exact ⟨rfl, rfl⟩

/-- **A request changes no more than what its endpoint does**, if it has one. -/
theorem exchange_cases (service : Service) (request : Request) (arrival : Arrival) :
    (service.exchange request arrival).2 = service ∨ ∃ endpoint,
      (service.exchange request arrival).1.status =
          (responseOf arrival.requestId ((perform request arrival endpoint).run service).1).status ∧
        (service.exchange request arrival).2 =
          ((perform request arrival endpoint).run service).2 := by
  by_cases hoptions : request.method = .options
  · exact .inl (exchange_of_options hoptions)
  rw [exchange_of_dispatch hoptions]
  cases hresource : Resource.ofPath? request.path with
  | none => exact .inl (run_dispatch_of_none hresource)
  | some resource =>
    cases hendpoint : resource.endpoint? (if request.method = .head then .get else request.method)
      with
    | none => exact .inl (run_dispatch_of_no_endpoint hresource hendpoint)
    | some endpoint =>
      rw [run_dispatch_of_endpoint hresource hendpoint]
      cases hdecode : endpoint.decode? with
      | error name =>
        rw [run_answer_of_error hdecode]
        exact .inl rfl
      | ok decoded =>
        rw [run_answer_of_ok hdecode]
        refine .inr ⟨decoded, ?_, rfl⟩
        split <;> rfl

/-! ### Steps of an endpoint -/

theorem run_onDatasets {α ε : Type} {toError : ε → ApiError}
    {action : ExceptT ε (StateM DatasetStore) α} {outcome : Except ε α} {store : DatasetStore}
    (h : action.run service.datasetStore = (outcome, store)) :
    (onDatasets toError action).run service =
      (outcome.mapError fun error => .failed (toError error), service.withDatasets store) := by
  rw [onDatasets, run_bind_ok run_get]
  simp only [h]
  cases outcome <;> rfl

theorem run_onReviews {α : Type} {action : ReviewStore.Action α}
    {outcome : Except StorageError α} {store : ReviewStore}
    (h : action.run service.reviewStore = (outcome, store)) :
    (onReviews action).run service =
      (outcome.mapError fun error => .failed (.storage error), service.withReviews store) := by
  rw [onReviews, run_bind_ok run_get]
  simp only [h]
  cases outcome <;> rfl

theorem run_orReject {α : Type} (result : Except Rejection α) :
    (orReject result).run service = (result.mapError .rejected, service) := by
  cases result <;> rfl

theorem run_orFail {α : Type} (result : Except ApiError α) :
    (orFail result).run service = (result.mapError .failed, service) := by
  cases result <;> rfl

theorem run_bodyOf (request : Request) : (bodyOf request).run service =
    ((request.jsonBody service.settings.maxBodySize).mapError .rejected, service) := by
  rw [bodyOf, run_bind_ok run_get, run_orReject]

end Service

end Registrar
