import Registrar.Proofs.Http.Exchange
import Registrar.Proofs.Storage.Invariant

/-!
# Who may see responses

A page from elsewhere sees a response if the response grants access to everyone, or to the origin of
the page. What a response grants is settled by the list of configured origins and by the origin that
the request names. Nothing else has a say in it: no endpoint adds to what is granted, and none takes
away from it.

## Which list it is

Origins that cannot be written in a header are left out before it is settled whether there are any.
So a list of which *some* can be written grants access to its own entries alone, and to none if the
wildcard is among them. A list of which *none* can be written is taken for the empty one, which
grants access to everyone: there the entries that are left out do not narrow the access but widen
it. Only control characters cannot be written, so an origin with other letters is not left out.

## Main definitions

* `Response.grants` — what a response grants access to.

## Main results

* `Service.grants_exchange` — no endpoint has a say in it.
* `Service.mem_grants_exchange_iff` — what is granted, by the configured origins.
* `Service.grants_everyone_of_unwritable` — a list of origins that grants access to everyone.
-/

namespace Registrar

/-- The name of the header that grants access. -/
def accessHeader : String := "access-control-allow-origin"

namespace Response

/-- What a response grants access to. -/
def grants (response : Response) : List String :=
  (response.headers.filter fun header => header.1 = accessHeader).map Prod.snd

variable {response : Response}

theorem grants_withHeader {name : String} (value : String) (h : name ≠ accessHeader) :
    (response.withHeader name value).grants = response.grants := by
  rw [grants, withHeader, List.filter_append, List.filter_cons_of_neg (by simpa using h),
    List.filter_nil, List.append_nil, grants]

theorem grants_withLength : response.withLength.grants = response.grants :=
  grants_withHeader _ (by decide)

end Response

/-! ### Origins -/

namespace OriginPolicy

variable {origins : List String} {origin? : Option String} {granted : String}

theorem isHeaderText_wildcard : isHeaderText "*" = true := by
  decide +kernel

/-- **What is granted, by the configured origins.** -/
theorem granted?_ofOrigins_eq_some_iff :
    (ofOrigins origins).granted? origin? = some granted ↔
      ((∀ origin ∈ origins, isHeaderText origin = false) ∧ granted = "*") ∨
        ("*" ∉ origins ∧ origin? = some granted ∧ granted ∈ origins ∧
          isHeaderText granted = true) := by
  have hwildcard : (origins.filter isHeaderText).contains "*" = true ↔ "*" ∈ origins := by
    rw [List.contains_iff_mem, List.mem_filter, and_iff_left isHeaderText_wildcard]
  rw [ofOrigins]
  split
  · next hnone =>
    have hall : ∀ origin ∈ origins, isHeaderText origin = false := by
      simpa [List.filter_eq_nil_iff] using hnone
    rw [granted?, Option.some_inj]
    constructor
    · rintro rfl
      exact .inl ⟨hall, rfl⟩
    · rintro (⟨-, rfl⟩ | ⟨-, -, hmem, htext⟩)
      · rfl
      · rw [hall granted hmem] at htext
        cases htext
  · next hsome =>
    have hwritten : ¬∀ origin ∈ origins, isHeaderText origin = false := by
      simpa [List.filter_eq_nil_iff] using hsome
    split
    · next hlisted =>
      refine iff_of_false (fun hgranted => nomatch hgranted) ?_
      rintro (⟨hall, -⟩ | ⟨hmissing, -⟩)
      · exact hwritten hall
      · exact hmissing (hwildcard.mp hlisted)
    · next hmissing =>
      rw [hwildcard] at hmissing
      rw [granted?, Option.filter_eq_some_iff, List.contains_iff_mem, List.mem_filter]
      exact ⟨fun h => .inr ⟨hmissing, h⟩, fun h => (h.resolve_left fun h => hwritten h.1).2⟩

/-- The header that grants access is the only one of its name. -/
theorem grants_of_grant (policy : OriginPolicy) (origin? : Option String) (status : Status)
    (headers : List (String × String)) (body : String)
    (h : ∀ header ∈ headers, header.1 ≠ accessHeader) :
    Response.grants ⟨status, headers ++ policy.grant origin?, body⟩ =
      (policy.granted? origin?).toList := by
  have hothers : headers.filter (fun header => header.1 = accessHeader) = [] :=
    List.filter_eq_nil_iff.mpr fun header hheader => by simpa using h header hheader
  rw [Response.grants, List.filter_append, hothers, List.nil_append, grant]
  cases policy.granted? origin? <;> rfl

theorem grants_preflight (policy : OriginPolicy) (origin? : Option String) :
    (policy.preflight origin?).grants = (policy.granted? origin?).toList := by
  refine policy.grants_of_grant origin? .ok [dependence, ("access-control-allow-methods", "*"),
    ("access-control-allow-headers", "*")] "" ?_
  decide

/-- Headers about access grant what the policy grants, if nothing was granted before. -/
theorem grants_apply (policy : OriginPolicy) (origin? : Option String) {response : Response}
    (h : response.grants = []) :
    (policy.apply origin? response).grants = (policy.granted? origin?).toList := by
  have hheaders : ∀ header ∈ response.headers, header.1 ≠ accessHeader := by
    simpa [Response.grants] using h
  cases policy with
  | anyone =>
    refine anyone.grants_of_grant origin? response.status
      (response.headers ++ [dependence, ("access-control-expose-headers", "*")]) response.body ?_
    exact List.forall_mem_append.mpr ⟨hheaders, by decide⟩
  | only origins =>
    refine (only origins).grants_of_grant origin? response.status
      (response.headers ++ [dependence]) response.body ?_
    exact List.forall_mem_append.mpr ⟨hheaders, by decide⟩
  | nobody =>
    refine nobody.grants_of_grant origin? response.status (response.headers ++ [dependence])
      response.body ?_
    exact List.forall_mem_append.mpr ⟨hheaders, by decide⟩

end OriginPolicy

/-! ### Endpoints -/

namespace Service

variable {service : Service} {request : Request} {arrival : Arrival}

/-- Nothing need be known of what a step does. -/
theorem ensures_true {α : Type} (action : Action α) :
    Ensures (fun _ => True) action fun _ => True :=
  fun _ _ => ⟨trivial, fun _ _ => trivial⟩

/-- **No endpoint grants anything.** -/
theorem ensures_perform_grants (endpoint : Endpoint) :
    Ensures (fun _ => True) (perform request arrival endpoint)
      fun response => response.grants = [] := by
  cases endpoint with
  | listDatasets => exact (ensures_true _).bind fun _ _ => ensures_pure rfl
  | addDataset id kindText =>
    refine (ensures_true _).bind fun body _ => ?_
    split
    · exact ensures_throw
    · exact (ensures_true _).bind fun _ _ => (ensures_true _).bind fun _ _ => ensures_pure rfl
  | removeDataset id => exact (ensures_true _).bind fun _ _ => ensures_pure rfl
  | performQuery =>
    refine (ensures_true _).bind fun format _ => (ensures_true _).bind fun tree _ =>
      (ensures_true _).bind fun before _ => (ensures_true _).bind fun output _ => ?_
    split
    · exact ensures_pure rfl
    · exact ensures_pure rfl
    · exact ensures_throw
  | showReviews room => exact (ensures_true _).bind fun _ _ => ensures_pure rfl
  | openReviews room => exact (ensures_true _).bind fun _ _ => ensures_pure rfl
  | submitScore room scoreText =>
    rw [perform, submitScore]
    split
    · exact ensures_throw
    · exact (ensures_true _).bind fun _ _ => ensures_pure rfl
  | live => exact ensures_pure rfl
  | ready => exact (ensures_true _).bind fun _ _ => ensures_pure rfl
  | health =>
    exact (ensures_true _).bind fun _ _ => (ensures_true _).bind fun _ _ => ensures_pure rfl

theorem grants_responseOf {requestId : String} {outcome : Except Failure Response}
    (h : ∀ response, outcome = .ok response → response.grants = []) :
    (responseOf requestId outcome).grants = [] := by
  cases outcome with
  | ok response => exact h response rfl
  | error failure => cases failure <;> rfl

theorem grants_answer (endpoint : Endpoint) :
    ((answer request arrival endpoint).run service).1.grants = [] := by
  cases hdecode : endpoint.decode? with
  | error name =>
    rw [run_answer_of_error hdecode]
    rfl
  | ok decoded =>
    rw [run_answer_of_ok hdecode]
    exact grants_responseOf (ensures_perform_grants decoded service trivial).2

/-- **Nothing is granted before the configured origins are looked at.** -/
theorem grants_dispatch : ((dispatch request arrival).run service).1.grants = [] := by
  cases hresource : Resource.ofPath? request.path with
  | none =>
    rw [dispatch, hresource]
    exact Response.grants_withLength
  | some resource =>
    cases hendpoint : resource.endpoint? (if request.method = .head then .get else request.method)
      with
    | none =>
      rw [dispatch, hresource]
      simp only [hendpoint]
      exact Response.grants_withLength.trans (Response.grants_withHeader _ (by decide))
    | some endpoint =>
      rw [run_dispatch_of_endpoint hresource hendpoint]
      have hanswer : ((answer request arrival endpoint).run service).1.withLength.grants = [] :=
        Response.grants_withLength.trans (grants_answer endpoint)
      split
      · exact hanswer
      · exact hanswer

/-! ### Answers -/

/-- **What an answer grants is what the configured origins grant**, whatever is asked. -/
theorem grants_exchange (service : Service) (request : Request) (arrival : Arrival) :
    (service.exchange request arrival).1.grants =
      ((OriginPolicy.ofOrigins service.settings.origins).granted?
        (request.header? "origin")).toList := by
  by_cases hoptions : request.method = .options
  · have hpreflight := (OriginPolicy.ofOrigins service.settings.origins).grants_preflight
      (request.header? "origin")
    rw [exchange, respond]
    simp only [hoptions, if_true]
    cases Resource.ofPath? request.path with
    | none => exact Response.grants_withLength.trans hpreflight
    | some resource =>
      exact (Response.grants_withHeader _ (by decide)).trans
        (Response.grants_withLength.trans hpreflight)
  · rw [exchange_of_dispatch hoptions]
    exact OriginPolicy.grants_apply _ _ grants_dispatch

/-- **Access is granted to listed origins only, if some origin of the list can be written.** An
answer grants access to the origin of the request, if that is listed and can be written; and to
everyone, if no origin of the list can be. With the wildcard in the list nothing is granted. -/
theorem mem_grants_exchange_iff (service : Service) (request : Request) (arrival : Arrival)
    (granted : String) :
    granted ∈ (service.exchange request arrival).1.grants ↔
      ((∀ origin ∈ service.settings.origins, OriginPolicy.isHeaderText origin = false) ∧
          granted = "*") ∨
        ("*" ∉ service.settings.origins ∧ request.header? "origin" = some granted ∧
          granted ∈ service.settings.origins ∧ OriginPolicy.isHeaderText granted = true) := by
  rw [grants_exchange, Option.mem_toList]
  exact OriginPolicy.granted?_ofOrigins_eq_some_iff

/-- The origin of the page is on the list, and then it is not. An entry that cannot be written makes
no difference. -/
example :
    let service : Service := ⟨⟨"", 0, ["http://ä", "bad\norigin"], 0⟩, 0, "", [], [], .empty⟩
    let ask (origin : String) : Request := ⟨.get, "/health/live", "", [("origin", origin)], ""⟩
    (service.exchange (ask "http://ä") default).1.grants = ["http://ä"] ∧
      (service.exchange (ask "http://b") default).1.grants = [] := by
  decide +kernel

/-- **A list of origins may grant access to everyone.** The only origin of the list cannot be
written, and a page that is not on the list sees the response. -/
theorem grants_everyone_of_unwritable :
    let service : Service := ⟨⟨"", 0, ["bad\norigin"], 0⟩, 0, "", [], [], .empty⟩
    let request : Request := ⟨.get, "/health/live", "", [("origin", "http://b")], ""⟩
    service.settings.origins ≠ [] ∧ "http://b" ∉ service.settings.origins ∧
      "*" ∉ service.settings.origins ∧
      (service.exchange request default).1.grants = ["*"] := by
  decide +kernel

end Service

end Registrar
