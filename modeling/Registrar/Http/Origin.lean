import Registrar.Http.Message

/-!
# Cross-origin access

A browser lets a page from elsewhere see a response only if the response says so. The configured
origins decide; entries that cannot be written in a header are left out, and without any entry
everyone may see everything. The wildcard is not an origin: with a list that has it no routes can be
made, so nothing is ever granted.

## Main definitions

* `OriginPolicy`, `OriginPolicy.ofOrigins` — who may see responses.
* `OriginPolicy.granted?` — the origin that a response grants access to.
* `OriginPolicy.preflight`, `OriginPolicy.apply` — the headers.
-/

namespace Registrar

/-- Who may see responses. -/
inductive OriginPolicy where
  | anyone
  | only (origins : List String)
  /-- The wildcard is among the origins, and there are no responses to see. -/
  | nobody
deriving DecidableEq, Repr

namespace OriginPolicy

/-- Whether a text can be written in a header. Of its bytes no control character is allowed but the
tab; what is beyond ASCII is not looked at. -/
def isHeaderText (text : String) : Bool :=
  (utf8Bytes text).all fun byte => (32 ≤ byte && byte ≠ 127) || byte = 9

/-- The policy for the configured origins. -/
def ofOrigins (origins : List String) : OriginPolicy :=
  let written := origins.filter isHeaderText
  if written.isEmpty then anyone
  else if written.contains "*" then nobody
  else only written

/-- What a response to a request from the given origin grants access to. -/
def granted? (policy : OriginPolicy) (origin? : Option String) : Option String :=
  match policy with
  | anyone => some "*"
  | only origins => origin?.filter fun origin => origins.contains origin
  | nobody => none

/-- The header that grants access. -/
def grant (policy : OriginPolicy) (origin? : Option String) : List (String × String) :=
  match policy.granted? origin? with
  | some granted => [("access-control-allow-origin", granted)]
  | none => []

/-- The request headers on which responses depend. -/
def dependence : String × String :=
  ("vary", "origin, access-control-request-method, access-control-request-headers")

/-- The response to a browser that asks before it sends a request. -/
def preflight (policy : OriginPolicy) (origin? : Option String) : Response :=
  ⟨.ok, dependence :: ("access-control-allow-methods", "*") ::
    ("access-control-allow-headers", "*") :: policy.grant origin?, ""⟩

/-- A response with the headers about access. -/
def apply (policy : OriginPolicy) (origin? : Option String) (response : Response) : Response :=
  let exposed :=
    match policy with
    | anyone => [("access-control-expose-headers", "*")]
    | only _ | nobody => []
  { response with
    headers := response.headers ++ dependence :: exposed ++ policy.grant origin? }

end OriginPolicy

end Registrar
