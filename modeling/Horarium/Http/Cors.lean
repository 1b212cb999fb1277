/-
Module: Horarium.Http.Cors
Purpose: Which origins browsers may call the service from. The policy concerns headers alone: every
  response names the origin that is allowed, and a preflight is answered in place of the request it
  asks about.
Trusted boundary: human-reviewed definitions
Main exports: CorsPolicy, CorsPolicy.ofSetting, CorsPolicy.preflightHeaders, CorsPolicy.preflight,
  CorsPolicy.attach
-/
import Horarium.Http.Request

namespace Horarium

/-- The origin that is allowed: any, or one. -/
inductive CorsPolicy where
  | any
  | only (origin : String)
deriving DecidableEq, Repr

namespace CorsPolicy

/-- The policy that a setting asks for. What cannot be the value of a header allows any origin. -/
def ofSetting (origin : String) : CorsPolicy :=
  if origin != "*" && origin.toList.all HttpRequest.isVisible then .only origin else .any

/-- The origin as the headers name it. -/
def origin : CorsPolicy → String
  | .any => "*"
  | .only origin => origin

/-- The headers of every response but preflights. Only a policy that allows all shows all headers to
scripts. -/
def headers : CorsPolicy → List (String × String)
  | .any => [("access-control-allow-origin", "*"), ("access-control-expose-headers", "*")]
  | .only origin => [("access-control-allow-origin", origin)]

/-- The headers of a preflight. -/
def preflightHeaders (policy : CorsPolicy) : List (String × String) :=
  [("access-control-allow-origin", policy.origin), ("access-control-allow-methods", "*"),
    ("access-control-allow-headers", "*")]

/-- The answer to a preflight. -/
def preflight (policy : CorsPolicy) : HttpResponse := ⟨200, policy.preflightHeaders, .empty⟩

/-- A response with the headers of the policy. -/
def attach (policy : CorsPolicy) (response : HttpResponse) : HttpResponse :=
  { response with headers := response.headers ++ policy.headers }

end CorsPolicy

end Horarium
