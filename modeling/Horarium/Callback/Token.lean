/-
Module: Horarium.Callback.Token
Purpose: The token that a callback carries. It is fixed, or none at all, or a service issues one for
  the tenant and the user on whose behalf the timer fires.
Trusted boundary: human-reviewed definitions; the network is a parameter
Main exports: TokenError, TokenError.message, TokenSource, TokenSource.request,
  TokenSource.ofAnswer, TokenSource.token
-/
import Horarium.Http.Outbound
import Horarium.Json.Reader
import Horarium.Timer.Codec

namespace Horarium

/-- Why there is no token. -/
inductive TokenError where
  | unreachable
  | rejected (status : Nat)
  | missing
deriving DecidableEq, Repr

/-- The wording of the reason. -/
def TokenError.message : TokenError → String
  | .unreachable => "token request failed"
  | .rejected status => s!"token service returned {status}"
  | .missing => "token service response has no token"

/-- Where tokens come from: settings, or the service at an address. -/
inductive TokenSource where
  | fixed (token : Option String)
  | service (url : String)
deriving DecidableEq, Repr

namespace TokenSource

/-- The request for a token. -/
def request (url tenant : String) (user : Option Uuid) : OutboundRequest where
  method := .post
  url := url
  headers := [("x-tenant", tenant), ("content-type", "application/json")]
  body := (Json.object (("tenant", .text tenant) :: Json.member? "userId" Uuid.toJson user)).render

/-- Reads a service's answer. -/
def answerReader : Json.Reader (Option String) :=
  .record [Json.field "token" .optional (.optional .text) fun token _ => token] none

/-- The token in the answer of a service. An answer that cannot be read is no answer; an empty token
is none. -/
def ofAnswer (answer : Option InboundResponse) : Except TokenError (Option String) :=
  match answer with
  | none => .error .unreachable
  | some response =>
    if !response.isSuccess then .error (.rejected response.status)
    else match answerReader.run response.body with
      | .error _ => .error .unreachable
      | .ok token => match token.filter (!·.isEmpty) with
        | none => .error .missing
        | some token => .ok (some token)

/-- The token for a tenant and a user, and the exchanges on the network; no token means that the
call is made without one. -/
def token (source : TokenSource) (network : Network) (tenant : String) (user : Option Uuid) :
    Except TokenError (Option String) × List Exchange :=
  match source with
  | .fixed token => (.ok token, [])
  | .service url =>
    let (answer, exchanges) := (request url tenant user).send network
    (ofAnswer answer, exchanges)

end TokenSource

end Horarium
