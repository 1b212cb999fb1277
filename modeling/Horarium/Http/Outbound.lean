/-
Module: Horarium.Http.Outbound
Purpose: Requests to other services, and the network that carries them. A request whose address or
  header values cannot be sent never reaches the network.
Trusted boundary: the network with its client is a parameter; how a client follows redirections is
  left to it
Main exports: OutboundRequest, InboundResponse, InboundResponse.isSuccess, Network,
  OutboundRequest.header?, Exchange, OutboundRequest.send
-/
import Horarium.Http.Method
import Horarium.Http.Url
import Horarium.Json.Value

namespace Horarium

/-- A request to another service. -/
structure OutboundRequest where
  method : HttpMethod
  url : String
  headers : List (String × String)
  body : String
deriving DecidableEq, Repr

/-- What another service answers. -/
structure InboundResponse where
  status : Nat
  body : String
deriving DecidableEq, Repr

namespace InboundResponse

/-- Whether the service did what it was asked. -/
def isSuccess (response : InboundResponse) : Bool := 200 ≤ response.status && response.status < 300

end InboundResponse

/-- The network together with the client that sends on it: the answer to a request, or none where it
does not get through. A client that is redirected follows on its own, up to a limit of its own; the
answer is the one that it comes back with. -/
abbrev Network : Type := OutboundRequest → Option InboundResponse

namespace OutboundRequest

/-- Whether a text can be the value of a header: it holds no control character but the tab. -/
def isHeaderValue (value : String) : Bool :=
  value.toList.all fun c => (32 ≤ c.toNat && c.toNat != 127) || c == '\t'

/-- Whether the request can be sent. -/
def isSendable (request : OutboundRequest) : Bool :=
  (Url.parse? request.url).isSome && request.headers.all fun (_, value) => isHeaderValue value

/-- The value of a header. -/
def header? (request : OutboundRequest) (name : String) : Option String :=
  request.headers.lookup name

end OutboundRequest

/-- A request that was put on the network, and what came back. The requests that a client makes
because it was redirected are not told apart from the one that it was given. -/
structure Exchange where
  request : OutboundRequest
  response : Option InboundResponse
deriving DecidableEq, Repr

/-- The answer to a request, and the exchange if there was one. -/
def OutboundRequest.send (request : OutboundRequest) (network : Network) :
    Option InboundResponse × List Exchange :=
  if request.isSendable then
    let response := network request
    (response, [⟨request, response⟩])
  else (none, [])

end Horarium
