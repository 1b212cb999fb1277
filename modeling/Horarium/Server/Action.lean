/-
Module: Horarium.Server.Action
Purpose: What a request asks the service to do. Requests are decoded in a fixed order: first the
  headers that say for whom, then path or query, then the body. The first thing that is wrong is
  what the caller is told.
Trusted boundary: human-reviewed definitions; limits on the size of bodies are the server's and are
  not told here
Main exports: Rejection, Rejection.errorJson, Rejection.response, Action, Action.ofTimerRequest,
  Action.ofTimersRequest, Action.ofRequest
-/
import Horarium.Context
import Horarium.Event
import Horarium.Http.Query
import Horarium.Registry.Error
import Horarium.Server.Route

namespace Horarium

/-- Why a request is turned away before anything is done. -/
inductive Rejection where
  | noTenant
  | tenant (cause : InputError)
  | user (given : String)
  | timerId
  | query
  | mediaType
  | syntaxError
  | shape
deriving DecidableEq, Repr

namespace Rejection

/-- An error as it is told to callers. -/
def errorJson (message : String) : Json := .object [("error", .text message)]

/-- The response to a request that is turned away. -/
def response : Rejection → HttpResponse
  | .noTenant => .ofJson 400 (errorJson "missing x-tenant header")
  | .tenant cause => .ofJson 400 (errorJson cause.message)
  | .user given => .ofJson 400 (errorJson s!"invalid x-user-id header: {given}")
  | .timerId => .ofText 400 "Invalid URL"
  | .query => .ofText 400 "Failed to deserialize query string"
  | .mediaType => .ofText 415 "Expected request with \u0060Content-Type: application/json\u0060"
  | .syntaxError => .ofText 400 "Failed to parse the request body as JSON"
  | .shape => .ofText 422 "Failed to deserialize the JSON body into the target type"

end Rejection

/-- What the service is asked to do. -/
inductive Action where
  | health
  | listTimers (ctx : Context) (offset limit : Nat)
  | createTimer (ctx : Context) (record : TimerRecord)
  | findTimer (ctx : Context) (id : Uuid)
  | updateTimer (ctx : Context) (id : Uuid) (record : TimerRecord)
  | deleteTimer (ctx : Context) (id : Uuid)
  | initTenant (ctx : Context)
  | clearTenant (ctx : Context)
  | publish (event : TimerEvent)
deriving DecidableEq

namespace HttpRequest

/-- For whom something is asked. A blank header counts as absent, and the user may be absent. -/
def context (r : HttpRequest) : Except Rejection Context :=
  match r.field? "x-tenant" with
  | none => .error .noTenant
  | some tenant => match Context.ofTenant tenant with
    | .error cause => .error (.tenant cause)
    | .ok ctx =>
      let ctx := match r.field? "x-request-id" with
        | some request => ctx.withRequest request
        | none => ctx
      match r.field? "x-user-id" with
      | none => .ok ctx
      | some given => match Uuid.parse? given with
        | none => .error (.user given)
        | some user => .ok (ctx.withUser (some user))

/-- A number in the query, or a default where there is none. A name must not be given twice. -/
def queryNumber (r : HttpRequest) (name : String) (absent : Nat) : Except Rejection Nat :=
  match Query.values r.query name with
  | [] => .ok absent
  | [some value] => match Text.readNat? Text.max64 value.toList with
    | some n => .ok n
    | none => .error .query
  | _ => .error .query

/-- The body as a value of a type. A body that is longer than the server takes (two MiB unless it is
told otherwise) is turned away with status 413 before it is decoded; requests here are those that it
lets through. -/
def decode {α : Type} (reader : Json.Reader α) (r : HttpRequest) : Except Rejection α :=
  if r.hasJsonBody then
    match reader.run r.body with
    | .ok a => .ok a
    | .error .malformed => .error .syntaxError
    | .error .mismatch => .error .shape
  else .error .mediaType

end HttpRequest

namespace Action

/-- How many timers a listing shows where the request does not say. -/
def defaultLimit : Nat := 10

/-- The id that a path names. -/
def timerId (sent : String) : Except Rejection Uuid :=
  match (Text.percentDecode? sent.toList).bind Uuid.parse? with
  | some id => .ok id
  | none => .error .timerId

/-- What a request for a timer asks for. -/
def ofTimerRequest (id : String) (verb : Verb) (r : HttpRequest) : Except Rejection Action := do
  let ctx ← r.context
  let id ← timerId id
  match verb with
  | .put => return .updateTimer ctx id (← r.decode TimerRecord.reader)
  | .delete => return .deleteTimer ctx id
  | _ => return .findTimer ctx id

/-- What a request for the timers asks for. -/
def ofTimersRequest (verb : Verb) (r : HttpRequest) : Except Rejection Action := do
  let ctx ← r.context
  match verb with
  | .post => return .createTimer ctx (← r.decode TimerRecord.reader)
  | _ =>
    let offset ← r.queryNumber "offset" 0
    let limit ← r.queryNumber "limit" defaultLimit
    return .listTimers ctx offset limit

/-- What a request asks for that came to a route by a method of the route. -/
def ofRequest (route : Route) (verb : Verb) (r : HttpRequest) : Except Rejection Action :=
  match route with
  | .health => .ok .health
  | .timers => ofTimersRequest verb r
  | .timer id => ofTimerRequest id verb r
  | .tenant => do
    let ctx ← r.context
    return if verb = .post then .initTenant ctx else .clearTenant ctx
  | .events => return .publish (← r.decode TimerEvent.reader)

end Action

end Horarium
