/-
Module: Horarium.Server.Route
Purpose: The paths that the service knows, and the methods that each of them allows. Paths are
  compared as they are sent, with their case and their slashes.
Trusted boundary: human-reviewed definitions
Main exports: Route, Verb, Route.ofPath?, Route.allow, Route.admitted?
-/
import Horarium.Http.Request

namespace Horarium

/-- A path of the service. The id of a timer is kept as it was sent. -/
inductive Route where
  | health
  | timers
  | timer (id : String)
  | tenant
  | events
deriving DecidableEq, Repr

/-- A method that some path allows. -/
inductive Verb where
  | get
  | post
  | put
  | delete
deriving DecidableEq, Repr

namespace Route

/-- The route of a path. -/
def ofPath? (path : String) : Option Route :=
  match Text.splitOn '/' path.toList with
  | [[], ['h', 'e', 'a', 'l', 't', 'h']] => some .health
  | [[], ['t', 'e', 'n', 'a', 'n', 't']] => some .tenant
  | [[], ['e', 'v', 'e', 'n', 't', 's']] => some .events
  | [[], first, second] =>
    if first == "scheduler".toList && second == "timers".toList then some .timers else none
  | [[], first, second, id] =>
    if first == "scheduler".toList && second == "timers".toList && !id.isEmpty then
      some (.timer (String.ofList id))
    else none
  | _ => none

/-- The methods of a route. -/
def verbs : Route → List Verb
  | .health => [.get]
  | .timers => [.get, .post]
  | .timer _ => [.get, .put, .delete]
  | .tenant => [.post, .delete]
  | .events => [.post]

/-- How a method is named where the methods of a route are listed. What answers `GET` answers
`HEAD`. -/
def listed : Verb → String
  | .get => "GET,HEAD"
  | .post => "POST"
  | .put => "PUT"
  | .delete => "DELETE"

/-- The list of the methods of a route. -/
def allow (route : Route) : String := ",".intercalate (route.verbs.map listed)

/-- The method that a text names. -/
def verb? (method : String) : Option Verb :=
  match method with
  | "GET" | "HEAD" => some .get
  | "POST" => some .post
  | "PUT" => some .put
  | "DELETE" => some .delete
  | _ => none

/-- The method by which a request comes to the route, if the route allows it. -/
def admitted? (route : Route) (method : String) : Option Verb :=
  (verb? method).filter fun verb => route.verbs.contains verb

end Route

end Horarium
