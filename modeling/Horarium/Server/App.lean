/-
Module: Horarium.Server.App
Purpose: The service as a whole: a registry over a store and the local engine, the event queue, and
  the listener that works it off.
Trusted boundary: human-reviewed definitions; limits on the size of bodies are the server's and are
  not told here
Main exports: App, App.pageResponse, App.tenantResponse, App.perform, App.serve, App.dispatch,
  App.respond
-/
import Horarium.Config.Basic
import Horarium.Engine.Local
import Horarium.Queue.Listener
import Horarium.Queue.Memory
import Horarium.Http.Cors
import Horarium.Server.Action
import Horarium.Store.Memory
import Horarium.Store.Database

namespace Horarium

/-- Which store the service is started with. -/
inductive StoreChoice where
  | auto
  | memory
  | database
deriving DecidableEq, Repr

namespace StoreChoice

/-- The choice with this name. -/
def named? (name : String) : Option StoreChoice :=
  match name with
  | "auto" => some .auto
  | "memory" => some .memory
  | "postgres" => some .database
  | _ => none

/-- Whether the database is used: where it is asked for, or configured and nothing is asked for. -/
def usesDatabase (config : Config) : StoreChoice → Bool
  | .database => true
  | .memory => false
  | .auto => config.database.isConfigured

end StoreChoice

/-- The running service. -/
structure App (σ : Type) where
  world : World σ LocalEngine
  queue : MemoryQueue
  storeName : String
  listening : Bool

namespace App

/-- The version that the service shows. -/
def version : String := "0.1.0"

/-- The service over a store, before its first request. -/
def ofStore {σ : Type} (store : σ) (storeName : String) (sources : Sources)
    (queue : MemoryQueue := .empty) : App σ :=
  ⟨⟨store, .empty, sources⟩, queue, storeName, false⟩

/-- The service as it is started. The store in memory is always at hand; the database is not. -/
def build (config : Config) (choice : StoreChoice) (sources : Sources)
    (queue : MemoryQueue := .empty) : Except StoreError (App MemoryStore) :=
  if choice.usesDatabase config then .error (DetachedStore.connect config.database.sslMode)
  else .ok (ofStore .empty "memory" sources queue)

variable {σ : Type} [TimerStore σ]

/-- An operation of the registry. -/
def operate {δ α : Type} (app : App σ) (procedure : Procedure δ α) : Except δ α × App σ :=
  let (outcome, world) := app.world.run procedure
  (outcome, { app with world })

/-- Registers the jobs of all stored timers. -/
def rebuild (app : App σ) : Except RegistryError Nat × App σ := app.operate Registry.rebuildAll

/-- Starts the listener, unless it runs already, and tells whether it did. -/
def spawnListener (app : App σ) : Bool × App σ := (!app.listening, { app with listening := true })

/-- Drops all jobs of the engine. -/
def shutdown (app : App σ) : App σ :=
  { app with world := { app.world with engine := app.world.engine.shutdown } }

/-- Batches of the listener until the queue is empty, at most `budget` of them. -/
def drainWithin (batchSize : Nat) (retry : RetrySettings) : Nat → App σ → App σ
  | 0, app => app
  | budget + 1, app =>
    if app.queue.ready.isEmpty then app
    else
      let (_, queue, world) :=
        Listener.processBatch Listener.registryHandler batchSize retry app.queue app.world
      drainWithin batchSize retry budget { app with queue, world }

/-- The listener at work until the queue is empty. A message is delivered at most as often as it may
be tried, and at least once, which bounds the batches. -/
def drain (batchSize : Nat) (retry : RetrySettings) (app : App σ) : App σ :=
  drainWithin batchSize retry (app.queue.ready.length * max 1 retry.attempts) app

/-- How the service is doing. -/
def healthJson (app : App σ) : Json :=
  .object [("status", .text "ok"), ("version", .text version), ("store", .text app.storeName),
    ("scheduled_jobs", .number app.world.engine.jobs.length),
    ("queue", .text app.queue.health.toText)]

/-- How a failure of the registry is told to the caller. -/
def failure (ctx : Context) (e : RegistryError) : HttpResponse :=
  let message := if e.isTableMissing then s!"tenant {ctx.tenant} is not provisioned" else e.message
  .ofJson e.status (Rejection.errorJson message)

/-- The response to an operation of the registry. -/
def respondTo {α : Type} (app : App σ) (ctx : Context) (operation : Registry.Operation α)
    (success : α → HttpResponse) : HttpResponse × App σ :=
  let (outcome, app) := app.operate operation
  match outcome with
  | .ok a => (success a, app)
  | .error e => (failure ctx e, app)

/-- The response to a listing. -/
def pageResponse (page : Page) : HttpResponse :=
  .ofJson 200 (.object [("timers", .array (page.items.map TimerRecord.toJson)),
    ("totalRecords", .number page.total)])

/-- The response that tells how many things of a tenant were touched. -/
def tenantResponse (status : Nat) (ctx : Context) (key : String) (count : Nat) : HttpResponse :=
  .ofJson status (.object [("tenant", .text ctx.tenant), (key, .number count)])

/-- What the service does. -/
def perform (action : Action) (app : App σ) : HttpResponse × App σ :=
  match action with
  | .health => (.ofJson 200 app.healthJson, app)
  | .listTimers ctx offset limit => app.respondTo ctx (Registry.page ctx offset limit) pageResponse
  | .createTimer ctx record =>
    app.respondTo ctx (Registry.create ctx record) fun saved => .ofJson 201 saved.toJson
  | .findTimer ctx id =>
    app.respondTo ctx (Registry.findById ctx id) fun record => .ofJson 200 record.toJson
  | .updateTimer ctx id record =>
    app.respondTo ctx (Registry.update ctx id record) fun saved => .ofJson 200 saved.toJson
  | .deleteTimer ctx id => app.respondTo ctx (Registry.delete ctx id) fun _ => .ofStatus 204
  | .initTenant ctx =>
    app.respondTo ctx (Registry.initTenant ctx) (tenantResponse 201 ctx "registeredTriggers")
  | .clearTenant ctx =>
    app.respondTo ctx (Registry.deleteAll ctx) (tenantResponse 200 ctx "deletedTimers")
  | .publish event =>
    let (id, queue) := app.queue.publish event.body
    (.ofJson 202 (.object [("messageId", .text id)]), { app with queue })

/-- The response to a request by a method of its route. -/
def serve (route : Route) (verb : Verb) (request : HttpRequest) (app : App σ) :
    HttpResponse × App σ :=
  match Action.ofRequest route verb request with
  | .error rejection => (rejection.response, app)
  | .ok action => app.perform action

/-- The response to a request that is no preflight. The server has read it: a body beyond the
server's limit does not come here. -/
def dispatch (request : HttpRequest) (app : App σ) : HttpResponse × App σ :=
  match Route.ofPath? request.path with
  | none => (.ofStatus 404, app)
  | some route => match route.admitted? request.method with
    | none => ((HttpResponse.ofStatus 405).withHeader "allow" route.allow, app)
    | some verb => app.serve route verb request

/-- The answer to a preflight, which lists the methods of the path where the service knows it. -/
def preflight (policy : CorsPolicy) (request : HttpRequest) : HttpResponse :=
  match Route.ofPath? request.path with
  | none => policy.preflight
  | some route => policy.preflight.withHeader "allow" route.allow

/-- The response to a request under a policy. -/
def respond (policy : CorsPolicy) (request : HttpRequest) (app : App σ) : HttpResponse × App σ :=
  if request.method == "OPTIONS" then (preflight policy request, app)
  else
    let (response, app) := app.dispatch request
    (policy.attach response, app)

end App

end Horarium
