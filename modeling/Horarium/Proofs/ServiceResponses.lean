/-
Module: Horarium.Proofs.ServiceResponses
Purpose: What the service in one process answers, over every sequence of requests, batches and
  restarts from an empty store. The world stays fit whatever is asked, so no failure is one of the
  service itself, and the listener returns a message only while the tenant of its event has no
  table.
Trusted boundary: none; requests are those whose bodies the server takes
Main exports: World.Unprovisioned, App.Reachable, App.Fit, App.Dependable, App.Reachable.dependable
-/
import Horarium.Proofs.BoundedRedelivery
import Horarium.Proofs.ExpectedErrors

namespace Horarium

/-- A call of the registry. -/
inductive Registry.Call where
  | create (ctx : Context) (input : TimerRecord)
  | update (ctx : Context) (id : Uuid) (input : TimerRecord)
  | delete (ctx : Context) (id : Uuid)
  | deleteAll (ctx : Context)
  | switchModule (ctx : Context) (moduleName : String) (enable : Bool)
  | findById (ctx : Context) (id : Uuid)
  | findByModuleAndKind (ctx : Context) (moduleName : String) (kind : TimerKind)
  | page (ctx : Context) (offset limit : Nat)
  | initTenant (ctx : Context)
  | rebuildAll

namespace Registry.Call

/-- What a call answers. -/
abbrev Result : Call → Type
  | create _ _ | update _ _ _ | findById _ _ => TimerRecord
  | delete _ _ => PUnit
  | deleteAll _ | switchModule _ _ _ | initTenant _ | rebuildAll => Nat
  | findByModuleAndKind _ _ _ => List TimerRecord
  | page _ _ _ => Page

/-- What a call does. -/
def operation : (call : Call) → Operation call.Result
  | create ctx input => Registry.create ctx input
  | update ctx id input => Registry.update ctx id input
  | delete ctx id => Registry.delete ctx id
  | deleteAll ctx => Registry.deleteAll ctx
  | switchModule ctx moduleName enable => Registry.switchModule ctx moduleName enable
  | findById ctx id => Registry.findById ctx id
  | findByModuleAndKind ctx moduleName kind => Registry.findByModuleAndKind ctx moduleName kind
  | page ctx offset limit => Registry.page ctx offset limit
  | initTenant ctx => Registry.initTenant ctx
  | rebuildAll => Registry.rebuildAll

theorem failsOnly {absent : String → Prop} (call : Call) :
    call.operation.FailsOnly absent (RegistryError.IsExpected absent) := by
  cases call with
  | create ctx input => exact create_failsOnly id input
  | update ctx id' input => exact update_failsOnly id id' input
  | delete ctx id' => exact delete_failsOnly id id'
  | deleteAll ctx => exact deleteAll_failsOnly id
  | switchModule ctx moduleName enable => exact switchModule_failsOnly id moduleName enable
  | findById ctx id' => exact findById_failsOnly id id'
  | findByModuleAndKind ctx moduleName kind => exact ask_own_failsOnly id rfl rfl
  | page ctx offset limit => exact ask_own_failsOnly id rfl rfl
  | initTenant ctx => exact initTenant_failsOnly id
  | rebuildAll => exact rebuildAll_failsOnly fun _ => id

end Registry.Call

/-- The tenant has no table. -/
def World.Unprovisioned {ε : Type} (world : World MemoryStore ε) (tenant : String) : Prop :=
  world.store.table? tenant = none

section Fit

variable {ε : Type} [SteadyEngine ε] {absent : String → Prop} {world : World MemoryStore ε}

/-- In a fit world, the tables that are missing are those that are not there. -/
theorem World.Fit.exact (fit : world.Fit absent) : world.Fit world.Unprovisioned :=
  ⟨⟨fit.checked.tables, id⟩, fit.steady⟩

/-- An event that may be tried again is one of a tenant that has no table. -/
theorem Sync.tableMissing_of_retryable (fit : world.Fit absent) {event : TimerEvent} {e : SyncError}
    (failed : (world.run (apply event)).1 = .error e) (passing : e.isRetryable = true) :
    world.Unprovisioned event.tenant ∧ e = .registry (.store (.tableMissing event.tenant)) := by
  have only : (apply event).FailsOnly world.Unprovisioned
      (SyncError.IsExpected fun tenant => tenant = event.tenant ∧ world.Unprovisioned tenant) :=
    apply_failsOnly fun gone => ⟨rfl, gone⟩
  obtain ⟨tenant, ⟨rfl, gone⟩, same⟩ :=
    ((only.run fit.exact).1 e failed).tableMissing_of_retryable passing
  exact ⟨gone, same⟩

namespace Listener

variable {retry : RetrySettings} {message : Message} {messages : List Message}

/-- Handling a message leaves a fit world fit. -/
theorem fit_handle (fit : world.Fit absent) :
    (handle registryHandler retry message world).2.Fit absent := by
  unfold handle
  cases TimerEvent.parse message.body with
  | error e => exact fit
  | ok event => exact ((Sync.apply_failsOnly id).run fit).2

/-- Every message of a batch is handled in a fit world. -/
theorem fit_of_mem_faced (fit : world.Fit absent) :
    ∀ meeting ∈ faced registryHandler retry messages world,
    meeting.2.Fit absent := by
  induction messages generalizing world with
  | nil => simp [faced]
  | cons first rest ih =>
    rw [faced, List.forall_mem_cons]
    exact ⟨fit, ih (fit_handle fit)⟩

theorem fit_handledAll (fit : world.Fit absent) :
    (handledAll registryHandler retry messages world).Fit absent := by
  induction messages generalizing world with
  | nil => exact fit
  | cons first rest ih => exact ih (fit_handle fit)

/-- In a fit world only a message goes back whose event is one of a tenant without a table. -/
theorem tableMissing_of_handle (fit : world.Fit absent)
    (back : (handle registryHandler retry message world).1 = true) :
    ∃ event, TimerEvent.parse message.body = .ok event ∧ world.Unprovisioned event.tenant
      ∧ (world.run (Sync.apply event)).1 = .error
        (.registry (.store (.tableMissing event.tenant))) := by
  obtain ⟨event, e, spelt, failed, passing, _⟩ := handle_iff.mp back
  obtain ⟨gone, rfl⟩ := Sync.tableMissing_of_retryable fit failed passing
  exact ⟨event, spelt, gone, failed⟩

end Listener

end Fit

namespace App

/-- The service after a batch of its listener. -/
def work (batchSize : Nat) (retry : RetrySettings) (app : App MemoryStore) : App MemoryStore :=
  let (_, queue, world) :=
    Listener.processBatch Listener.registryHandler batchSize retry app.queue app.world
  { app with queue, world }

/-- The states that the service reaches from an empty store: it answers requests, finds messages of
any kind in its queue, and works them off. Between two of its acts the time may pass, its jobs may
be registered anew, and it may be stopped; nothing is assumed of the clock and of the new ids. -/
inductive Reachable : App MemoryStore → Prop where
  | start (storeName : String) (sources : Sources) (ids receipts : NameSource) :
      Reachable (ofStore .empty storeName sources (.empty ids receipts))
  | respond {app : App MemoryStore} (before : Reachable app) (policy : CorsPolicy)
      (request : HttpRequest) : Reachable (app.respond policy request).2
  | publish {app : App MemoryStore} (before : Reachable app) (body : String) :
      Reachable { app with queue := (app.queue.publish body).2 }
  | work {app : App MemoryStore} (before : Reachable app) (batchSize : Nat)
      (retry : RetrySettings) : Reachable (app.work batchSize retry)
  | rebuild {app : App MemoryStore} (before : Reachable app) : Reachable app.rebuild.2
  | pass {app : App MemoryStore} (before : Reachable app) (millis : Nat) (sources : Sources) :
      Reachable { app with
        world := ⟨app.world.store, (app.world.engine.advance millis).2, sources⟩ }
  | shutdown {app : App MemoryStore} (before : Reachable app) : Reachable app.shutdown

/-- The service's world is fit, and between two batches nothing is in flight. -/
structure Fit (app : App MemoryStore) : Prop where
  world : app.world.Fit fun _ => True
  rested : app.queue.inFlight = []

variable {app : App MemoryStore}

/-- Carrying out an operation tells the caller its value, or an expected failure. -/
theorem Fit.respondTo {α : Type} {ctx : Context} {operation : Registry.Operation α}
    {success : α → HttpResponse} (fit : app.Fit)
    (only : operation.FailsOnly (fun _ => True) (RegistryError.IsExpected fun _ => True))
    (succeeds : ∀ a, (success a).status < 500) :
    (app.respondTo ctx operation success).1.status < 500 ∧
    (app.respondTo ctx operation success).2.Fit := by
  obtain ⟨expected, after⟩ := only.run fit.world
  unfold App.respondTo operate
  cases outcome : (app.world.run operation).1 with
  | ok a =>
    exact ⟨by simpa [outcome] using succeeds a, by simpa [outcome] using ⟨after, fit.rested⟩⟩
  | error e =>
    refine ⟨?_, by simpa [outcome] using ⟨after, fit.rested⟩⟩
    simpa [outcome, failure, HttpResponse.ofJson] using (expected e outcome).status_lt

theorem Fit.perform (fit : app.Fit) (action : Action) :
    (app.perform action).1.status < 500 ∧ (app.perform action).2.Fit := by
  have small : ∀ {status : Nat} {content : Json}, status < 500 →
      (HttpResponse.ofJson status content).status < 500 :=
    fun below => below
  cases action with
  | health => exact ⟨small (by decide), fit⟩
  | listTimers ctx offset limit =>
    exact fit.respondTo (Registry.Call.failsOnly (.page ctx offset limit)) fun _ =>
      small (by decide)
  | createTimer ctx record =>
    exact fit.respondTo (Registry.Call.failsOnly (.create ctx record)) fun _ => small (by decide)
  | findTimer ctx id =>
    exact fit.respondTo (Registry.Call.failsOnly (.findById ctx id)) fun _ => small (by decide)
  | updateTimer ctx id record =>
    exact fit.respondTo (Registry.Call.failsOnly (.update ctx id record)) fun _ => small (by decide)
  | deleteTimer ctx id =>
    exact fit.respondTo (Registry.Call.failsOnly (.delete ctx id)) fun _ => by decide
  | initTenant ctx =>
    exact fit.respondTo (Registry.Call.failsOnly (.initTenant ctx)) fun _ => small (by decide)
  | clearTenant ctx =>
    exact fit.respondTo (Registry.Call.failsOnly (.deleteAll ctx)) fun _ => small (by decide)
  | publish event => exact ⟨small (by decide), fit.world, fit.rested⟩

/-- A request that is turned away is turned away for what it says. -/
theorem status_lt_of_rejection (rejection : Rejection) : rejection.response.status < 500 := by
  cases rejection <;> simp [Rejection.response, HttpResponse.ofJson, HttpResponse.ofText]

theorem Fit.dispatch (fit : app.Fit) (request : HttpRequest) :
    (app.dispatch request).1.status < 500 ∧ (app.dispatch request).2.Fit := by
  unfold App.dispatch
  split
  · exact ⟨by simp [HttpResponse.ofStatus], fit⟩
  · split
    · exact ⟨by simp [HttpResponse.withHeader, HttpResponse.ofStatus], fit⟩
    · unfold App.serve
      split
      next rejection _ => exact ⟨status_lt_of_rejection rejection, fit⟩
      next action _ => exact fit.perform action

/-- Every request is answered, and not with a failure of the service. -/
theorem Fit.respond (fit : app.Fit) (policy : CorsPolicy) (request : HttpRequest) :
    (app.respond policy request).1.status < 500 ∧ (app.respond policy request).2.Fit := by
  unfold App.respond
  split
  · refine ⟨?_, fit⟩
    unfold preflight
    split <;> simp [CorsPolicy.preflight, HttpResponse.withHeader]
  · exact fit.dispatch request

theorem Fit.work (fit : app.Fit) (batchSize : Nat) (retry : RetrySettings) :
    (app.work batchSize retry).Fit := by
  unfold App.work
  simp only [Listener.processBatch_rested fit.rested]
  exact ⟨Listener.fit_handledAll fit.world, fit.rested⟩

theorem Reachable.fit (reachable : Reachable app) : app.Fit := by
  induction reachable with
  | start storeName sources ids receipts =>
    refine ⟨⟨⟨?_, fun _ => trivial⟩, SteadyEngine.steady_initial⟩, rfl⟩
    intro tenant table held
    cases held
  | respond _ policy request ih => exact (ih.respond policy request).2
  | publish _ body ih => exact ⟨ih.world, ih.rested⟩
  | work _ batchSize retry ih => exact ih.work batchSize retry
  | rebuild _ ih => exact ⟨((Registry.Call.failsOnly .rebuildAll).run ih.world).2, ih.rested⟩
  | pass _ millis sources ih => exact ⟨⟨ih.world.checked, ih.world.steady⟩, ih.rested⟩
  | shutdown _ ih => exact ⟨⟨ih.world.checked, List.nodup_nil⟩, ih.rested⟩

/-- Nothing goes wrong within the service: what fails lies in what was asked for or in what is
stored. -/
structure Dependable (app : App MemoryStore) : Prop where
  /-- No response tells of a failure of the service. -/
  responds : ∀ policy request, (app.respond policy request).1.status < 500
  /-- A call of the registry fails only for an expected reason: a table is missing only where there
  is none. -/
  answers :
    ∀ (call : Registry.Call) {e : RegistryError}, (app.world.run call.operation).1 = .error e →
    e.IsExpected app.world.Unprovisioned
  /-- So does every event that the next batch carries out, in the world in which it does. -/
  carries : ∀ batchSize retry message world,
    (message, world) ∈ Listener.faced Listener.registryHandler retry
      (app.queue.poll batchSize).1 app.world →
      ∀ event e, TimerEvent.parse message.body = .ok event →
        (world.run (Sync.apply event)).1 = .error e → e.IsExpected world.Unprovisioned
  /-- A message of it goes back only because the tenant of its event has no table. -/
  returns : ∀ batchSize retry message world,
    (message, world) ∈ Listener.faced Listener.registryHandler retry
      (app.queue.poll batchSize).1 app.world →
      (Listener.handle Listener.registryHandler retry message world).1 = true →
        ∃ event, TimerEvent.parse message.body = .ok event ∧ world.Unprovisioned event.tenant
          ∧ (world.run (Sync.apply event)).1 =
            .error (.registry (.store (.tableMissing event.tenant)))

/-- In every state that the service reaches it can be depended on. -/
theorem Reachable.dependable (reachable : Reachable app) : app.Dependable where
  responds policy request := (reachable.fit.respond policy request).1
  answers call _ failed := (call.failsOnly.run reachable.fit.world.exact).1 _ failed
  carries _ _ _ _ met _ _ _ failed :=
    have fit := (Listener.fit_of_mem_faced reachable.fit.world _ met).exact
    ((Sync.apply_failsOnly id).run fit).1 _ failed
  returns _ _ _ _ met back := Listener.tableMissing_of_handle
    (Listener.fit_of_mem_faced reachable.fit.world _ met) back

/-- A service that was asked to install a module for a tenant without a table, and has tried
once. -/
def waiting : App MemoryStore :=
  let event : TimerEvent := .moduleResource ⟨.create, "north",
    some ⟨"mod-1.0.0", [⟨["POST"], none, some "/run", some ⟨"1", .minute⟩, none⟩]⟩, none⟩
  let started := ofStore MemoryStore.empty "memory" ⟨fun _ => default, Uuid.ofBits, 0, 0⟩
  (started.respond .any ⟨"POST", "/events", "", [("content-type", "application/json")],
    event.body⟩).2.work 10 ⟨3, 0⟩

/-- The message has gone back to the queue, and there is nothing wrong with the service. -/
theorem waiting_dependable :
    Reachable waiting ∧ waiting.queue.ready.map (·.attempts) = [1] ∧ waiting.Dependable := by
  have reachable : Reachable waiting := ((Reachable.start _ _ _ _).respond _ _).work _ _
  exact ⟨reachable, by decide +kernel, reachable.dependable⟩

end App

end Horarium
