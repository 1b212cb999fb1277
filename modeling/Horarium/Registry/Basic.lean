/-
Module: Horarium.Registry.Basic
Purpose: The timer registry. Every write goes to the store first and then brings the engine in line.
  The store has the last word: where the engine fails, the record stays as it was written and the
  caller is told.
Trusted boundary: human-reviewed definitions
Main exports: Registry.Operation, Registry.ask, Registry.reconcile, Registry.create,
  Registry.update, Registry.delete, Registry.switchModule
-/
import Horarium.Reconcile
import Horarium.Registry.Prepare

namespace Horarium.Registry

/-- A procedure of the registry. -/
abbrev Operation (α : Type) : Type := Procedure RegistryError α

/-- One request to the store. -/
def ask (request : StoreRequest) : Operation request.Result := Procedure.store .store request

/-- A step that brings the engine in line. -/
def reconcile {α : Type} (step : Procedure TriggerError α) : Operation α := step.mapError .ofTrigger

/-- Stores the next version of a record and moves the engine to it. Creation date and creator stay
those of the version before. -/
def applyUpdate (ctx : Context) (existing input : TimerRecord) : Operation TimerRecord := do
  let created := existing.metadata.getD default
  let now ← Procedure.now
  let record := { input with metadata := some {
    createdDate := created.createdDate, createdBy := created.createdBy,
    updatedDate := some now, updatedBy := ctx.user } }
  let saved ← ask (.save ctx.tenant record)
  reconcile (Reconcile.reschedule ctx existing saved)
  return saved

/-- Stores a record that is new, under its id or a new one, and registers its job. -/
def insert (ctx : Context) (input : TimerRecord) : Operation TimerRecord := do
  let now ← Procedure.now
  let id ← match input.id with
    | some id => pure id
    | none => Procedure.newId
  let record := { input with id := some id, metadata := some {
    createdDate := some now, createdBy := ctx.user, updatedDate := some now,
      updatedBy := ctx.user } }
  let saved ← ask (.save ctx.tenant record)
  let _ ← reconcile (Reconcile.schedule ctx saved)
  return saved

/-- Fails if a record is stored under the id. -/
def refuseTaken (ctx : Context) : Option Uuid → Operation PUnit
  | none => .done ⟨⟩
  | some id => do
    match ← ask (.findById ctx.tenant id) with
    | some _ => .fail (.alreadyExists id.toText)
    | none => .done ⟨⟩

/-- Creates a timer, or updates the one that has its natural key. -/
def create (ctx : Context) (input : TimerRecord) : Operation TimerRecord := do
  refuseTaken ctx input.id
  let record ← Procedure.ofExcept (fun e => e) input.prepare
  let key ← Procedure.ofExcept .ofInput record.naturalKey
  match ← ask (.findByNaturalKey ctx.tenant key) with
  | none => insert ctx record
  | some existing =>
    match existing.id with
    | none => .fail (.validation .storedWithoutId)
    | some id => applyUpdate ctx existing { record with id := some id }

/-- Replaces the timer stored under an id, which the input has to carry as well. -/
def update (ctx : Context) (id : Uuid) (input : TimerRecord) : Operation TimerRecord :=
  if input.id ≠ some id then .fail (.validation (.idMismatch input.id id))
  else do
    let record ← Procedure.ofExcept (fun e => e) input.prepare
    match ← ask (.findById ctx.tenant id) with
    | none => .fail (.notFound id)
    | some existing => applyUpdate ctx existing record

/-- Deletes a timer and its job. An id that is not stored is no fault. -/
def delete (ctx : Context) (id : Uuid) : Operation PUnit := do
  match ← ask (.findById ctx.tenant id) with
  | none => .done ⟨⟩
  | some existing => do
    let _ ← ask (.delete ctx.tenant id)
    reconcile (Reconcile.unschedule existing)

/-- Deletes records one after the other and answers how many there were. -/
def deleteEach (ctx : Context) : List TimerRecord → Operation Nat
  | [] => .done 0
  | record :: rest =>
    match record.id with
    | none => deleteEach ctx rest
    | some id => do
      delete ctx id
      let others ← deleteEach ctx rest
      return others + 1

/-- Deletes every timer of the tenant and answers how many there were. -/
def deleteAll (ctx : Context) : Operation Nat := do
  let records ← ask (.list ctx.tenant)
  deleteEach ctx records

/-- The record with its flag set, and with who set it and when. -/
def flip (ctx : Context) (now : Instant) (enable : Bool) (record : TimerRecord) : TimerRecord :=
  let metadata := record.metadata.getD default
  { record with
    enabled := enable
    metadata := some { metadata with updatedDate := some now, updatedBy := ctx.user } }

/-- Registers the jobs of records one after the other. -/
def scheduleEach (ctx : Context) : List TimerRecord → Operation PUnit
  | [] => .done ⟨⟩
  | record :: rest => do
    let _ ← reconcile (Reconcile.schedule ctx record)
    scheduleEach ctx rest

/-- Drops the jobs of records one after the other. -/
def unscheduleEach : List TimerRecord → Operation PUnit
  | [] => .done ⟨⟩
  | record :: rest => do
    reconcile (Reconcile.unschedule record)
    unscheduleEach rest

/-- Enables or disables the system timers of a module and answers how many changed. Timers that are
as they should be are left alone. -/
def switchModule (ctx : Context) (moduleName : String) (enable : Bool) : Operation Nat := do
  let found ← ask (.findByModuleAndEnabled ctx.tenant moduleName (!enable))
  let mismatched := found.filter (·.kind == some .system)
  if mismatched.isEmpty then return 0
  else do
    let now ← Procedure.now
    let saved ← ask (.saveAll ctx.tenant (mismatched.map (flip ctx now enable)))
    if enable then scheduleEach ctx saved else unscheduleEach mismatched
    return saved.length

/-- The timer stored under an id. -/
def findById (ctx : Context) (id : Uuid) : Operation TimerRecord := do
  match ← ask (.findById ctx.tenant id) with
  | none => .fail (.notFound id)
  | some record => .done record

/-- The timers of a kind that a module has. -/
def findByModuleAndKind (ctx : Context) (moduleName : String) (kind : TimerKind) :
    Operation (List TimerRecord) :=
  ask (.findByModuleAndKind ctx.tenant moduleName kind)

/-- A page of the tenant's timers. -/
def page (ctx : Context) (offset limit : Nat) : Operation Page :=
  ask (.page ctx.tenant offset limit)

/-- Makes the tenant's table, and registers the jobs of the timers it holds. -/
def initTenant (ctx : Context) : Operation Nat := do
  ask (.provision ctx.tenant)
  let records ← ask (.list ctx.tenant)
  Reconcile.rebuild ctx records

/-- Registers the jobs of tenants one after the other; a name that is no tenant's is passed over. -/
def rebuildTenants : List String → Operation Nat
  | [] => .done 0
  | tenant :: rest =>
    match Context.ofTenant tenant with
    | .error _ => rebuildTenants rest
    | .ok ctx => do
      let records ← ask (.list tenant)
      let here ← Reconcile.rebuild ctx records
      let others ← rebuildTenants rest
      return here + others

/-- Registers the jobs of all tenants, as at the start of the process. -/
def rebuildAll : Operation Nat := do
  let tenants ← ask .tenants
  rebuildTenants tenants

end Horarium.Registry
