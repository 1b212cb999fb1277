/-
Module: Horarium.Sync
Purpose: Carrying out module events on the registry. Only system timers are concerned. A tenant
  without a table is passed over when a module is upgraded or removed and when its use is granted or
  withdrawn; a module that is installed before its tenant has a table fails, so that the event can
  be tried again.
Trusted boundary: human-reviewed definitions
Main exports: SyncError, Sync.Operation, Sync.createTimers, Sync.deleteTimers,
  Sync.skipTableMissing, Sync.update, Sync.resource
-/
import Horarium.Event
import Horarium.Registry.Basic

namespace Horarium

/-- What makes an event one that can never be carried out. -/
inductive EventFault where
  | input (error : InputError)
  | missing (field : String)
  | deleteWithoutValue
deriving DecidableEq, Repr

/-- The wording of a fault. -/
def EventFault.message : EventFault → String
  | .input error => error.message
  | .missing field => s!"{field} is required"
  | .deleteWithoutValue => "module delete without a value"

/-- Why an event was not carried out. -/
inductive SyncError where
  | invalidEvent (fault : EventFault)
  | registry (cause : RegistryError)
deriving DecidableEq

namespace SyncError

/-- The wording of a failure; a failure of the registry keeps its own. -/
def message : SyncError → String
  | .invalidEvent fault => s!"invalid event: {fault.message}"
  | .registry cause => cause.message

/-- Whether the tenant has no table. -/
def isTableMissing : SyncError → Bool
  | .registry cause => cause.isTableMissing
  | .invalidEvent _ => false

/-- Whether the event may succeed when it comes again: not if its content is at fault, but if the
table is missing or store or engine fail. -/
def isRetryable : SyncError → Bool
  | .registry cause => cause.isTableMissing || 500 ≤ cause.status
  | .invalidEvent _ => false

/-- Input that is refused makes the event invalid. -/
def ofInput (error : InputError) : SyncError := .invalidEvent (.input error)

end SyncError

namespace Sync

/-- A procedure that carries out an event. -/
abbrev Operation (α : Type) : Type := Procedure SyncError α

/-- An operation of the registry as a step. -/
def onRegistry {α : Type} (operation : Registry.Operation α) : Operation α :=
  operation.mapError .registry

/-- A value of the event that has to be there. -/
def required (field : String) : Option ModuleTimers → Operation ModuleTimers
  | some value => .done value
  | none => .fail (.invalidEvent (.missing field))

/-- Creates the timers of routing entries one after the other. -/
def createEach (ctx : Context) (moduleId : String) : List RoutingEntry → Operation PUnit
  | [] => .done ⟨⟩
  | entry :: rest => do
    let _ ← onRegistry (Registry.create ctx (TimerRecord.ofModule moduleId entry))
    createEach ctx moduleId rest

/-- Creates the timers of a module and answers how many it declares. -/
def createTimers (ctx : Context) (m : ModuleTimers) : Operation Nat := do
  createEach ctx m.moduleId m.timers
  return m.timers.length

/-- Deletes the system timers of a module and answers how many there were. -/
def deleteTimers (ctx : Context) (moduleName : String) : Operation Nat := onRegistry do
  let existing ← Registry.findByModuleAndKind ctx moduleName .system
  Registry.deleteEach ctx existing

/-- The operation, with nothing changed taken for an answer where the tenant has no table. -/
def skipTableMissing (operation : Operation Nat) : Operation Nat := do
  match ← operation.attempt with
  | .ok n => .done n
  | .error e => if e.isTableMissing then .done 0 else .fail e

/-- A module is upgraded: its timers are deleted under the name it had, then created anew. -/
def update (ctx : Context) (old : Option ModuleTimers) (new : ModuleTimers) : Operation Nat := do
  let name ← Procedure.ofExcept .ofInput (ModuleName.ofId (old.getD new).moduleId)
  match ← (deleteTimers ctx name).attempt with
  | .ok _ => createTimers ctx new
  | .error e => if e.isTableMissing then .done 0 else .fail e

/-- Carries out an event about a module and answers how many timers were created or removed. -/
def resource (event : ResourceEvent) : Operation Nat := do
  let ctx ← Procedure.ofExcept .ofInput (Context.ofTenant event.tenant)
  match event.change with
  | .create => do
    let new ← required "newValue" event.newValue
    createTimers ctx new
  | .update => do
    let new ← required "newValue" event.newValue
    update ctx event.oldValue new
  | .delete =>
    match event.oldValue.or event.newValue with
    | none => .fail (.invalidEvent .deleteWithoutValue)
    | some value => do
      let name ← Procedure.ofExcept .ofInput (ModuleName.ofId value.moduleId)
      skipTableMissing (deleteTimers ctx name)

/-- Carries out an event about the right to use a module and answers how many timers changed. -/
def entitlement (event : EntitlementEvent) : Operation Nat := do
  let ctx ← Procedure.ofExcept .ofInput (Context.ofTenant event.tenant)
  let name ← Procedure.ofExcept .ofInput (ModuleName.ofId event.moduleId)
  skipTableMissing (onRegistry (Registry.switchModule ctx name event.change.enables))

/-- Carries out an event. -/
def apply : TimerEvent → Operation Nat
  | .moduleResource event => resource event
  | .entitlement event => entitlement event

end Sync

end Horarium
