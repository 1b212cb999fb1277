/-
Module: Horarium.Registry.Error
Purpose: Why the registry refuses an operation, what status a refusal has for a caller on the
  network, and how the errors of the layers below become refusals.
Trusted boundary: human-reviewed definitions
Main exports: Refusal, RegistryError, RegistryError.message, RegistryError.ofInput,
  RegistryError.ofTrigger, RegistryError.status, RegistryError.isTableMissing
-/
import Horarium.Store.Basic
import Horarium.Trigger

namespace Horarium

/-- What is wrong with the input of an operation. `stated` carries a fault put into words
elsewhere. -/
inductive Refusal where
  | input (error : InputError)
  | trigger (error : TriggerError)
  | noKind
  | noRoutingEntry
  | noModule
  | idMismatch (given : Option Uuid) (path : Uuid)
  | storedWithoutId
  | stated (text : String)
deriving DecidableEq

/-- The wording of a refusal. -/
def Refusal.message : Refusal → String
  | .input error => error.message
  | .trigger error => error.message
  | .noKind => "timer type is required"
  | .noRoutingEntry => "routing entry is required"
  | .noModule => "moduleName or moduleId is required"
  | .idMismatch given path =>
    let shown := (given.map (·.toText)).getD "missing"
    s!"timer id in body ({shown}) does not match path id ({path.toText})"
  | .storedWithoutId => "stored timer has no id"
  | .stated text => text

/-- Why an operation of the registry fails. -/
inductive RegistryError where
  | validation (cause : Refusal)
  | notFound (id : Uuid)
  | alreadyExists (given : String)
  | scheduling (cause : TriggerError)
  | store (cause : StoreError)
deriving DecidableEq

namespace RegistryError

/-- The wording of a failure; errors of other layers keep theirs. -/
def message : RegistryError → String
  | .validation cause => s!"validation error: {cause.message}"
  | .notFound id => s!"timer not found: {id.toText}"
  | .alreadyExists given => s!"timer already exists: {given}"
  | .scheduling cause => cause.message
  | .store cause => cause.message

/-- Input that is refused is a failed validation. -/
def ofInput (error : InputError) : RegistryError := .validation (.input error)

/-- A record that cannot be scheduled because of what it says is a failed validation. -/
def ofTrigger (error : TriggerError) : RegistryError :=
  if error.isValidation then .validation (.trigger error) else .scheduling error

/-- The status of the failure in a response. -/
def status : RegistryError → Nat
  | .validation _ => 400
  | .notFound _ => 404
  | .alreadyExists _ => 409
  | .scheduling _ => 500
  | .store (.tableMissing _) => 404
  | .store (.duplicateKey _) => 409
  | .store (.invalid _) => 400
  | .store .missingId => 400
  | .store _ => 500

/-- Whether the tenant has no table. -/
def isTableMissing : RegistryError → Bool
  | .store cause => cause.isTableMissing
  | _ => false

end RegistryError

end Horarium
