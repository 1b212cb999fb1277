/-
Module: Horarium.Store.Basic
Purpose: What a timer store is asked and answers. Every request but the list of tenants concerns the
  table of one tenant, which exists once it has been provisioned.
Trusted boundary: human-reviewed definitions; a store is whatever answers the requests
Main exports: StoreError, StoreError.message, StoreError.isTableMissing, Page, StoreRequest,
  StoreRequest.Result, TimerStore
-/
import Horarium.Timer.Record

namespace Horarium

/-- Why a store does not do what it is asked. -/
inductive StoreError where
  | tableMissing (tenant : String)
  | duplicateKey (key : String)
  | missingId
  | invalid (cause : InputError)
  | serialization (detail : String)
  | database (detail : String)
deriving DecidableEq, Repr

namespace StoreError

/-- The wording of a store's refusal. -/
def message : StoreError → String
  | .tableMissing tenant => s!"timer table missing for tenant '{tenant}'"
  | .duplicateKey key => s!"duplicate natural key: {key}"
  | .missingId => "timer has no id"
  | .invalid cause => s!"invalid record: {cause.message}"
  | .serialization detail => s!"serialization error: {detail}"
  | .database detail => s!"database error: {detail}"

/-- Whether the tenant has no table. -/
def isTableMissing : StoreError → Bool
  | .tableMissing _ => true
  | _ => false

end StoreError

/-- A part of a listing, and how many records the whole has. -/
structure Page where
  items : List TimerRecord
  total : Nat

/-- What a store can be asked. -/
inductive StoreRequest where
  | findById (tenant : String) (id : Uuid)
  | findByNaturalKey (tenant : String) (key : String)
  | findByModuleAndKind (tenant : String) (moduleName : String) (kind : TimerKind)
  | findByModuleAndEnabled (tenant : String) (moduleName : String) (enabled : Bool)
  | page (tenant : String) (offset limit : Nat)
  | list (tenant : String)
  | save (tenant : String) (record : TimerRecord)
  | saveAll (tenant : String) (records : List TimerRecord)
  | delete (tenant : String) (id : Uuid)
  | tenants
  | provision (tenant : String)
deriving DecidableEq

namespace StoreRequest

/-- What a store answers when it does what it is asked. Saving answers with what was saved, deleting
with whether there was a record. -/
abbrev Result : StoreRequest → Type
  | findById _ _ => Option TimerRecord
  | findByNaturalKey _ _ => Option TimerRecord
  | findByModuleAndKind _ _ _ => List TimerRecord
  | findByModuleAndEnabled _ _ _ => List TimerRecord
  | page _ _ _ => Page
  | list _ => List TimerRecord
  | save _ _ => TimerRecord
  | saveAll _ _ => List TimerRecord
  | delete _ _ => Bool
  | tenants => List String
  | provision _ => PUnit

/-- The names of the requests, without what they carry. -/
inductive Method where
  | findById
  | findByNaturalKey
  | findByModuleAndKind
  | findByModuleAndEnabled
  | page
  | list
  | save
  | saveAll
  | delete
  | tenants
  | provision
deriving DecidableEq, Repr

/-- The name of a request. -/
def method : StoreRequest → Method
  | findById _ _ => .findById
  | findByNaturalKey _ _ => .findByNaturalKey
  | findByModuleAndKind _ _ _ => .findByModuleAndKind
  | findByModuleAndEnabled _ _ _ => .findByModuleAndEnabled
  | page _ _ _ => .page
  | list _ => .list
  | save _ _ => .save
  | saveAll _ _ => .saveAll
  | delete _ _ => .delete
  | tenants => .tenants
  | provision _ => .provision

end StoreRequest

/-- A store of timers. -/
class TimerStore (σ : Type) where
  answer : (request : StoreRequest) → σ → Except StoreError request.Result × σ

end Horarium
