/-
Module: Horarium.Timer.Record
Purpose: Timer records. A record is the intent that is stored: who owns the timer, whether it is
  enabled, and what it calls when. Its natural key tells which timer it is, whatever its id.
Trusted boundary: human-reviewed definitions
Main exports: AuditMetadata, TimerRecord, TimerRecord.ofModule, TimerRecord.isActive,
  TimerRecord.resolveModuleName, TimerRecord.naturalKey, TimerRecord.jobKey?
-/
import Horarium.Calendar.Instant
import Horarium.Timer.ModuleName
import Horarium.Timer.Routing
import Horarium.Uuid

namespace Horarium

/-- Who wrote a record, and when. -/
structure AuditMetadata where
  createdDate : Option Instant
  createdBy : Option Uuid
  updatedDate : Option Instant
  updatedBy : Option Uuid
deriving DecidableEq

instance : Inhabited AuditMetadata := ⟨⟨none, none, none, none⟩⟩

/-- A timer as it is given and stored. -/
structure TimerRecord where
  id : Option Uuid
  kind : Option TimerKind
  moduleName : Option String
  moduleId : Option String
  enabled : Bool
  routingEntry : Option RoutingEntry
  metadata : Option AuditMetadata
deriving DecidableEq

instance : Inhabited TimerRecord := ⟨⟨none, none, none, none, false, none, none⟩⟩

/-- The natural key: kind, module name, methods and path. The module name must not be blank. -/
def naturalKey (kind : TimerKind) (moduleName : String) (methods : List String) (path : String) :
    Except InputError String :=
  if Text.isAllBlank moduleName.toList then .error (.invalid .noModuleName)
  else
    let joined := ",".intercalate methods
    .ok s!"{kind.name}#{moduleName}#{joined}#{path}"

namespace TimerRecord

/-- The timer that a module declares: enabled, of kind `system`, and without id. -/
def ofModule (moduleId : String) (entry : RoutingEntry) : TimerRecord :=
  { (default : TimerRecord) with
    kind := some .system, moduleId := some moduleId, enabled := true, routingEntry := some entry }

/-- Whether the engine should hold a job for the record: it is enabled, has a routing entry, and
does not repeat at an interval of zero. -/
def isActive (r : TimerRecord) : Bool :=
  match r.routingEntry with
  | some entry => r.enabled && !entry.hasZeroInterval
  | none => false

/-- The record with its module name derived from the module id, where there is one that is not
blank. -/
def resolveModuleName (r : TimerRecord) : Except InputError TimerRecord :=
  match r.moduleId with
  | some id =>
    if Text.isAllBlank id.toList then .ok r
    else do
      let name ← ModuleName.ofId id
      return { r with moduleName := some name }
  | none => .ok r

/-- The natural key of the record. -/
def naturalKey (r : TimerRecord) : Except InputError String :=
  match r.kind with
  | none => .error (.invalid .noKind)
  | some kind =>
    let entry := r.routingEntry.getD default
    Horarium.naturalKey kind (r.moduleName.getD "") entry.methods entry.keyPath

/-- The key of the record's job in the engine. -/
def jobKey? (r : TimerRecord) : Option String := r.id.map (·.toText)

/-- The user who wrote the record last. -/
def lastWriter (r : TimerRecord) : Option Uuid := r.metadata.bind (·.updatedBy)

/-- When the record was created. -/
def createdDate (r : TimerRecord) : Option Instant := r.metadata.bind (·.createdDate)

end TimerRecord

end Horarium
