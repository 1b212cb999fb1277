/-
Module: Horarium.Registry.Prepare
Purpose: What the registry asks of a record before it stores it: a kind, a valid routing entry, a
  module, and a trigger that can be computed. Disabled records are held to the same, since they may
  be enabled later.
Trusted boundary: human-reviewed definitions
Main exports: TimerRecord.lacksModule, TimerRecord.prepare
-/
import Horarium.Registry.Error

namespace Horarium

namespace TimerRecord

/-- Whether the record has no module name to go by. -/
def lacksModule (r : TimerRecord) : Bool := r.moduleName.all fun name => Text.isAllBlank name.toList

/-- The record with its module name derived, if it can be registered. -/
def prepare (r : TimerRecord) : Except RegistryError TimerRecord :=
  match r.kind, r.routingEntry with
  | none, _ => .error (.validation .noKind)
  | some _, none => .error (.validation .noRoutingEntry)
  | some _, some entry =>
    match entry.validate with
    | .error e => .error (.ofInput e)
    | .ok _ => match r.resolveModuleName with
      | .error e => .error (.ofInput e)
      | .ok named =>
        if named.lacksModule then .error (.validation .noModule)
        else if entry.hasZeroInterval then .ok named
        else match entry.trigger with
          | .error e => .error (.ofTrigger e)
          | .ok _ => .ok named

end TimerRecord

end Horarium
