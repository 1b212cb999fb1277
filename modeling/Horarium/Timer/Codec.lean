/-
Module: Horarium.Timer.Codec
Purpose: The JSON form of timers. Optional members are left out when there is nothing to write,
  except in the metadata, all of whose members are always written.
Trusted boundary: human-reviewed definitions
Main exports: TimerRecord.toJson, TimerRecord.reader, RoutingEntry.toJson, RoutingEntry.reader
-/
import Horarium.Json.Reader
import Horarium.Timer.Record

namespace Horarium

namespace TimerKind

/-- The written form. -/
def toJson (kind : TimerKind) : Json := .text kind.name

/-- Reads the written form. -/
def reader (emptyForNull : Bool) : Json.Reader TimerKind := .variant emptyForNull named?

end TimerKind

namespace TimeUnit

/-- The written form; always the long name. -/
def toJson (unit : TimeUnit) : Json := .text unit.name

/-- Reads the written form and the short names. -/
def reader (emptyForNull : Bool) : Json.Reader TimeUnit := .variant emptyForNull named?

end TimeUnit

namespace Interval

/-- The written form. -/
def toJson (i : Interval) : Json := .object [("delay", .text i.delay), ("unit", i.unit.toJson)]

/-- Reads the written form. -/
def reader (emptyForNull : Bool) : Json.Reader Interval :=
  .record [
    Json.field "delay" .required .text fun v i => { i with delay := v },
    Json.field "unit" .required (TimeUnit.reader emptyForNull) fun v i => { i with unit := v }]
    default

end Interval

namespace CronSchedule

/-- The written form. -/
def toJson (s : CronSchedule) : Json :=
  .object (("cron", .text s.cron) :: Json.member? "zone" .text s.zone)

/-- Reads the written form. -/
def reader : Json.Reader CronSchedule :=
  .record [
    Json.field "cron" .required .text fun v s => { s with cron := v },
    Json.field "zone" .defaulted (.optional .text) fun v s => { s with zone := v }]
    default

end CronSchedule

namespace RoutingEntry

/-- The written form. -/
def toJson (e : RoutingEntry) : Json :=
  .object
    (("methods", .array (e.methods.map .text)) :: (Json.member? "pathPattern" .text e.pathPattern
    ++ Json.member? "path" .text e.path ++ Json.member? "interval" Interval.toJson e.interval
    ++ Json.member? "schedule" CronSchedule.toJson e.schedule))

/-- Reads the written form. -/
def reader (emptyForNull : Bool) : Json.Reader RoutingEntry :=
  .record [
    Json.field "methods" .defaulted (.list .text) fun v e => { e with methods := v },
    Json.field "pathPattern" .defaulted (.optional .text) fun v e => { e with pathPattern := v },
    Json.field "path" .defaulted (.optional .text) fun v e => { e with path := v },
    Json.field "interval" .defaulted (.optional (Interval.reader emptyForNull))
      fun v e => { e with interval := v },
    Json.field "schedule" .defaulted (.optional CronSchedule.reader)
      fun v e => { e with schedule := v }]
    default

end RoutingEntry

/-- The written form of an identifier. -/
def Uuid.toJson (u : Uuid) : Json := .text u.toText

/-- The written form of an instant. -/
def Instant.toJson (t : Instant) : Json := .text t.toText

namespace AuditMetadata

/-- The written form. -/
def toJson (m : AuditMetadata) : Json :=
  .object [("createdDate", Json.ofOption Instant.toJson m.createdDate),
    ("createdByUserId", Json.ofOption Uuid.toJson m.createdBy),
    ("updatedDate", Json.ofOption Instant.toJson m.updatedDate),
    ("updatedByUserId", Json.ofOption Uuid.toJson m.updatedBy)]

/-- Reads the written form. -/
def reader : Json.Reader AuditMetadata :=
  .record [
    Json.field "createdDate" .optional (.optional (.parsed Instant.parse?))
      fun v m => { m with createdDate := v },
    Json.field "createdByUserId" .optional (.optional (.parsed Uuid.parse?))
      fun v m => { m with createdBy := v },
    Json.field "updatedDate" .optional (.optional (.parsed Instant.parse?))
      fun v m => { m with updatedDate := v },
    Json.field "updatedByUserId" .optional (.optional (.parsed Uuid.parse?))
      fun v m => { m with updatedBy := v }]
    default

end AuditMetadata

namespace TimerRecord

/-- The written form. -/
def toJson (r : TimerRecord) : Json :=
  .object (Json.member? "id" Uuid.toJson r.id ++ Json.member? "type" TimerKind.toJson r.kind
    ++ Json.member? "moduleName" .text r.moduleName ++ Json.member? "moduleId" .text r.moduleId
    ++ ("enabled",
      .bool r.enabled) :: (Json.member? "routingEntry" RoutingEntry.toJson r.routingEntry
    ++ Json.member? "metadata" AuditMetadata.toJson r.metadata))

/-- Reads the written form. -/
def reader : Json.Reader TimerRecord :=
  .record [
    Json.field "id" .defaulted (.optional (.parsed Uuid.parse?)) fun v r => { r with id := v },
    Json.field "type" .defaulted (.optional (TimerKind.reader false))
      fun v r => { r with kind := v },
    Json.field "moduleName" .defaulted (.optional .text) fun v r => { r with moduleName := v },
    Json.field "moduleId" .defaulted (.optional .text) fun v r => { r with moduleId := v },
    Json.field "enabled" .defaulted .bool fun v r => { r with enabled := v },
    Json.field "routingEntry" .defaulted (.optional (RoutingEntry.reader false))
      fun v r => { r with routingEntry := v },
    Json.field "metadata" .defaulted (.optional AuditMetadata.reader)
      fun v r => { r with metadata := v }]
    default

end TimerRecord

end Horarium
