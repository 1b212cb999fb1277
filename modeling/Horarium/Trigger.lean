/-
Module: Horarium.Trigger
Purpose: From a timer record to the trigger of its job, and the shape that tells whether two records
  declare the same trigger.
Trusted boundary: human-reviewed definitions
Main exports: TimerRecord.trigger, TriggerError, TriggerShape, TriggerShape.of
-/
import Horarium.Calendar.Zone.Table
import Horarium.Cron.Unix
import Horarium.Engine.Job
import Horarium.Timer.Record

namespace Horarium

/-- Why a record cannot be scheduled. -/
inductive TriggerError where
  | notSpecified
  | conflicting
  | intervalTooShort (millis : Nat)
  | invalidDelay (given : String)
  | invalidZone (given : String)
  | cron (error : Cron.Error)
  | missingId
  | schedulingFailure (jobKey : String) (cause : EngineError)
deriving DecidableEq, Repr

namespace TriggerError

/-- The wording of the reason. -/
def message : TriggerError → String
  | .notSpecified => "trigger not specified: neither interval nor schedule is set"
  | .conflicting => "interval and schedule are mutually exclusive"
  | .intervalTooShort millis =>
    s!"interval too short: {millis}ms (minimum {minIntervalMillis}ms)"
  | .invalidDelay given => s!"invalid delay: '{given}'"
  | .invalidZone given => s!"invalid time zone: '{given}'"
  | .cron error => error.message
  | .missingId => "timer has no id to key its trigger"
  | .schedulingFailure jobKey cause => s!"scheduling failure for job {jobKey}: {cause.message}"

/-- Whether the reason lies in what the record says, and not in the engine or a missing id. -/
def isValidation : TriggerError → Bool
  | .schedulingFailure _ _ => false
  | .missingId => false
  | _ => true

end TriggerError

/-- The trigger of an interval: at least the shortest interval, at most what 64 bits hold. -/
def Interval.trigger (i : Interval) : Except TriggerError TriggerSpec :=
  match i.delay? with
  | none => .error (.invalidDelay i.delay)
  | some n =>
    let millis := n * i.unit.millis
    if Text.max64 < millis then .error (.invalidDelay i.delay)
    else if millis < minIntervalMillis then .error (.intervalTooShort millis)
    else .ok (.interval millis)

/-- The trigger of a cron schedule. The zone is checked before the expression. -/
def CronSchedule.trigger (s : CronSchedule) : Except TriggerError TriggerSpec :=
  let zone := s.zoneOrDefault
  if isZoneName zone then
    match Cron.toEngine s.cron with
    | .ok expression => .ok (.cron expression zone)
    | .error e => .error (.cron e)
  else .error (.invalidZone zone)

/-- The trigger that a routing entry declares. -/
def RoutingEntry.trigger (e : RoutingEntry) : Except TriggerError TriggerSpec :=
  match e.interval, e.schedule with
  | some _, some _ => .error .conflicting
  | none, none => .error .notSpecified
  | some interval, none => interval.trigger
  | none, some schedule => schedule.trigger

/-- The trigger of the record's job. -/
def TimerRecord.trigger (r : TimerRecord) : Except TriggerError TriggerSpec :=
  match r.routingEntry with
  | none => .error .notSpecified
  | some entry => entry.trigger

/-- The trigger that a record declares, as it is written there but for blanks at the ends. -/
inductive TriggerShape where
  | interval (delay : String) (unit : TimeUnit)
  | cron (expression zone : String)
deriving DecidableEq, Repr

/-- A text without the blanks at its ends. -/
def trimmed (s : String) : String := String.ofList (Text.trim s.toList)

/-- The shape that a record declares, where it declares exactly one trigger. -/
def TriggerShape.of (r : TimerRecord) : Option TriggerShape :=
  match r.routingEntry with
  | none => none
  | some entry =>
    match entry.interval, entry.schedule with
    | some i, none => some (.interval (trimmed i.delay) i.unit)
    | none, some s => some (.cron (trimmed s.cron) s.zoneOrDefault)
    | _, _ => none

/-- The written form of a shape. -/
def TriggerShape.toJson : TriggerShape → Json
  | .interval delay unit =>
    .object [("interval", .object [("delay", .text delay), ("unit", unit.toJson)])]
  | .cron expression zone =>
    .object [("cron", .object [("expression", .text expression), ("zone", .text zone)])]

end Horarium
