/-
Module: Horarium.Timer.Routing
Purpose: What a timer calls and when: the HTTP target, and an interval or a cron schedule.
Trusted boundary: human-reviewed definitions
Main exports: CronSchedule, CronSchedule.zoneOrDefault, RoutingEntry, RoutingEntry.keyPath,
  RoutingEntry.staticPath?, RoutingEntry.validate, RoutingEntry.hasZeroInterval
-/
import Horarium.Timer.Interval

namespace Horarium

/-- The zone of a schedule that names none. -/
def defaultZone : String := "UTC"

/-- Repetition by a cron expression, evaluated in a zone. -/
structure CronSchedule where
  cron : String
  zone : Option String
deriving DecidableEq, Repr, Inhabited

/-- The zone of a schedule; a blank one counts as none. -/
def CronSchedule.zoneOrDefault (s : CronSchedule) : String :=
  match s.zone with
  | some zone => if Text.isAllBlank zone.toList then defaultZone else zone
  | none => defaultZone

/-- The target of a timer and its trigger. -/
structure RoutingEntry where
  methods : List String
  pathPattern : Option String
  path : Option String
  interval : Option Interval
  schedule : Option CronSchedule
deriving DecidableEq, Repr

instance : Inhabited RoutingEntry := ⟨⟨[], none, none, none, none⟩⟩

namespace RoutingEntry

/-- The path that identifies the timer: the pattern where there is one, else the literal path. -/
def keyPath (e : RoutingEntry) : String := (e.pathPattern.or e.path).getD ""

/-- The path that is called: the literal one, else the pattern; empty paths count as none. -/
def staticPath? (e : RoutingEntry) : Option String :=
  (e.path.filter (!·.isEmpty)).or (e.pathPattern.filter (!·.isEmpty))

/-- Checks that there is at most one method and exactly one trigger, and that the trigger is not out
of hand. A delay of zero passes: it marks an inactive timer. -/
def validate (e : RoutingEntry) : Except InputError PUnit :=
  if 1 < e.methods.length then .error (.invalid (.tooManyMethods e.methods.length))
  else match e.interval, e.schedule with
    | some _, some _ => .error (.invalid .bothTriggers)
    | none, none => .error (.invalid .noTrigger)
    | some interval, none => do
      let millis ← interval.millis
      if millis ≠ 0 ∧ millis < minIntervalMillis then
        .error (.invalid (.intervalTooShort millis))
      else .ok ⟨⟩
    | none, some schedule =>
      if Text.isAllBlank schedule.cron.toList then .error (.invalid .blankCron) else .ok ⟨⟩

/-- Whether the entry repeats at an interval of zero. -/
def hasZeroInterval (e : RoutingEntry) : Bool := e.interval.any (·.isZero)

end RoutingEntry

end Horarium
