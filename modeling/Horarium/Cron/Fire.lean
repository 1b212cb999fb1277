/-
Module: Horarium.Cron.Fire
Purpose: When a schedule fires. The search runs over local times in their order: the next one that
  satisfies every field and exists in the zone. A local time that clocks show twice fires at both
  instants, the earlier first, and the search goes on after that local time.
Trusted boundary: human-reviewed definitions
Main exports: Cron.Fire, Cron.Schedule.admitsDate, Cron.Schedule.fires
-/
import Horarium.Calendar.Zone.Rule
import Horarium.Cron.Schedule

namespace Horarium.Cron

/-- A fire: the local time, and the offset in minutes under which it is meant. -/
structure Fire where
  date : Date
  second : Nat
  offset : Int
deriving DecidableEq

/-- The text of a fire: date and time with the offset. -/
def Fire.toText (f : Fire) : String :=
  let sign := if f.offset < 0 then '-' else '+'
  let minutes := f.offset.natAbs
  String.ofList (Instant.dateChars f.date ++ 'T' :: Instant.clockChars f.second 0
    ++ sign :: Text.fixedDigits 2 (minutes / 60) ++ ':' :: Text.fixedDigits 2 (minutes % 60))

namespace Schedule

/-- Whether the schedule may fire on a date. -/
def admitsDate (s : Schedule) (d : Date) : Bool :=
  0 ≤ d.year && s.years.contains d.year.toNat && s.months.contains d.month
    && s.daysOfMonth.contains d.day && s.daysOfWeek.contains (d.weekday + 1)

/-- The first second of the day, from `start` on, at which the schedule may fire and which exists on
the date, with its offsets. -/
def firstTime? (s : Schedule) (rule : ZoneRule) (date : Date) (start : Nat) :
    Option (Nat × List Int) :=
  (s.hours.filter fun h => start ≤ h * 3600 + 3599).findSome? fun h =>
    (s.minutes.filter fun m => start ≤ h * 3600 + m * 60 + 59).findSome? fun m =>
      (s.seconds.filter fun sec => start ≤ h * 3600 + m * 60 + sec).findSome? fun sec =>
        let second := h * 3600 + m * 60 + sec
        match rule.offsetsOf date second with
        | [] => none
        | offsets => some (second, offsets)

/-- The first local time of the `days` days from `date` on, the first day from second `start` on. -/
def search (s : Schedule) (rule : ZoneRule) : Nat → Date → Nat → Option (Date × Nat × List Int)
  | 0, _, _ => none
  | days + 1, date, start =>
    match if s.admitsDate date then s.firstTime? rule date start else none with
    | some (second, offsets) => some (date, second, offsets)
    | none => search s rule days date.next 0

/-- The day after the last one that a schedule can name. -/
def horizon : Int := 47847

/-- The first day that a schedule can name. -/
def firstDay : Date := .epoch

/-- The first local time at or after the given one. -/
def nextLocal? (s : Schedule) (rule : ZoneRule) (date : Date) (start : Nat) :
    Option (Date × Nat × List Int) :=
  if date.before firstDay then search s rule horizon.toNat firstDay 0
  else search s rule (horizon - date.dayNumber).toNat date start

/-- The local time one second after an instant, fractions left out. -/
def localAfter (rule : ZoneRule) (after : Instant) : Date × Nat :=
  let offset := rule.offsetAt after.date.year (after.seconds + 1)
  Instant.shift after.date after.second (offset * 60 + 1)

/-- The first `count` fires from a local time on. -/
def firesFrom (s : Schedule) (rule : ZoneRule) : Nat → Date → Nat → List Fire
  | 0, _, _ => []
  | count + 1, date, start =>
    match s.nextLocal? rule date start with
    | none => []
    | some (day, second, offsets) =>
      let here := offsets.map fun offset => Fire.mk day second offset
      let (nextDay, nextStart) := Instant.shift day second 1
      (here ++ firesFrom s rule count nextDay nextStart).take (count + 1)

/-- The first `count` fires after an instant. -/
def fires (s : Schedule) (rule : ZoneRule) (after : Instant) (count : Nat) : List Fire :=
  let (date, start) := localAfter rule after
  firesFrom s rule count date start

end Schedule

end Horarium.Cron
