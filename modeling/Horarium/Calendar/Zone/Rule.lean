/-
Module: Horarium.Calendar.Zone.Rule
Purpose: Rules of local time. A rule gives the offset of standard time and, where clocks are put
  forward for part of the year, the two moments of the year at which they change. A local time
  denotes the instants that show it: one as a rule, none where clocks skip it, two where they repeat
  it.
Trusted boundary: human-reviewed definitions
Main exports: YearlyMoment, Daylight, ZoneRule, ZoneRule.offsetAt, ZoneRule.offsetsOf
-/
import Horarium.Calendar.Instant

namespace Horarium

/-- A moment of every year: a weekday (Sunday being 0) of a month, counted from the first one, where
5 means the last, and minutes after its midnight, which may lie outside the day. -/
structure YearlyMoment where
  month : Nat
  week : Nat
  weekday : Nat
  minute : Int
deriving DecidableEq

/-- Daylight time: its offset in minutes, the moment it starts, on the clock of standard time, and
the moment it ends, on its own clock. -/
structure Daylight where
  offset : Int
  starts : YearlyMoment
  ends : YearlyMoment
deriving DecidableEq

/-- The rule that relates local time to universal time. Offsets are minutes that clocks are
ahead. -/
structure ZoneRule where
  standard : Int
  daylight : Option Daylight
deriving DecidableEq

namespace YearlyMoment

/-- The seconds since the start of 1970, universal time, at which the moment comes on a clock that
is `offset` minutes ahead. -/
def seconds (m : YearlyMoment) (year offset : Int) : Int :=
  match Date.of? year m.month 1 with
  | none => 0
  | some first =>
    let day := (m.weekday + 7 - first.weekday) % 7 + 7 * (m.week - 1)
    let day := if day < daysInMonth year m.month then day else day - 7
    (first.dayNumber + day) * 86400 + (m.minute - offset) * 60

end YearlyMoment

namespace ZoneRule

/-- Universal time. -/
def utc : ZoneRule := ⟨0, none⟩

/-- The offset in minutes at an instant of the given year, in seconds since the start of 1970. Where
daylight time ends earlier in the year than it starts, it spans the turn of the year. -/
def offsetAt (rule : ZoneRule) (year seconds : Int) : Int :=
  match rule.daylight with
  | none => rule.standard
  | some d =>
    let start := d.starts.seconds year rule.standard
    let stop := d.ends.seconds year d.offset
    let forward :=
      if start < stop then start ≤ seconds && seconds < stop
      else !(stop ≤ seconds && seconds < start)
    if forward then d.offset else rule.standard

/-- The offsets that the rule uses, the larger one first. -/
def offsets (rule : ZoneRule) : List Int :=
  match rule.daylight with
  | none => [rule.standard]
  | some d =>
    if rule.standard < d.offset then [d.offset, rule.standard] else [rule.standard, d.offset]

/-- The offsets under which a local time occurs, that of the earliest instant first. -/
def offsetsOf (rule : ZoneRule) (date : Date) (second : Nat) : List Int :=
  rule.offsets.filter fun offset =>
    rule.offsetAt date.year (date.dayNumber * 86400 + second - offset * 60) = offset

end ZoneRule

end Horarium
