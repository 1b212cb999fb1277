/-
Module: Horarium.Cron.Codec
Purpose: The JSON form of schedules: each field as the list of its values, or as a star where it
  restricts nothing.
Trusted boundary: human-reviewed definitions
Main exports: Cron.FieldRange.valuesJson, Cron.Schedule.toJson
-/
import Horarium.Cron.Schedule
import Horarium.Json.Value

namespace Horarium.Cron

/-- The written form of a field's values. -/
def FieldRange.valuesJson (range : FieldRange) (values : List Nat) : Json :=
  if values = range.all then .text "*" else .array (values.map .number)

/-- The written form of a schedule. -/
def Schedule.toJson (s : Schedule) : Json :=
  .object [("seconds", FieldRange.second.valuesJson s.seconds),
    ("minutes", FieldRange.minute.valuesJson s.minutes),
    ("hours", FieldRange.hour.valuesJson s.hours),
    ("days_of_month", FieldRange.dayOfMonth.valuesJson s.daysOfMonth),
    ("months", FieldRange.month.valuesJson s.months),
    ("days_of_week", FieldRange.dayOfWeek.valuesJson s.daysOfWeek),
    ("years", FieldRange.year.valuesJson s.years)]

end Horarium.Cron
