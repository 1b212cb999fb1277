/-
Module: Horarium.Cron.Schedule
Purpose: Engine schedules: six or seven fields, from seconds to years, each the set of values at
  which the schedule may fire. A fire must satisfy every field, the day of the month and the day of
  the week both.
Trusted boundary: human-reviewed definitions
Main exports: Cron.Schedule, Cron.Reason, Cron.Error, Cron.Error.message, Cron.Schedule.ofFields?,
  Cron.Schedule.hasZeroStep, Cron.Schedule.parse
-/
import Horarium.Cron.Field
import Horarium.Text.Blank

namespace Horarium.Cron

/-- A schedule, as the ascending lists of the values of its fields. Sunday is day 1 of the week. -/
structure Schedule where
  seconds : List Nat
  minutes : List Nat
  hours : List Nat
  daysOfMonth : List Nat
  months : List Nat
  daysOfWeek : List Nat
  years : List Nat
deriving DecidableEq, Repr

/-- Why a text is not a cron expression. -/
inductive Reason where
  | fieldCount (found : Nat)
  | zeroStep (field : String)
  | wrappedStep (atom : String)
  | grammar
deriving DecidableEq, Repr

/-- A text that is not a cron expression, and why. -/
structure Error where
  expression : String
  reason : Reason
deriving DecidableEq, Repr

/-- The wording of a reason. -/
def Reason.message : Reason → String
  | .fieldCount n => s!"expected 5, 6 or 7 fields, got {n}"
  | .zeroStep field => s!"zero step in '{field}'"
  | .wrappedStep atom => s!"unsupported day-of-week range with step: '{atom}'"
  | .grammar => "Invalid expression: Invalid cron expression."

/-- The wording of an error. -/
def Error.message (e : Error) : String :=
  s!"invalid cron expression '{e.expression}': {e.reason.message}"

namespace Schedule

/-- A schedule for every day of every year at one time, but for the parts given. -/
def shorthand (hours daysOfMonth months daysOfWeek : List Nat) : Schedule :=
  ⟨[0], [0], hours, daysOfMonth, months, daysOfWeek, FieldRange.year.all⟩

/-- The schedules that have a name of their own; blanks may surround it. -/
def ofShorthand? (text : String) : Option Schedule :=
  let days := FieldRange.dayOfMonth.all
  let months := FieldRange.month.all
  let weekdays := FieldRange.dayOfWeek.all
  match text with
  | "@yearly" => some (shorthand [0] [1] [1] weekdays)
  | "@monthly" => some (shorthand [0] [1] months weekdays)
  | "@weekly" => some (shorthand [0] days months [1])
  | "@daily" => some (shorthand [0] days months weekdays)
  | "@hourly" => some (shorthand FieldRange.hour.all days months weekdays)
  | _ => none

/-- A schedule of six fields, or of seven with the years. -/
def ofFields? (cs : List Char) : Option Schedule := do
  let (seconds, cs) ← field? .second cs
  let (minutes, cs) ← field? .minute cs
  let (hours, cs) ← field? .hour cs
  let (daysOfMonth, cs) ← field? .dayOfMonth cs
  let (months, cs) ← field? .month cs
  let (daysOfWeek, cs) ← field? .dayOfWeek cs
  if cs.isEmpty then
    return ⟨seconds, minutes, hours, daysOfMonth, months, daysOfWeek, FieldRange.year.all⟩
  else do
    let (years, cs) ← field? .year cs
    if cs.isEmpty then return ⟨seconds, minutes, hours, daysOfMonth, months, daysOfWeek, years⟩
    else none

/-- Whether an item of the field divides by a step of zero. -/
def hasZeroStep (field : List Char) : Bool :=
  (Text.splitOn ',' field).any fun atom =>
    match Text.splitFirst? '/' atom with
    | some (_, step) => Text.readNat? Text.max32 step = some 0
    | none => false

/-- The schedule that an engine expression denotes. A question mark means any value. -/
def parse (expression : String) : Except Error Schedule :=
  match (Text.words expression.toList).find? hasZeroStep with
  | some field => .error ⟨expression, .zeroStep (String.ofList field)⟩
  | none =>
    let normal := expression.toList.map fun c => if c = '?' then '*' else c
    match (ofShorthand? (String.ofList (trimGaps normal))).or (ofFields? normal) with
    | some schedule => .ok schedule
    | none => .error ⟨expression, .grammar⟩

end Schedule

end Horarium.Cron
