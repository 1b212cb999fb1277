/-
Module: Horarium.Cron.Unix
Purpose: From the five fields of Unix cron to the engine's seven. Unix cron writes minute, hour, day
  of month, month and day of week, Sunday being 0 or 7. The engine adds seconds in front and years
  behind, has Sunday as 1, and wants a question mark in one of the day fields. Texts of six or seven
  fields are engine expressions already and are only checked.
Trusted boundary: human-reviewed definitions
Main exports: Cron.shiftDay, Cron.shiftWeekdays, Cron.isAnyDay, Cron.dayFields, Cron.ofUnix,
  Cron.engineForm, Cron.toEngine
-/
import Horarium.Cron.Schedule

namespace Horarium.Cron

/-- The engine's number for a Unix weekday. -/
def shiftDay (n : Nat) : Nat := n % 7 + 1

/-- A number of 32 bits, as the text of a day of the week. -/
def dayNumber? (cs : List Char) : Option Nat := Text.readNat? Text.max32 cs

/-- The range of an atom with its days renumbered: the atoms that take its place, before the step. A
range that runs over the end of the engine's week falls into two, which a step cannot be spread
over. What holds no number, or half of a range that is none, is left as it is. -/
def shiftRange (atom base : List Char) (stepped : Bool) : Except Reason (List (List Char)) :=
  if base = ['*'] then .ok [base]
  else match Text.splitFirst? '-' base with
    | some (low, high) =>
      match dayNumber? low, dayNumber? high with
      | some low, some high =>
        let low := shiftDay low
        let high := shiftDay high
        if high < low then
          if stepped then .error (.wrappedStep (String.ofList atom))
          else .ok [Text.decimal low ++ ['-', '7'],
            if high = 1 then ['1'] else '1' :: '-' :: Text.decimal high]
        else .ok [Text.decimal low ++ '-' :: Text.decimal high]
      | _, _ => .ok [base]
    | none => match dayNumber? base with
      | some n => .ok [Text.decimal (shiftDay n)]
      | none => .ok [base]

/-- An atom of the weekday field with its days renumbered. -/
def shiftAtom (atom : List Char) : Except Reason (List (List Char)) :=
  match Text.splitFirst? '/' atom with
  | some (base, step) => do
    let bases ← shiftRange atom base true
    return bases.map (· ++ '/' :: step)
  | none => shiftRange atom atom false

/-- The atoms of the weekday field with their days renumbered, the first fault in their order. -/
def shiftAtoms : List (List Char) → Except Reason (List (List Char))
  | [] => .ok []
  | atom :: rest => do
    let first ← shiftAtom atom
    let others ← shiftAtoms rest
    return first ++ others

/-- The weekday field with its days renumbered. -/
def shiftWeekdays (field : List Char) : Except Reason (List Char) := do
  let atoms ← shiftAtoms (Text.splitOn ',' field)
  return [','].intercalate atoms

/-- Whether a day field restricts nothing. -/
def isAnyDay (field : List Char) : Bool := field = ['*'] || field = ['?']

/-- The engine's day fields. At most one of them is a restriction that the engine is asked to
ignore. -/
def dayFields (dayOfMonth dayOfWeek : List Char) : Except Reason (List Char × List Char) :=
  if isAnyDay dayOfWeek then .ok (if dayOfMonth = ['?'] then ['*'] else dayOfMonth, ['?'])
  else do
    let shifted ← shiftWeekdays dayOfWeek
    return (if isAnyDay dayOfMonth then ['?'] else dayOfMonth, shifted)

/-- The engine expression of five Unix fields. -/
def ofUnix (minute hour dayOfMonth month dayOfWeek : List Char) : Except Reason (List Char) := do
  let (dayOfMonth, dayOfWeek) ← dayFields dayOfMonth dayOfWeek
  return [' '].intercalate [['0'], minute, hour, dayOfMonth, month, dayOfWeek, ['*']]

/-- The engine expression that a text stands for, not yet checked. -/
def engineForm (text : List Char) : Except Reason (List Char) :=
  match Text.words text with
  | [minute, hour, dayOfMonth, month, dayOfWeek] => ofUnix minute hour dayOfMonth month dayOfWeek
  | [_, _, _, _, _, _] => .ok (Text.trim text)
  | [_, _, _, _, _, _, _] => .ok (Text.trim text)
  | words => .error (.fieldCount words.length)

/-- The engine expression that a cron expression stands for. The engine accepts every result. -/
def toEngine (expression : String) : Except Error String :=
  match engineForm expression.toList with
  | .error reason => .error ⟨expression, reason⟩
  | .ok form =>
    let engine := String.ofList form
    match Schedule.parse engine with
    | .error e => .error ⟨expression, e.reason⟩
    | .ok _ => .ok engine

end Horarium.Cron
