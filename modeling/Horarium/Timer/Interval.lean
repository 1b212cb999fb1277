/-
Module: Horarium.Timer.Interval
Purpose: Fixed-rate repetition: a delay, carried as the text that a descriptor declares, and its
  unit.
Trusted boundary: human-reviewed definitions
Main exports: Interval, Interval.delay?, Interval.delayValue, Interval.millis, Interval.isZero
-/
import Horarium.Timer.Error
import Horarium.Text.Blank
import Horarium.Text.Numeral

namespace Horarium

/-- The kind that a text names, in any case of its ASCII letters. -/
def TimerKind.parse (text : String) : Except InputError TimerKind :=
  let upper := String.ofList (text.toList.map Char.toUpper)
  match TimerKind.named? upper with
  | some kind => .ok kind
  | none => .error (.invalid (.unknownKind upper))

/-- So many units between fires. -/
structure Interval where
  delay : String
  unit : TimeUnit
deriving DecidableEq, Repr, Inhabited

namespace Interval

/-- The number that the delay spells, blanks around it left out. -/
def delay? (i : Interval) : Option Nat := Text.readNat? Text.max64 (Text.trim i.delay.toList)

/-- The number that the delay spells, or the rule that it breaks. -/
def delayValue (i : Interval) : Except InputError Nat :=
  match i.delay? with
  | some n => .ok n
  | none => .error (.invalid (.invalidDelay i.delay))

/-- The interval in milliseconds, which has to be a number of 64 bits. -/
def millis (i : Interval) : Except InputError Nat := do
  let n ← i.delayValue
  if n * i.unit.millis ≤ Text.max64 then .ok (n * i.unit.millis)
  else .error (.invalid (.delayOverflow i.delay i.unit))

/-- A delay of zero marks a timer that is never scheduled. -/
def isZero (i : Interval) : Bool := i.delay? == some 0

end Interval

end Horarium
