/-
Module: Horarium.Timer.Kind
Purpose: The closed vocabularies of a timer: where it comes from, and the units its interval may be
  given in.
Trusted boundary: human-reviewed definitions
Main exports: TimerKind, TimerKind.name, TimerKind.named?, TimeUnit, TimeUnit.name, TimeUnit.named?,
  TimeUnit.millis
-/

namespace Horarium

/-- Who a timer belongs to: a module's descriptor, or a user who made it. -/
inductive TimerKind where
  | system
  | user
deriving DecidableEq, Repr, Inhabited

/-- The written name of a kind. -/
def TimerKind.name : TimerKind → String
  | .system => "SYSTEM"
  | .user => "USER"

/-- The kind with this written name. -/
def TimerKind.named? (name : String) : Option TimerKind :=
  if name = "SYSTEM" then some .system else if name = "USER" then some .user else none

/-- The unit of an interval. -/
inductive TimeUnit where
  | millisecond
  | second
  | minute
  | hour
  | day
deriving DecidableEq, Repr, Inhabited

namespace TimeUnit

/-- The written name of a unit. -/
def name : TimeUnit → String
  | .millisecond => "MILLISECOND"
  | .second => "SECOND"
  | .minute => "MINUTE"
  | .hour => "HOUR"
  | .day => "DAY"

/-- The unit with this name; the three shortest units have a short name as well. -/
def named? (name : String) : Option TimeUnit :=
  match name with
  | "MILLISECOND" | "MS" => some .millisecond
  | "SECOND" | "SEC" => some .second
  | "MINUTE" | "MIN" => some .minute
  | "HOUR" => some .hour
  | "DAY" => some .day
  | _ => none

/-- Milliseconds in one unit. -/
def millis : TimeUnit → Nat
  | .millisecond => 1
  | .second => 1000
  | .minute => 60000
  | .hour => 3600000
  | .day => 86400000

end TimeUnit

end Horarium
