/-
Module: Horarium.Timer.Error
Purpose: What can be wrong with the input that describes a timer.
Trusted boundary: human-reviewed definitions
Main exports: minIntervalMillis, Violation, InputError, InputError.message
-/
import Horarium.Timer.Kind

namespace Horarium

/-- The shortest interval that is scheduled, in milliseconds. -/
def minIntervalMillis : Nat := 1000

/-- A rule that a timer breaks. `stated` carries a rule put into words elsewhere. -/
inductive Violation where
  | unknownKind (given : String)
  | invalidDelay (given : String)
  | delayOverflow (given : String) (unit : TimeUnit)
  | tooManyMethods (count : Nat)
  | bothTriggers
  | noTrigger
  | intervalTooShort (millis : Nat)
  | blankCron
  | noKind
  | noModuleName
  | stated (text : String)
deriving DecidableEq, Repr

/-- The wording of a broken rule. -/
def Violation.message : Violation → String
  | .unknownKind given => s!"unknown timer type: {given}"
  | .invalidDelay given => s!"invalid delay: '{given}'"
  | .delayOverflow given unit => s!"delay overflow: {given} {unit.name}"
  | .tooManyMethods count => s!"at most one HTTP method is allowed per timer, got {count}"
  | .bothTriggers => "interval and schedule are mutually exclusive"
  | .noTrigger => "either interval or schedule must be specified"
  | .intervalTooShort millis => s!"interval must be at least {minIntervalMillis}ms, got {millis}ms"
  | .blankCron => "cron expression is empty"
  | .noKind => "timer type is required"
  | .noModuleName => "module name is required to compute the natural key"
  | .stated text => text

/-- Input that is refused: a timer that breaks a rule, a module id without a name, or a text that
names no tenant. -/
inductive InputError where
  | invalid (rule : Violation)
  | moduleId (given : String)
  | tenant (given : String)
deriving DecidableEq, Repr

/-- The wording of a refusal. -/
def InputError.message : InputError → String
  | .invalid rule => s!"Validation error: {rule.message}"
  | .moduleId given => s!"Invalid module id: {given}"
  | .tenant given => s!"Invalid tenant: {given}"

end Horarium
