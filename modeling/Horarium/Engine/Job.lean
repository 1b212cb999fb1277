/-
Module: Horarium.Engine.Job
Purpose: Jobs: what an engine fires when. A trigger says when, the job data for whom; an engine
  holds at most one job under a key and answers three requests about them.
Trusted boundary: human-reviewed definitions; an engine is whatever answers the three requests
Main exports: TriggerSpec, JobData, TriggerFault, EngineError, EngineRequest, SchedulingEngine,
  JobData.toJson
-/
import Horarium.Cron.Schedule
import Horarium.Json.Reader
import Horarium.Timer.Codec

namespace Horarium

/-- When a job fires: at a fixed rate, the first time one interval after it is registered, or by an
engine expression evaluated in a zone. -/
inductive TriggerSpec where
  | interval (everyMillis : Nat)
  | cron (expression zone : String)
deriving DecidableEq, Repr, Inhabited

/-- What is handed on when a job fires: the timer, its tenant, and the user to act as. -/
structure JobData where
  tenant : String
  user : Option Uuid
  timer : Uuid
deriving DecidableEq, Inhabited

/-- What an engine may find wrong with a trigger. `stated` carries a fault put into words
elsewhere. -/
inductive TriggerFault where
  | zeroInterval
  | unknownZone (zone : String)
  | cron (error : Cron.Error)
  | stated (text : String)
deriving DecidableEq, Repr

/-- The wording of a fault. -/
def TriggerFault.message : TriggerFault → String
  | .zeroInterval => "interval must be positive"
  | .unknownZone zone => s!"unknown zone '{zone}'"
  | .cron error => error.message
  | .stated text => text

/-- Why an engine does not do what it is asked. -/
inductive EngineError where
  | alreadyExists (key : String)
  | invalidTrigger (key : String) (fault : TriggerFault)
  | unavailable (detail : String)
deriving DecidableEq, Repr

/-- The wording of an engine's refusal. -/
def EngineError.message : EngineError → String
  | .alreadyExists key => s!"job already exists: {key}"
  | .invalidTrigger key fault => s!"invalid trigger for job {key}: {fault.message}"
  | .unavailable detail => s!"engine unavailable: {detail}"

/-- What an engine can be asked: to take a new job under a key that is free, to give the job under a
key another trigger, or to drop the job under a key. -/
inductive EngineRequest where
  | register (key : String) (trigger : TriggerSpec) (data : JobData)
  | replace (key : String) (trigger : TriggerSpec)
  | remove (key : String)
deriving DecidableEq

/-- An engine. The answer tells whether there was something to change: a registration that succeeds
answers `true`, the other requests `false` where no job has the key. -/
class SchedulingEngine (ε : Type) where
  answer : EngineRequest → ε → Except EngineError Bool × ε

namespace TriggerSpec

/-- The written form. -/
def toJson : TriggerSpec → Json
  | .interval every => .object [("Interval", .object [("every_ms", .number every)])]
  | .cron expression zone =>
    .object [("Cron", .object [("expression", .text expression), ("zone", .text zone)])]

/-- Reads the members of a fixed rate. -/
def intervalReader : Json.Reader TriggerSpec :=
  .record [Json.field "every_ms" .required (.natural Text.max64) fun v _ => .interval v] default

/-- Reads the members of a cron trigger, as expression and zone. -/
def cronReader : Json.Reader TriggerSpec := fun draft => do
  let (expression, zone) ← Json.Reader.record [
    Json.field "expression" .required .text fun v (p : String × String) => (v, p.2),
    Json.field "zone" .required .text fun v (p : String × String) => (p.1, v)] ("", "") draft
  return .cron expression zone

/-- Reads the written form. -/
def reader : Json.Reader TriggerSpec :=
  .tagged fun name =>
    if name = "Interval" then some intervalReader
    else if name = "Cron" then some cronReader
    else none

end TriggerSpec

namespace JobData

/-- The written form. -/
def toJson (d : JobData) : Json :=
  .object [("tenant", .text d.tenant), ("user_id", Json.ofOption Uuid.toJson d.user),
    ("timer_id", d.timer.toJson)]

/-- Reads the written form. -/
def reader : Json.Reader JobData :=
  .record [
    Json.field "tenant" .required .text fun v d => { d with tenant := v },
    Json.field "user_id" .optional (.optional (.parsed Uuid.parse?))
      fun v d => { d with user := v },
    Json.field "timer_id" .required (.parsed Uuid.parse?) fun v d => { d with timer := v }]
    default

end JobData

end Horarium
