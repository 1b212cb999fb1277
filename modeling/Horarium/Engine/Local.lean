/-
Module: Horarium.Engine.Local
Purpose: The engine of one process, in virtual time. A job that repeats at an interval fires at
  every multiple of the interval since its trigger was set; cron jobs are held, and their fires are
  for the calendar, not for this clock.
Trusted boundary: human-reviewed definitions; time is virtual, and jobs run when they are due
Main exports: LocalJob, LocalEngine, FirePlan, FirePlan.ofTrigger, LocalEngine.empty,
  LocalEngine.job?, LocalEngine.answer
-/
import Horarium.Calendar.Zone.Table
import Horarium.Engine.Job

namespace Horarium

/-- A job that the local engine holds, and the millisecond at which its trigger was set. -/
structure LocalJob where
  trigger : TriggerSpec
  data : JobData
  since : Nat
deriving DecidableEq, Inhabited

/-- A fire of a job, and its millisecond. -/
structure LocalFire where
  millis : Nat
  data : JobData
deriving DecidableEq, Inhabited

/-- The written form of a fire. -/
def LocalFire.toJson (f : LocalFire) : Json :=
  .object [("at", .number f.millis), ("job", f.data.toJson)]

/-- The engine of one process: its jobs, and the millisecond that its clock shows. -/
structure LocalEngine where
  jobs : List (String × LocalJob)
  now : Nat

/-- How a job comes to fire. -/
inductive FirePlan where
  | every (millis : Nat)
  | cron (schedule : Cron.Schedule) (rule : ZoneRule)

/-- The plan of a trigger: an interval has to be positive, a zone known and an expression
well-formed. -/
def FirePlan.ofTrigger (key : String) : TriggerSpec → Except EngineError FirePlan
  | .interval millis =>
    if millis = 0 then .error (.invalidTrigger key .zeroInterval) else .ok (.every millis)
  | .cron expression zone =>
    match ZoneRule.find? zone with
    | none => .error (.invalidTrigger key (.unknownZone zone))
    | some rule => match Cron.Schedule.parse expression with
      | .error e => .error (.invalidTrigger key (.cron e))
      | .ok schedule => .ok (.cron schedule rule)

namespace LocalEngine

/-- The engine before its first job. -/
def empty : LocalEngine := ⟨[], 0⟩

/-- The job under a key. -/
def job? (engine : LocalEngine) (key : String) : Option LocalJob := engine.jobs.lookup key

/-- The trigger of the job under a key. -/
def trigger? (engine : LocalEngine) (key : String) : Option TriggerSpec :=
  (engine.job? key).map (·.trigger)

/-- One request. A key that is taken is refused before the trigger is looked at, and a key that is
free makes a replacement moot whatever the trigger. -/
def answer (request : EngineRequest) (engine : LocalEngine) :
    Except EngineError Bool × LocalEngine :=
  match request with
  | .register key trigger data =>
    if (engine.job? key).isSome then (.error (.alreadyExists key), engine)
    else match FirePlan.ofTrigger key trigger with
      | .error e => (.error e, engine)
      | .ok _ =>
        (.ok true, { engine with jobs := engine.jobs ++ [(key, ⟨trigger, data, engine.now⟩)] })
  | .replace key trigger =>
    if (engine.job? key).isNone then (.ok false, engine)
    else match FirePlan.ofTrigger key trigger with
      | .error e => (.error e, engine)
      | .ok _ =>
        (.ok true, { engine with
          jobs := engine.jobs.map fun (k, job) =>
            if k = key then (k, { job with trigger, since := engine.now }) else (k, job) })
  | .remove key =>
    (.ok (engine.job? key).isSome,
      { engine with jobs := engine.jobs.filter fun (k, _) => k != key })

instance : SchedulingEngine LocalEngine := ⟨answer⟩

/-- The fires of a job after `start` and up to `stop`. -/
def firesOf (start stop : Nat) (job : LocalJob) : List LocalFire :=
  match job.trigger with
  | .interval every =>
    let first := (start - job.since) / every + 1
    let last := (stop - job.since) / every
    (List.range' first (last + 1 - first)).map fun k => ⟨job.since + k * every, job.data⟩
  | .cron _ _ => []

/-- The order of fires: by time, and by timer at one time. -/
def fireLe (a b : LocalFire) : Bool :=
  a.millis < b.millis || (a.millis == b.millis && !b.data.timer.before a.data.timer)

/-- The engine after so many milliseconds, and the fires of that time in their order. -/
def advance (engine : LocalEngine) (millis : Nat) : List LocalFire × LocalEngine :=
  let stop := engine.now + millis
  ((engine.jobs.flatMap fun (_, job) => firesOf engine.now stop job).mergeSort fireLe,
    { engine with now := stop })

/-- The engine with all its jobs dropped. -/
def shutdown (engine : LocalEngine) : LocalEngine := { engine with jobs := [] }

end LocalEngine

end Horarium
