/-
Module: Horarium.Engine.Recording
Purpose: An engine that keeps the jobs it is given and records every request, but never fires.
  Failures can be queued: each request takes the next one, if there is one, and then changes nothing
  but the record.
Trusted boundary: human-reviewed definitions
Main exports: Job, RecordingEngine, RecordingEngine.empty, RecordingEngine.job?,
  RecordingEngine.failNext, RecordingEngine.perform, RecordingEngine.answer
-/
import Horarium.Engine.Job

namespace Horarium

/-- A job as an engine holds it. -/
structure Job where
  trigger : TriggerSpec
  data : JobData
deriving DecidableEq, Inhabited

/-- The written form of a job. -/
def Job.toJson (job : Job) : Json :=
  .object [("trigger", job.trigger.toJson), ("data", job.data.toJson)]

/-- An engine that records the requests it gets. -/
structure RecordingEngine where
  jobs : List (String × Job)
  calls : List EngineRequest
  failures : List EngineError

namespace RecordingEngine

/-- The engine before its first request. -/
def empty : RecordingEngine := ⟨[], [], []⟩

/-- The job under a key. -/
def job? (engine : RecordingEngine) (key : String) : Option Job := engine.jobs.lookup key

/-- The engine whose next request without a queued failure fails with this error. -/
def failNext (engine : RecordingEngine) (error : EngineError) : RecordingEngine :=
  { engine with failures := engine.failures ++ [error] }

/-- What a request does to the jobs. -/
def perform (request : EngineRequest) (jobs : List (String × Job)) :
    Except EngineError Bool × List (String × Job) :=
  match request with
  | .register key trigger data =>
    if (jobs.lookup key).isSome then (.error (.alreadyExists key), jobs)
    else (.ok true, jobs ++ [(key, ⟨trigger, data⟩)])
  | .replace key trigger =>
    (.ok (jobs.lookup key).isSome,
      jobs.map fun (k, job) => if k = key then (k, { job with trigger }) else (k, job))
  | .remove key => (.ok (jobs.lookup key).isSome, jobs.filter fun (k, _) => k != key)

/-- One request: it is recorded, then fails if a failure is queued, else it is performed. -/
def answer (request : EngineRequest) (engine : RecordingEngine) :
    Except EngineError Bool × RecordingEngine :=
  let engine := { engine with calls := engine.calls ++ [request] }
  match engine.failures with
  | error :: failures => (.error error, { engine with failures })
  | [] =>
    let (result, jobs) := perform request engine.jobs
    (result, { engine with jobs })

instance : SchedulingEngine RecordingEngine := ⟨answer⟩

end RecordingEngine

end Horarium
