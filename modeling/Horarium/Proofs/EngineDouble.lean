/-
Module: Horarium.Proofs.EngineDouble
Purpose: The recording engine in the place of the local one. Both are asked the same, one request
  after the other, and any time may pass in between: the double has no clock, while the local engine
  fires its jobs. As long as no failure is queued and the triggers can be planned, both give the
  same answers and hold the same jobs, so what a service does over the one it does over the other.
Trusted boundary: none
Main exports: TimedRequest, Doubles, RecordingEngine.observed_as_local
-/
import Horarium.Proofs.Roster

namespace Horarium

/-- A request, and the milliseconds that pass before it is made. -/
structure TimedRequest where
  pause : Nat
  request : EngineRequest

/-- The double takes the request and lets no time pass. -/
def RecordingEngine.serve (engine : RecordingEngine) (timed : TimedRequest) :
    Except EngineError Bool × RecordingEngine :=
  answer timed.request engine

/-- The local engine fires what is due in the meantime, and then takes the request. -/
def LocalEngine.serve (engine : LocalEngine) (timed : TimedRequest) :
    Except EngineError Bool × LocalEngine :=
  answer timed.request (engine.advance timed.pause).2

/-- What is seen of an engine that is asked one request after the other: each answer, and the jobs
that it holds after it. -/
def observations {ε : Type} [JobEngine ε] (serve : ε → TimedRequest → Except EngineError Bool × ε) :
    ε → List TimedRequest → List (Except EngineError Bool × Roster)
  | _, [] => []
  | engine, timed :: later =>
    let (result, after) := serve engine timed
    (result, JobEngine.roster after) :: observations serve after later

/-- The double has no failure queued and holds the jobs of the local engine, in the same order. -/
structure Doubles (double : RecordingEngine) (engine : LocalEngine) : Prop where
  quiet : double.failures = []
  jobs : double.jobs = engine.entries

namespace Doubles

variable {double : RecordingEngine} {engine : LocalEngine}

theorem empty : Doubles .empty .empty := ⟨rfl, rfl⟩

theorem roster (doubles : Doubles double engine) :
    JobEngine.roster double = JobEngine.roster engine :=
  congrArg Roster.ofList doubles.jobs

/-- Time passes without a change to the jobs. -/
theorem advance (doubles : Doubles double engine) (millis : Nat) :
    Doubles double (engine.advance millis).2 :=
  ⟨doubles.quiet, doubles.jobs⟩

/-- A request that can be planned is answered alike and leaves the engines alike. -/
theorem answer (doubles : Doubles double engine) {request : EngineRequest}
    (plannable : request.Plannable) :
    (double.answer request).1 = (engine.answer request).1 ∧
      Doubles (double.answer request).2 (engine.answer request).2 := by
  have performed : ((engine.answer request).1, (engine.answer request).2.entries) =
      RecordingEngine.perform request engine.entries := LocalEngine.answer_eq_perform plannable
  rw [← doubles.jobs] at performed
  have answered : double.answer request =
      ((RecordingEngine.perform request double.jobs).1,
        ⟨(RecordingEngine.perform request double.jobs).2, double.calls ++ [request], []⟩) := by
    simp [RecordingEngine.answer, doubles.quiet]
  rw [answered, ← performed]
  exact ⟨rfl, rfl, rfl⟩

theorem serve (doubles : Doubles double engine) {timed : TimedRequest}
    (plannable : timed.request.Plannable) :
    (double.serve timed).1 = (engine.serve timed).1 ∧
      Doubles (double.serve timed).2 (engine.serve timed).2 :=
  (doubles.advance timed.pause).answer plannable

/-- Engines that are alike stay so over a whole run, by induction on the requests. -/
theorem observations_eq (doubles : Doubles double engine) {requests : List TimedRequest}
    (plannable : ∀ timed ∈ requests, timed.request.Plannable) :
    observations RecordingEngine.serve double requests =
      observations LocalEngine.serve engine requests := by
  induction requests generalizing double engine with
  | nil => rfl
  | cons timed later ih =>
    obtain ⟨answers, after⟩ := doubles.serve (plannable timed List.mem_cons_self)
    have rest := ih after fun next member => plannable next (List.mem_cons_of_mem timed member)
    simp only [observations, answers, after.roster, rest]

end Doubles

/-- Started together and asked the same, the recording engine and the local engine give the same
answers, and after every request each key has the same job in both: with the same trigger and the
same data. -/
theorem RecordingEngine.observed_as_local (requests : List TimedRequest)
    (plannable : ∀ timed ∈ requests, timed.request.Plannable) :
    observations RecordingEngine.serve .empty requests =
      observations LocalEngine.serve .empty requests :=
  Doubles.empty.observations_eq plannable

/-- A job is registered twice, moved to another schedule after it has fired, and dropped; a key that
is free is moved and dropped. -/
def rehearsal : List TimedRequest :=
  [⟨0, .register "a" (.interval 1000) ⟨"north", none, .nil⟩⟩,
    ⟨500, .register "a" (.interval 9) default⟩,
    ⟨2500, .replace "a" (.cron "0 */5 * * * ? *" "UTC")⟩, ⟨0, .replace "b" (.interval 60000)⟩,
    ⟨10, .remove "a"⟩, ⟨10, .remove "b"⟩]

theorem plannable_rehearsal : ∀ timed ∈ rehearsal, timed.request.Plannable := by
  have cron : ∃ plan, FirePlan.ofTrigger "a" (.cron "0 */5 * * * ? *" "UTC") = .ok plan := ⟨_, rfl⟩
  simp only [rehearsal, List.forall_mem_cons, List.not_mem_nil, false_imp_iff,
    implies_true, and_true]
  exact ⟨⟨_, rfl⟩, ⟨_, rfl⟩, cron, ⟨_, rfl⟩, trivial, trivial⟩

/-- In the rehearsal the local engine is seen as the recording engine is, and so it answers. -/
theorem rehearsal_observed_as_local :
    observations RecordingEngine.serve .empty rehearsal =
      observations LocalEngine.serve .empty rehearsal ∧
      (observations LocalEngine.serve .empty rehearsal).map (·.1) =
        [.ok true, .error (.alreadyExists "a"), .ok true, .ok false, .ok true, .ok false] :=
  ⟨RecordingEngine.observed_as_local rehearsal plannable_rehearsal, by
    rw [← RecordingEngine.observed_as_local rehearsal plannable_rehearsal]; rfl⟩

end Horarium
