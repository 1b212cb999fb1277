/-
Module: Horarium.Proofs.LocalAnswers
Purpose: What the local engine answers, and what an answer does to its jobs. A trigger that has been
  computed for a record has passed every check that the engine makes of it, so that the engine
  refuses such a trigger for no other reason than a key that is taken.
Trusted boundary: none
Main exports: LocalEngine.adjust, LocalEngine.drop, LocalEngine.take, LocalEngine.Answers,
  LocalEngine.Answers.unsuccessful, LocalEngine.Answers.now, LocalEngine.takes_trigger_of_record
-/
import Horarium.Proofs.Roster
import Horarium.Proofs.TriggerShape

namespace Horarium

/-- An interval that can be planned is positive. -/
theorem FirePlan.pos_of_ofTrigger {key : String} {period : Nat} {plan : FirePlan}
    (planned : FirePlan.ofTrigger key (.interval period) = .ok plan) : 0 < period := by
  rcases Nat.eq_zero_or_pos period with rfl | positive
  · simp [ofTrigger] at planned
  · exact positive

namespace LocalEngine

/-- The engine with the job of one key changed. -/
def adjust (engine : LocalEngine) (key : String) (change : LocalJob → LocalJob) : LocalEngine :=
  { engine with
    jobs := engine.jobs.map fun (k, job) => if k = key then (k, change job) else (k, job) }

/-- The engine without the job of one key. -/
def drop (engine : LocalEngine) (key : String) : LocalEngine :=
  { engine with jobs := engine.jobs.filter fun (k, _) => k != key }

/-- The engine with a job more. -/
def take (engine : LocalEngine) (key : String) (job : LocalJob) : LocalEngine :=
  { engine with jobs := engine.jobs ++ [(key, job)] }

/-- What the engine answers to a request and what becomes of it. The engine is the same as before
wherever the answer is not that something has been changed. -/
inductive Answers (engine : LocalEngine) :
    EngineRequest → Except EngineError Bool → LocalEngine → Prop where
  | taken {key : String} {trigger : TriggerSpec} {data : JobData} {job : LocalJob}
      (held : engine.job? key = some job) :
      Answers engine (.register key trigger data) (.error (.alreadyExists key)) engine
  | unregistered {key : String} {trigger : TriggerSpec} {data : JobData} {error : EngineError}
      (free : engine.job? key = none) (fault : FirePlan.ofTrigger key trigger = .error error) :
      Answers engine (.register key trigger data) (.error error) engine
  | registered {key : String} {trigger : TriggerSpec} {data : JobData} {plan : FirePlan}
      (free : engine.job? key = none) (planned : FirePlan.ofTrigger key trigger = .ok plan) :
      Answers engine (.register key trigger data) (.ok true)
        (engine.take key ⟨trigger, data, engine.now⟩)
  | unmoved {key : String} {trigger : TriggerSpec} (free : engine.job? key = none) :
      Answers engine (.replace key trigger) (.ok false) engine
  | unreplaced {key : String} {trigger : TriggerSpec} {job : LocalJob} {error : EngineError}
      (held : engine.job? key = some job) (fault : FirePlan.ofTrigger key trigger = .error error) :
      Answers engine (.replace key trigger) (.error error) engine
  | replaced {key : String} {trigger : TriggerSpec} {job : LocalJob} {plan : FirePlan}
      (held : engine.job? key = some job) (planned : FirePlan.ofTrigger key trigger = .ok plan) :
      Answers engine (.replace key trigger) (.ok true)
        (engine.adjust key fun job => { job with trigger, since := engine.now })
  | unknown {key : String} (free : engine.job? key = none) :
      Answers engine (.remove key) (.ok false) engine
  | removed {key : String} {job : LocalJob} (held : engine.job? key = some job) :
      Answers engine (.remove key) (.ok true) (engine.drop key)

variable {engine : LocalEngine} {key other : String}

/-- Where no job is under a key, there is nothing to drop. -/
theorem drop_of_free (free : engine.job? key = none) : engine.drop key = engine := by
  have kept : engine.jobs.filter (fun (k, _) => k != key) = engine.jobs := by
    rw [List.filter_eq_self]
    rintro ⟨k, job⟩ member
    have apart := List.lookup_eq_none_iff.mp free (k, job) member
    exact bne_iff_ne.mpr (bne_iff_ne.mp apart).symm
  rw [drop, kept]

/-- Every answer is one of these. -/
theorem answers (engine : LocalEngine) (request : EngineRequest) :
    engine.Answers request (engine.answer request).1 (engine.answer request).2 := by
  cases request with
  | register key trigger data =>
    cases found : engine.job? key with
    | some job => simpa [answer, found] using Answers.taken found
    | none =>
      cases planned : FirePlan.ofTrigger key trigger with
      | error error => simpa [answer, found, planned] using Answers.unregistered found planned
      | ok plan =>
        have registered : engine.Answers (.register key trigger data) (.ok true)
            (engine.take key ⟨trigger, data, engine.now⟩) := .registered found planned
        simpa [answer, found, planned, take] using registered
  | replace key trigger =>
    cases found : engine.job? key with
    | none => simpa [answer, found] using Answers.unmoved found
    | some job =>
      cases planned : FirePlan.ofTrigger key trigger with
      | error error => simpa [answer, found, planned] using Answers.unreplaced found planned
      | ok plan => simpa [answer, found, planned, adjust] using Answers.replaced found planned
  | remove key =>
    have dropped : engine.answer (.remove key) = (.ok (engine.job? key).isSome, engine.drop key) :=
      rfl
    rw [dropped]
    cases found : engine.job? key with
    | none =>
      rw [drop_of_free found]
      exact .unknown found
    | some job => exact .removed found

namespace Answers

variable {after : LocalEngine} {request : EngineRequest} {result : Except EngineError Bool}

/-- A request that is not answered with success leaves the engine as it is. -/
theorem unsuccessful (answers : engine.Answers request result after) (failed : result ≠ .ok true) :
    after = engine := by
  cases answers with
  | registered | replaced | removed => exact absurd rfl failed
  | taken | unregistered | unmoved | unreplaced | unknown => rfl

/-- No answer moves the clock. -/
theorem now (answers : engine.Answers request result after) : after.now = engine.now := by
  cases answers <;> rfl

end Answers

/-- The engine takes the trigger for a job of this key. A registration is refused for the key alone,
and the job that is registered or moved has the trigger. -/
structure Takes (engine : LocalEngine) (key : String) (trigger : TriggerSpec) : Prop where
  register_error : ∀ data error, (engine.answer (.register key trigger data)).1 = .error error ↔
    (engine.job? key).isSome ∧ error = .alreadyExists key
  registered : ∀ data, engine.job? key = none →
    (engine.answer (.register key trigger data)).2.job? key = some ⟨trigger, data, engine.now⟩
  replace : (engine.answer (.replace key trigger)).1 = .ok (engine.job? key).isSome
  replaced : ∀ job, engine.job? key = some job →
    (engine.answer (.replace key trigger)).2.job? key = some { job with
      trigger, since := engine.now }

theorem job?_take (free : engine.job? key = none) (job : LocalJob) :
    (engine.take key job).job? key = some job := by
  have absent : engine.jobs.lookup key = none := free
  simp [job?, take, List.lookup_append, absent]

theorem job?_adjust (engine : LocalEngine) (key : String) (change : LocalJob → LocalJob) :
    (engine.adjust key change).job? key = (engine.job? key).map change := by
  unfold adjust job?
  induction engine.jobs with
  | nil => rfl
  | cons entry jobs ih =>
    obtain ⟨k, job⟩ := entry
    by_cases same : k = key
    · simp [same]
    · have apart : (key == k) = false := beq_eq_false_iff_ne.mpr (Ne.symm same)
      simpa [same, List.lookup_cons, apart] using ih

/-- A trigger for which the engine has a plan is one that it takes. -/
theorem takes_of_planned {trigger : TriggerSpec} {plan : FirePlan}
    (planned : FirePlan.ofTrigger key trigger = .ok plan) (engine : LocalEngine) :
    engine.Takes key trigger where
  register_error data error := by
    cases found : engine.job? key <;> simp [answer, found, planned, eq_comm]
  registered data free := by
    have taken : (engine.answer (.register key trigger data)).2 =
        engine.take key ⟨trigger, data, engine.now⟩ := by
      simp [answer, free, planned, take]
    rw [taken, job?_take free]
  replace := by
    cases found : engine.job? key <;> simp [answer, found, planned]
  replaced job held := by
    have moved : (engine.answer (.replace key trigger)).2 =
        engine.adjust key fun job => { job with trigger, since := engine.now } := by
      simp [answer, held, planned, adjust]
    rw [moved, job?_adjust, held, Option.map_some]

/-- Whatever trigger a record has, the local engine has a plan for it under every key and takes
it. -/
theorem takes_trigger_of_record {record : TimerRecord} {trigger : TriggerSpec}
    (computed : record.trigger = .ok trigger) (key : String) :
    (∃ plan, FirePlan.ofTrigger key trigger = .ok plan) ∧
    ∀ engine : LocalEngine, engine.Takes key trigger := by
  obtain ⟨plan, planned⟩ := TimerRecord.plan_of_trigger computed key
  exact ⟨⟨plan, planned⟩, takes_of_planned planned⟩

/-- A timer that goes off every quarter of an hour in the office hours of Berlin, with blanks around
its five-field expression. -/
def officeHours : TimerRecord :=
  .ofModule "mod-1.0.0" ⟨["POST"], none, some "/run", none,
    some ⟨" */15 8-18 ? * mon-fri ", some "Europe/Berlin"⟩⟩

theorem officeHours_taken :
    officeHours.trigger = .ok (.cron "0 */15 8-18 ? * mon-fri *" "Europe/Berlin") ∧
      ∀ engine : LocalEngine, engine.Takes "timer:7"
        (.cron "0 */15 8-18 ? * mon-fri *" "Europe/Berlin") := by
  have computed : officeHours.trigger =
      .ok (.cron "0 */15 8-18 ? * mon-fri *" "Europe/Berlin") := by decide +kernel
  exact ⟨computed, (takes_trigger_of_record computed "timer:7").2⟩

end LocalEngine

end Horarium
