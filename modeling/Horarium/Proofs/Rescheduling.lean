/-
Module: Horarium.Proofs.Rescheduling
Purpose: Rescheduling: the engine is moved from one version of a timer to the next. Where the engine
  does what it is asked, the job under the timer's id is afterwards what the next version asks for;
  where it refuses, whatever its reason, no job has changed.
Trusted boundary: none
Main exports: Reconcile.Rescheduled, Reconcile.reschedule_moves, TimerRecord.trigger_iff_of_shape
-/
import Horarium.Proofs.Exchanges
import Horarium.Proofs.History
import Horarium.Proofs.TenantAgreement

namespace Horarium

/-- An engine that performs each request or refuses it, and keeps its jobs when it refuses. -/
class FaithfulEngine (ε : Type) extends JobEngine ε where
  performs_or_refuses : ∀ (request : EngineRequest) (engine : ε),
    JobEngine.Performs engine request ∨ ∃ e, JobEngine.Refuses engine request e

instance : FaithfulEngine RecordingEngine where
  performs_or_refuses request engine := by
    cases queued : engine.failures with
    | nil => exact .inl (RecordingEngine.performs queued request)
    | cons e failures => exact .inr ⟨e, RecordingEngine.refuses queued request⟩

/-- What cannot be planned is refused, unless there is no job to give it to. -/
theorem LocalEngine.performs_or_refuses (request : EngineRequest) (engine : LocalEngine) :
    JobEngine.Performs engine request ∨ ∃ e, JobEngine.Refuses engine request e := by
  by_cases plannable : request.Plannable
  · exact .inl (performs plannable)
  have refuses : ∀ e, answer request engine = (.error e, engine) →
      JobEngine.Refuses engine request e := by
    intro e answered
    have same : SchedulingEngine.answer request engine = (.error e, engine) := answered
    simp [JobEngine.Refuses, same]
  cases request with
  | register key trigger data =>
    right
    cases planned : FirePlan.ofTrigger key trigger with
    | ok plan => exact absurd ⟨plan, planned⟩ plannable
    | error e =>
      cases taken : (engine.job? key).isSome with
      | true => exact ⟨.alreadyExists key, refuses _ (by simp [answer, taken])⟩
      | false => exact ⟨e, refuses _ (by simp [answer, taken, planned])⟩
  | replace key trigger =>
    cases planned : FirePlan.ofTrigger key trigger with
    | ok plan => exact absurd ⟨plan, planned⟩ plannable
    | error e =>
      cases held : engine.job? key with
      | some job => exact .inr ⟨e, refuses _ (by simp [answer, held, planned])⟩
      | none =>
        have free : JobEngine.roster engine key = none := by
          show engine.entries.lookup key = none
          rw [lookup_entries, held, Option.map_none]
        have same :
            SchedulingEngine.answer (.replace key trigger) engine = (.ok false, engine) := by
          show answer (.replace key trigger) engine = _
          simp [answer, held]
        exact .inl (by simp [JobEngine.Performs, same, Roster.answer, free])
  | remove key => exact absurd trivial plannable

instance : FaithfulEngine LocalEngine := ⟨LocalEngine.performs_or_refuses⟩

/-- A request that is answered with an error has changed no job. -/
theorem Roster.eq_of_answer_error {request : EngineRequest} {roster : Roster} {e : EngineError}
    (failed : (answer request roster).1 = .error e) : (answer request roster).2 = roster := by
  cases request with
  | register key trigger data => cases held : roster key <;> simp [answer, held] at failed ⊢
  | replace key trigger => cases held : roster key <;> simp [answer, held] at failed
  | remove key => simp [answer] at failed

/-- Where there is no job to replace, none has changed. -/
theorem Roster.eq_of_replace_false {key : String} {trigger : TriggerSpec} {roster : Roster}
    (unfound : (answer (.replace key trigger) roster).1 = .ok false) :
    (answer (.replace key trigger) roster).2 = roster := by
  cases held : roster key <;> simp [answer, held] at unfound ⊢

namespace FaithfulEngine

variable {ε : Type} [FaithfulEngine ε] {request : EngineRequest} {engine : ε}

theorem performs_of_ok {done : Bool}
    (succeeded : (SchedulingEngine.answer request engine).1 = .ok done) :
    JobEngine.Performs engine request := by
  rcases performs_or_refuses request engine with performs | ⟨e, refuses⟩
  · exact performs
  · have failed := (Prod.mk.inj refuses).1
    simp [succeeded] at failed

theorem roster_of_error {e : EngineError}
    (failed : (SchedulingEngine.answer request engine).1 = .error e) :
    JobEngine.roster (SchedulingEngine.answer request engine).2 = JobEngine.roster engine := by
  rcases performs_or_refuses request engine with performs | ⟨_, refuses⟩
  · obtain ⟨answered, held⟩ := Prod.mk.inj performs
    exact held.trans (Roster.eq_of_answer_error (answered.symm.trans failed))
  · exact (Prod.mk.inj refuses).2

theorem roster_of_unfound {key : String} {trigger : TriggerSpec}
    (unfound : (SchedulingEngine.answer (.replace key trigger) engine).1 = .ok false) :
    JobEngine.roster (SchedulingEngine.answer (.replace key trigger) engine).2 =
      JobEngine.roster engine := by
  obtain ⟨answered, held⟩ := Prod.mk.inj (performs_of_ok unfound)
  exact held.trans (Roster.eq_of_replace_false (answered.symm.trans unfound))

end FaithfulEngine

/-! ### What the engine refuses -/

/-- What the engine has refused, and why. -/
def AnsweredRequest.refusal? : AnsweredRequest → Option (EngineRequest × EngineError)
  | ⟨.engine request, .error e⟩ => some (request, e)
  | _ => none

theorem Procedure.ended_ofExcept {δ η α : Type} (f : η → δ) (result : Except η α) :
    (ofExcept f result).Ended := by
  cases result <;> trivial

namespace World

variable {ε δ α β : Type}

section Refusals

variable [SchedulingEngine ε] {world : World MemoryStore ε}

/-- The requests of a procedure that the engine refuses, the first one first. -/
def refusals (world : World MemoryStore ε) (p : Procedure δ α) :
    List (EngineRequest × EngineError) :=
  (world.exchanges p).filterMap (·.refusal?)

/-- The world after the engine has been asked. -/
def told (world : World MemoryStore ε) (request : EngineRequest) : World MemoryStore ε :=
  (world.answer (.engine request)).2

theorem refusals_of_error {request : EngineRequest} {next : Except EngineError Bool → Procedure δ α}
    {e : EngineError} (failed : (SchedulingEngine.answer request world.engine).1 = .error e) :
    world.refusals (.ask (.engine request) next) =
      (request, e) :: (world.told request).refusals (next (.error e)) := by
  simp [refusals, exchanges, answer, told, failed, AnsweredRequest.refusal?]

theorem refusals_of_ok {request : EngineRequest} {next : Except EngineError Bool → Procedure δ α}
    {done : Bool} (succeeded : (SchedulingEngine.answer request world.engine).1 = .ok done) :
    world.refusals (.ask (.engine request) next) =
      (world.told request).refusals (next (.ok done)) := by
  simp [refusals, exchanges, answer, told, succeeded, AnsweredRequest.refusal?]

theorem refusals_of_ended {p : Procedure δ α} (ended : p.Ended) : world.refusals p = [] := by
  cases p with
  | done a => rfl
  | fail e => rfl
  | ask request next => exact ended.elim

theorem run_ofExcept (world : World MemoryStore ε) (result : Except δ α) :
    world.run (.ofExcept (fun e => e) result) = (result, world) := by
  cases result <;> rfl

end Refusals

/-- Where nothing is refused, everything is performed. -/
theorem runs_of_no_refusals [FaithfulEngine ε] {world : World MemoryStore ε} {p : Procedure δ α}
    (only : p.Asks Request.IsEngine) (unrefused : world.refusals p = []) :
    World.Runs Circumstances.steady.Admits world p (world.run p).1 (world.run p).2 := by
  induction only generalizing world with
  | done a => exact .done world a
  | fail e => exact .fail world e
  | @ask request next here _ ih =>
    cases request with
    | engine request =>
      cases answered : (SchedulingEngine.answer request world.engine).1 with
      | error e => simp [refusals_of_error answered] at unrefused
      | ok done =>
        rw [refusals_of_ok answered] at unrefused
        refine .ask (fun _ => .inl (FaithfulEngine.performs_of_ok answered)) (ih _ ?_)
        have same : (world.answer (.engine request)).1 = .ok done := answered
        rw [same]
        exact unrefused
    | store request => exact here.elim
    | now => exact here.elim
    | newId => exact here.elim

end World

/-! ### One version after the other -/

theorem TimerRecord.Schedulable.of_trigger {record : TimerRecord}
    (computable : ∃ trigger, record.trigger = .ok trigger) : record.Schedulable := by
  intro entry declared _
  simpa [TimerRecord.trigger, declared] using computable

/-- What is in line stays so from one version to the next, which has to have a trigger only while it
is active. -/
theorem InLine.settle_version {tenant : String} {ctx : Context} {id : Uuid} {old new : TimerRecord}
    {job : Option Job} (inLine : InLine tenant (some old) job)
    (computable : new.isActive = true → ∃ trigger, new.trigger = .ok trigger) :
    InLine tenant (some new) (Horarium.settle ctx id (some old) (some new) job) := by
  cases active : new.isActive with
  | true =>
    refine inLine.settle ?_ (by simp)
    rintro _ ⟨⟩
    exact .of_trigger (computable active)
  | false =>
    have unasked : demandOf (some new) = none := TimerRecord.demand_of_inactive active
    rw [inLine_inactive active]
    by_cases asked : demandOf (some old) = none
    · rw [settle_of_demand_eq (asked.trans unasked.symm)]
      exact (inLine_inactive (TimerRecord.demand_eq_none_iff.mp asked)).mp inLine
    · exact settle_drop asked unasked

namespace Reconcile

variable {ε : Type} [FaithfulEngine ε] {world : World MemoryStore ε} {ctx : Context} {id : Uuid}
  {record old new : TimerRecord} {α β : Type}

/-- How a procedure ends whose request the engine refuses. A job that is there already is as good as
one that is registered. -/
def verdict (key : String) (a : α) : EngineRequest → EngineError → Except TriggerError α
  | .register _ _ _, .alreadyExists _ => .ok a
  | _, e => .error (.schedulingFailure key e)

theorem map_verdict (key : String) (a : α) (b : β) (request : EngineRequest) (e : EngineError) :
    (verdict key a request e).map (fun _ => b) = verdict key b request e := by
  unfold verdict
  split <;> rfl

/-- A refusal ends the procedure, and no job has changed by then. -/
def GivesUp (world : World MemoryStore ε) (key : String) (a : α) (p : Procedure TriggerError α) :
    Prop :=
  ∀ request e, (request, e) ∈ world.refusals p →
    (world.run p).1 = verdict key a request e ∧ (world.run p).2.roster = world.roster

theorem GivesUp.of_ended {key : String} {a : α} {p : Procedure TriggerError α} (ended : p.Ended) :
    GivesUp world key a p := by
  intro request e refused
  simp [World.refusals_of_ended ended] at refused

/-- A refusal of the first request ends the procedure; else it depends on what follows, which is
asked of an engine with the same jobs, if anything is asked at all. -/
theorem GivesUp.ask {key : String} {a : α} {request : EngineRequest}
    {next : Except EngineError Bool → Procedure TriggerError α}
    (ends : ∀ e, next (.error e) = .ofExcept (fun e => e) (verdict key a request e))
    (goes : ∀ done, (SchedulingEngine.answer request world.engine).1 = .ok done →
      (next (.ok done)).Ended ∨ (world.told request).roster = world.roster ∧
      GivesUp (world.told request) key a (next (.ok done))) :
    GivesUp world key a (.ask (.engine request) next) := by
  intro refused e member
  have run : world.run (.ask (.engine request) next) =
    (world.told request).run (next (SchedulingEngine.answer request world.engine).1) := rfl
  cases answered : (SchedulingEngine.answer request world.engine).1 with
  | error cause =>
    rw [World.refusals_of_error answered, ends,
      World.refusals_of_ended (Procedure.ended_ofExcept _ _), List.mem_singleton] at member
    obtain ⟨rfl, rfl⟩ := Prod.mk.inj member
    rw [run, answered, ends, World.run_ofExcept]
    exact ⟨rfl, FaithfulEngine.roster_of_error answered⟩
  | ok done =>
    rw [World.refusals_of_ok answered] at member
    rw [run, answered]
    rcases goes done answered with ended | ⟨kept, later⟩
    · simp [World.refusals_of_ended ended] at member
    · obtain ⟨result, roster⟩ := later refused e member
      exact ⟨result, roster.trans kept⟩

theorem GivesUp.bind_done {key : String} {a : α} {p : Procedure TriggerError α}
    (givesUp : GivesUp world key a p) (b : β) : GivesUp world key b (p >>= fun _ => .done b) := by
  intro request e refused
  unfold World.refusals at refused
  rw [World.exchanges_bind_done] at refused
  obtain ⟨result, roster⟩ := givesUp request e refused
  rw [World.run_bind_done, result, map_verdict]
  exact ⟨rfl, roster⟩

theorem schedule_givesUp (named : record.id = some id)
    (computable : record.isActive = true → ∃ trigger, record.trigger = .ok trigger) :
    GivesUp world id.toText false (schedule ctx record) := by
  unfold schedule
  cases active : record.isActive with
  | false => exact .of_ended trivial
  | true =>
    obtain ⟨trigger, computed⟩ := computable active
    simp only [Bool.not_true, Bool.false_eq_true, if_false, named, computed]
    refine .ask (fun e => ?_) fun done _ => .inl trivial
    cases e <;> rfl

theorem unschedule_givesUp (named : record.id = some id) :
    GivesUp world id.toText ⟨⟩ (unschedule record) := by
  unfold unschedule
  cases active : record.isActive with
  | false => exact .of_ended trivial
  | true =>
    simp only [Bool.not_true, Bool.false_eq_true, if_false, TimerRecord.jobKey?, named,
      Option.map_some]
    exact .ask (fun _ => rfl) fun _ _ => .inl trivial

theorem replace_givesUp (named : record.id = some id)
    (computable : record.isActive = true → ∃ trigger, record.trigger = .ok trigger)
    (active : record.isActive = true) : GivesUp world id.toText ⟨⟩ (replace ctx record) := by
  obtain ⟨trigger, computed⟩ := computable active
  unfold replace
  simp only [TimerRecord.jobKey?, named, Option.map_some, computed]
  refine .ask (fun _ => rfl) fun done answered => ?_
  cases done with
  | true => exact .inl trivial
  | false =>
    exact .inr ⟨FaithfulEngine.roster_of_unfound answered,
      (schedule_givesUp named computable).bind_done _⟩

/-- Whichever of its requests the engine refuses, rescheduling ends with it and no job has
changed. -/
theorem reschedule_givesUp (known : old.id = some id) (named : new.id = some id)
    (computable : new.isActive = true → ∃ trigger, new.trigger = .ok trigger) :
    GivesUp world id.toText ⟨⟩ (reschedule ctx old new) := by
  unfold reschedule
  split
  · exact .of_ended trivial
  · exact unschedule_givesUp known
  · exact (schedule_givesUp named computable).bind_done _
  · rename_i active
    split
    · exact .of_ended trivial
    · exact replace_givesUp named computable active

/-- Where nothing is refused, rescheduling settles the job. Whether the next version has a trigger
matters only while it is active. -/
theorem reschedule_settles (known : old.id = some id) (named : new.id = some id)
    (computable : new.isActive = true → ∃ trigger, new.trigger = .ok trigger)
    (unrefused : world.refusals (reschedule ctx old new) = []) :
    (world.run (reschedule ctx old new)).1 = .ok ⟨⟩ ∧
      Settles ctx id (some old) (some new) world (world.run (reschedule ctx old new)).2 := by
  have runs := World.runs_of_no_refusals (reschedule_asks old new) unrefused
  have reconciled : Reconciled .steady ctx id (some old) (some new) world
      (world.run (reschedule ctx old new)).1 (world.run (reschedule ctx old new)).2 := by
    cases active : new.isActive with
    | true => exact reschedule_reconciled known named (.of_trigger (computable active)) runs
    | false =>
      have drops : reschedule ctx old new = unschedule old := by
        unfold reschedule unschedule
        cases wasActive : old.isActive <;> simp [active]
      rw [drops] at runs ⊢
      exact (unschedule_reconciled known runs).of_unasked (TimerRecord.demand_of_inactive active)
  rcases reconciled with ⟨⟨_, succeeded⟩, settles⟩ | ⟨_, outage, _⟩
  · exact ⟨succeeded, settles⟩
  · exact outage.elim

/-- How rescheduling moves an engine from one version of a timer to the next. -/
structure Rescheduled (ctx : Context) (id : Uuid) (old new : TimerRecord)
    (world : World MemoryStore ε) (outcome : Except TriggerError PUnit)
    (after : World MemoryStore ε) : Prop where
  succeeds : world.refusals (reschedule ctx old new) = [] → outcome = .ok ⟨⟩
  /-- The job was what the version before asked for, and is what the next one asks for. -/
  inLine : world.refusals (reschedule ctx old new) = [] →
    InLine ctx.tenant (some old) (world.roster id.toText) →
      InLine ctx.tenant (some new) (after.roster id.toText)
  others : ∀ key, key ≠ id.toText → after.roster key = world.roster key
  /-- Where nothing else is asked for, the engine is left alone. -/
  idle : old.isActive = false ∧ new.isActive = false ∨
      old.isActive = true ∧ new.isActive = true ∧ TriggerShape.of old = TriggerShape.of new →
    world.exchanges (reschedule ctx old new) = []
  /-- A job that the engine has lost is registered anew, if another one is asked for. -/
  restored : world.refusals (reschedule ctx old new) = [] → old.isActive = true →
    new.isActive = true →
    TriggerShape.of old ≠ TriggerShape.of new → world.roster id.toText = none →
      ∃ trigger, new.trigger = .ok trigger ∧ after.roster id.toText =
        some ⟨trigger, jobData ctx new id⟩
  refused : ∀ request e, (request, e) ∈ world.refusals (reschedule ctx old new) →
    outcome = verdict id.toText ⟨⟩ request e ∧ after.roster = world.roster

/-- Rescheduling moves every engine from one version of a timer to the next. -/
theorem reschedule_moves (known : old.id = some id) (named : new.id = some id)
    (computable : new.isActive = true → ∃ trigger, new.trigger = .ok trigger) (ctx : Context)
    (world : World MemoryStore ε) :
    Rescheduled ctx id old new world (world.run (reschedule ctx old new)).1
      (world.run (reschedule ctx old new)).2 where
  succeeds unrefused := (reschedule_settles known named computable unrefused).1
  inLine unrefused inLine := by
    rw [(reschedule_settles known named computable unrefused).2.roster, Function.update_self]
    exact inLine.settle_version computable
  others key apart := by
    cases refusals : world.refusals (reschedule ctx old new) with
    | nil =>
      obtain ⟨_, settles⟩ := reschedule_settles known named computable refusals
      rw [settles.roster, Function.update_of_ne apart]
    | cons refusal later =>
      have member : refusal ∈ world.refusals (reschedule ctx old new) := by simp [refusals]
      rw [(reschedule_givesUp known named computable refusal.1 refusal.2 member).2]
  idle unasked := by
    have drops : reschedule ctx old new = .done ⟨⟩ := by
      unfold reschedule
      rcases unasked with ⟨wasInactive, inactive⟩ | ⟨wasActive, active, same⟩
      · simp [wasInactive, inactive]
      · simp [wasActive, active, same]
    rw [drops]
    rfl
  restored unrefused wasActive active differs lost := by
    obtain ⟨_, settles⟩ := reschedule_settles known named computable unrefused
    obtain ⟨trigger, computed⟩ := computable active
    have asksElse : demandOf (some old) ≠ new.demand := by
      simpa [TimerRecord.demand_of_active wasActive, TimerRecord.demand_of_active active]
        using differs
    refine ⟨trigger, computed, ?_⟩
    rw [settles.roster, Function.update_self, lost, settle_register asksElse active computed]
  refused := reschedule_givesUp known named computable

end Reconcile

/-- Records of one shape have the same trigger or none, so the engine may be left alone from one to
the other. -/
theorem TimerRecord.trigger_iff_of_shape {first second : TimerRecord}
    (same : TriggerShape.of first = TriggerShape.of second) :
    (∀ trigger, first.trigger = .ok trigger ↔ second.trigger = .ok trigger) ∧
      ∀ {ε : Type} [JobEngine ε] (ctx : Context) (id : Uuid) (world : World MemoryStore ε),
        first.isActive = true → second.isActive = true →
          InLine ctx.tenant (some first) (world.roster id.toText) →
            world.run (Reconcile.reschedule ctx first second) = (.ok ⟨⟩, world) ∧
              InLine ctx.tenant (some second) (world.roster id.toText) := by
  refine ⟨fun trigger => ⟨trigger_congr same, trigger_congr same.symm⟩, ?_⟩
  intro ε _ ctx id world active otherActive inLine
  have demands : first.demand = second.demand := by
    rw [demand_of_active active, demand_of_active otherActive, same]
  have idle : Reconcile.reschedule ctx first second = .done ⟨⟩ := by
    simp [Reconcile.reschedule, active, otherActive, same]
  rw [idle]
  exact ⟨rfl, (inLine_congr demands).mp inLine⟩

/-! ### A timer that is moved to another rhythm -/

/-- A timer that fires every minute. -/
def everyMinute : TimerRecord := { TimerRecord.minutely with id := some (.ofBits 7) }

/-- Its next version, which fires every hour. -/
def everyHour : TimerRecord :=
  { everyMinute with routingEntry := some ⟨["POST"], none, some "/run", some ⟨"1", .hour⟩, none⟩ }

/-- The caller for whom it is moved. -/
def mover : Context := ⟨"north", none, none⟩

/-- An engine that has the job of the first version. -/
def ticking : World MemoryStore RecordingEngine :=
  (vacant.run (Reconcile.schedule mover everyMinute)).2

theorem hourly_version_followed :
    InLine "north" (some everyHour)
        ((ticking.run (Reconcile.reschedule mover everyMinute everyHour)).2.roster
          (Uuid.ofBits 7).toText) ∧
      (vacant.run (Reconcile.reschedule mover everyMinute everyHour)).2.roster
          (Uuid.ofBits 7).toText =
        some ⟨.interval 3600000, ⟨"north", none, .ofBits 7⟩⟩ ∧
      (ticking.impaired.run (Reconcile.reschedule mover everyMinute everyHour)).1 =
        .error (.schedulingFailure (Uuid.ofBits 7).toText (.unavailable "connection refused")) := by
  have hourly : everyHour.trigger = .ok (.interval 3600000) := by decide +kernel
  have moves : ∀ world : World MemoryStore RecordingEngine,
      Reconcile.Rescheduled mover (.ofBits 7) everyMinute everyHour world _ _ :=
    Reconcile.reschedule_moves rfl rfl (fun _ => ⟨_, hourly⟩) mover
  refine ⟨?_, ?_, ?_⟩
  · have held : ticking.roster (Uuid.ofBits 7).toText =
        some ⟨.interval 60000, ⟨"north", none, .ofBits 7⟩⟩ := by
      decide +kernel
    have inLine : InLine "north" (some everyMinute) (ticking.roster (Uuid.ofBits 7).toText) :=
      (inLine_active (by decide +kernel)).mpr ⟨_, held, by decide +kernel⟩
    exact (moves ticking).inLine (by decide +kernel) inLine
  · obtain ⟨trigger, computed, registered⟩ :=
      (moves vacant).restored (by decide +kernel) (by decide +kernel)
      (by decide +kernel) (by decide +kernel) (by decide +kernel)
    obtain rfl := Except.ok.inj (hourly.symm.trans computed)
    exact registered
  · exact ((moves ticking.impaired).refused (.replace (Uuid.ofBits 7).toText (.interval 3600000))
      (.unavailable "connection refused") (by decide +kernel)).1

/-- A timer that fires at six in the morning on weekdays, with no zone. -/
def weekdayMornings : TimerRecord :=
  .ofModule "mod-1.0.0" ⟨["POST"], none, some "/run", none, some ⟨"0 6 * * 1-5", none⟩⟩

/-- The same with an ideographic space for a zone and others around the expression. -/
def spacedMornings : TimerRecord :=
  .ofModule "mod-1.0.0" ⟨["POST"], none, some "/run", none,
    some ⟨"\u3000 0 6 * * 1-5\u2003", some "\u3000"⟩⟩

theorem spaced_trigger_same : TriggerShape.of weekdayMornings = TriggerShape.of spacedMornings ∧
    spacedMornings.trigger = .ok (.cron "0 0 6 ? * 2-6 *" "UTC") := by
  have same : TriggerShape.of weekdayMornings = TriggerShape.of spacedMornings := by decide +kernel
  exact ⟨same, ((TimerRecord.trigger_iff_of_shape same).1 _).mp (by decide +kernel)⟩

end Horarium
