/-
Module: Horarium.Proofs.Reconciliation
Purpose: What bringing the engine in line does to the engine, whatever the engine does with its
  other jobs: the job under the record's id is settled, or the engine was unavailable and all jobs
  are as they were.
Trusted boundary: none; what is assumed of ids and engine is put into `Circumstances`
Main exports: World.roster, Circumstances, Circumstances.Admits, Settles, Stalls, Reconciled,
  Reconcile.unschedule_reconciled
-/
import Horarium.Proofs.Runs
import Horarium.Proofs.Settlement
import Horarium.Proofs.StoredRecords

namespace Horarium

namespace World

variable {σ ε : Type} [JobEngine ε]

/-- The jobs that the engine of the world holds. -/
def roster (world : World σ ε) : Roster := JobEngine.roster world.engine

end World

/-- What may happen outside while procedures run: whether the engine may be unavailable, and which
ids may be generated given what is stored and which jobs there are. An id that some tenant has
stored is never generated again. -/
structure Circumstances where
  outage : Prop
  mayGenerate : MemoryStore → Roster → Uuid → Prop
  unstored : ∀ {store roster id}, mayGenerate store roster id →
    ∀ tenant, store.stored tenant id = none

variable {ε : Type} [JobEngine ε]

/-- The circumstances allow what happens to the request. The engine performs what can be planned, or
is unavailable and keeps its jobs; each time it may be either. -/
def Circumstances.Admits (c : Circumstances) (world : World MemoryStore ε) : Request → Prop
  | .engine request => request.Plannable → JobEngine.Performs world.engine request ∨
      c.outage ∧ ∃ detail, JobEngine.Refuses world.engine request (.unavailable detail)
  | .newId => c.mayGenerate world.store world.roster (world.sources.idAt (world.sources.ids + 1))
  | _ => True

variable {c : Circumstances} {world after : World MemoryStore ε} {ctx : Context} {id : Uuid}
  {old new : Option TimerRecord} {record : TimerRecord}

/-- The job under the id has been settled, and nothing else has changed. -/
structure Settles (ctx : Context) (id : Uuid) (old new : Option TimerRecord)
    (world after : World MemoryStore ε) : Prop where
  store : after.store = world.store
  roster : after.roster =
    Function.update world.roster id.toText (settle ctx id old new (world.roster id.toText))

/-- Something was asked of the engine in vain. -/
structure Stalls (old new : Option TimerRecord) (world after : World MemoryStore ε) : Prop where
  store : after.store = world.store
  roster : after.roster = world.roster
  differs : demandOf old ≠ demandOf new

/-- How bringing the engine in line with the next version of a record ends. -/
def Reconciled {α : Type} (c : Circumstances) (ctx : Context) (id : Uuid)
    (old new : Option TimerRecord) (world : World MemoryStore ε) (outcome : Except TriggerError α)
    (after : World MemoryStore ε) :
    Prop :=
  (∃ a, outcome = .ok a) ∧ Settles ctx id old new world after ∨
    (∃ detail, outcome = .error (.schedulingFailure id.toText (.unavailable detail))) ∧
      c.outage ∧ Stalls old new world after

/-- Where the next version asks for what the one before asked for, doing nothing settles the job. -/
theorem Settles.of_demand_eq (same : demandOf old = demandOf new) :
    Settles ctx id old new world world := by
  refine ⟨rfl, ?_⟩
  rw [settle_of_demand_eq same, Function.update_eq_self]

theorem Settles.congr {other : Option TimerRecord} (settles : Settles ctx id old new world after)
    (same : demandOf old = demandOf other) : Settles ctx id other new world after := by
  refine ⟨settles.store, ?_⟩
  rw [settles.roster, settle_congr same]

theorem Reconciled.congr {α : Type} {outcome : Except TriggerError α} {other : Option TimerRecord}
    (reconciled : Reconciled c ctx id old new world outcome after)
    (same : demandOf old = demandOf other) : Reconciled c ctx id other new world outcome after := by
  rcases reconciled with ⟨succeeded, settles⟩ | ⟨failed, outage, stalls⟩
  · exact .inl ⟨succeeded, settles.congr same⟩
  · exact .inr ⟨failed, outage, stalls.store, stalls.roster, same ▸ stalls.differs⟩

theorem Settles.of_unasked (settles : Settles ctx id old none world after)
    (unasked : demandOf new = none) : Settles ctx id old new world after := by
  refine ⟨settles.store, ?_⟩
  rw [settles.roster, settle_unasked unasked]

theorem Reconciled.of_unasked {α : Type} {outcome : Except TriggerError α}
    (reconciled : Reconciled c ctx id old none world outcome after)
    (unasked : demandOf new = none) :
    Reconciled c ctx id old new world outcome after := by
  rcases reconciled with ⟨succeeded, settles⟩ | ⟨failed, outage, stalls⟩
  · exact .inl ⟨succeeded, settles.of_unasked unasked⟩
  · exact .inr ⟨failed, outage, stalls.store, stalls.roster,
      fun same => stalls.differs (same.trans unasked)⟩

/-- The value with which a procedure ends does not matter to the engine. -/
theorem Reconciled.of_bind_done {α β : Type} {p : Procedure TriggerError α} {b : β}
    {outcome : Except TriggerError β}
    (runs : World.Runs c.Admits world (p >>= fun _ => .done b) outcome after)
    (inner : ∀ {outcome after}, World.Runs c.Admits world p outcome after →
      Reconciled c ctx id old new world outcome after) :
    Reconciled c ctx id old new world outcome after := by
  rcases runs.bind_inv with ⟨a, middle, first, last⟩ | ⟨e, first, rfl⟩
  · obtain ⟨rfl, rfl⟩ := last.done_inv
    rcases inner first with ⟨_, settles⟩ | ⟨⟨detail, failed⟩, _⟩
    · exact .inl ⟨⟨b, rfl⟩, settles⟩
    · exact absurd failed (by simp)
  · rcases inner first with ⟨⟨a, succeeded⟩, _⟩ | ⟨⟨detail, failed⟩, rest⟩
    · exact absurd succeeded (by simp)
    · exact .inr ⟨⟨detail, by rw [Except.error.inj failed]⟩, rest⟩

/-- A request to the engine is performed, or the engine is unavailable. -/
theorem World.Runs.engine_inv {δ β : Type} {request : EngineRequest}
    {next : Except EngineError Bool → Procedure δ β} {outcome : Except δ β}
    (runs : World.Runs c.Admits world (Procedure.engine request >>= next) outcome after)
    (plannable : request.Plannable) :
    ∃ middle : World MemoryStore ε, middle.store = world.store ∧
      (middle.roster = (Roster.answer request world.roster).2 ∧
          World.Runs c.Admits middle (next (Roster.answer request world.roster).1) outcome after ∨
        c.outage ∧ middle.roster = world.roster ∧ ∃ detail,
          World.Runs c.Admits middle (next (.error (.unavailable detail))) outcome after) := by
  obtain ⟨admitted, rest⟩ := runs.ask_inv
  refine ⟨(world.answer (.engine request)).2, rfl, ?_⟩
  rcases admitted plannable with performed | ⟨outage, detail, refused⟩
  · obtain ⟨answered, held⟩ := Prod.mk.inj performed
    refine .inl ⟨held, ?_⟩
    have result : (world.answer (.engine request)).1 = (Roster.answer request world.roster).1 :=
      answered
    rw [← result]
    exact rest
  · obtain ⟨answered, held⟩ := Prod.mk.inj refused
    refine .inr ⟨outage, held, detail, ?_⟩
    have result : (world.answer (.engine request)).1 = .error (.unavailable detail) := answered
    rw [← result]
    exact rest

namespace Reconcile

theorem schedule_reconciled {outcome : Except TriggerError Bool} (named : record.id = some id)
    (schedulable : record.Schedulable)
    (runs : World.Runs c.Admits world (schedule ctx record) outcome after) :
    Reconciled c ctx id none (some record) world outcome after := by
  unfold schedule at runs
  cases active : record.isActive with
  | false =>
    simp only [active, Bool.not_false, if_true] at runs
    obtain ⟨rfl, rfl⟩ := runs.done_inv
    exact .inl ⟨⟨_, rfl⟩, .of_demand_eq (TimerRecord.demand_of_inactive active).symm⟩
  | true =>
    obtain ⟨trigger, computed⟩ := schedulable.exists_trigger active
    simp only [active, Bool.not_true, Bool.false_eq_true, if_false, named, computed] at runs
    have differs : demandOf none ≠ demandOf (some record) := by
      simp [TimerRecord.demand_of_active active]
    obtain ⟨middle, store, ⟨roster, rest⟩ | ⟨outage, roster, detail, rest⟩⟩ :=
      runs.engine_inv (TimerRecord.plan_of_trigger computed _)
    · cases held : world.roster id.toText with
      | some job =>
        simp only [Roster.answer, held] at roster rest
        obtain ⟨rfl, rfl⟩ := rest.done_inv
        refine .inl ⟨⟨_, rfl⟩, store, ?_⟩
        rw [roster, held, settle_taken demandOf_none, ← held, Function.update_eq_self]
      | none =>
        simp only [Roster.answer, held] at roster rest
        obtain ⟨rfl, rfl⟩ := rest.done_inv
        refine .inl ⟨⟨_, rfl⟩, store, ?_⟩
        rw [roster, held, settle_register differs active computed]
    · obtain ⟨rfl, rfl⟩ := rest.fail_inv
      exact .inr ⟨⟨detail, rfl⟩, outage, store, roster, differs⟩

theorem unschedule_reconciled {outcome : Except TriggerError PUnit} (named : record.id = some id)
    (runs : World.Runs c.Admits world (unschedule record) outcome after) :
    Reconciled c ctx id (some record) none world outcome after := by
  unfold unschedule at runs
  cases active : record.isActive with
  | false =>
    simp only [active, Bool.not_false, if_true] at runs
    obtain ⟨rfl, rfl⟩ := runs.done_inv
    exact .inl ⟨⟨_, rfl⟩, .of_demand_eq (TimerRecord.demand_of_inactive active)⟩
  | true =>
    simp only [active, Bool.not_true, Bool.false_eq_true, if_false, TimerRecord.jobKey?, named,
      Option.map_some] at runs
    have asked : demandOf (some record) ≠ none := by simp [TimerRecord.demand_of_active active]
    obtain ⟨middle, store, ⟨roster, rest⟩ | ⟨outage, roster, detail, rest⟩⟩ :=
      runs.engine_inv trivial
    · obtain ⟨rfl, rfl⟩ := rest.done_inv
      refine .inl ⟨⟨_, rfl⟩, store, ?_⟩
      rw [roster, settle_drop asked demandOf_none]
      rfl
    · obtain ⟨rfl, rfl⟩ := rest.fail_inv
      exact .inr ⟨⟨detail, rfl⟩, outage, store, roster, asked⟩

/-- A replacement, asked for where the shapes of two active versions differ. -/
theorem replace_reconciled {before : TimerRecord} {outcome : Except TriggerError PUnit}
    (named : record.id = some id) (schedulable : record.Schedulable)
    (active : record.isActive = true) (asked : demandOf (some before) ≠ none)
    (differs : demandOf (some before) ≠ record.demand)
    (runs : World.Runs c.Admits world (replace ctx record) outcome after) :
    Reconciled c ctx id (some before) (some record) world outcome after := by
  obtain ⟨trigger, computed⟩ := schedulable.exists_trigger active
  unfold replace at runs
  simp only [TimerRecord.jobKey?, named, Option.map_some, computed] at runs
  obtain ⟨middle, store, ⟨roster, rest⟩ | ⟨outage, roster, detail, rest⟩⟩ :=
    runs.engine_inv (TimerRecord.plan_of_trigger computed _)
  · cases held : world.roster id.toText with
    | some job =>
      simp only [Roster.answer, held] at roster rest
      obtain ⟨rfl, rfl⟩ := rest.done_inv
      refine .inl ⟨⟨_, rfl⟩, store, ?_⟩
      rw [roster, held, settle_replace asked differs active computed]
    | none =>
      -- No job has the key, so the record is scheduled as if it were new.
      simp only [Roster.answer, held] at roster rest
      have scheduled := Reconciled.of_bind_done rest (schedule_reconciled named schedulable)
      have fresh : settle ctx id none (some record) none =
          settle ctx id (some before) (some record) none := by
        rw [settle_register (by simp [TimerRecord.demand_of_active active]) active computed,
          settle_register differs active computed]
      rcases scheduled with ⟨succeeded, settles⟩ | ⟨failed, outage, stalls⟩
      · refine .inl ⟨succeeded, settles.store.trans store, ?_⟩
        rw [settles.roster, roster, held, fresh]
      · exact .inr ⟨failed, outage, stalls.store.trans store, stalls.roster.trans roster, differs⟩
  · obtain ⟨rfl, rfl⟩ := rest.fail_inv
    exact .inr ⟨⟨detail, rfl⟩, outage, store, roster, differs⟩

theorem reschedule_reconciled {before : TimerRecord} {outcome : Except TriggerError PUnit}
    (beforeNamed : before.id = some id) (named : record.id = some id)
    (schedulable : record.Schedulable)
    (runs : World.Runs c.Admits world (reschedule ctx before record) outcome after) :
    Reconciled c ctx id (some before) (some record) world outcome after := by
  unfold reschedule at runs
  cases wasActive : before.isActive with
  | false =>
    have unasked : before.demand = none := TimerRecord.demand_of_inactive wasActive
    cases active : record.isActive with
    | false =>
      simp only [wasActive, active] at runs
      obtain ⟨rfl, rfl⟩ := runs.done_inv
      have same : demandOf (some before) = demandOf (some record) :=
        unasked.trans (TimerRecord.demand_of_inactive active).symm
      exact .inl ⟨⟨_, rfl⟩, .of_demand_eq same⟩
    | true =>
      simp only [wasActive, active] at runs
      have scheduled := Reconciled.of_bind_done runs (schedule_reconciled named schedulable)
      exact scheduled.congr unasked.symm
  | true =>
    cases active : record.isActive with
    | false =>
      simp only [wasActive, active] at runs
      have dropped : Reconciled c ctx id (some before) none world outcome after :=
        unschedule_reconciled beforeNamed runs
      exact dropped.of_unasked (TimerRecord.demand_of_inactive active)
    | true =>
      simp only [wasActive, active] at runs
      split at runs
      · rename_i shapes
        obtain ⟨rfl, rfl⟩ := runs.done_inv
        have same : demandOf (some before) = demandOf (some record) := by
          simp [TimerRecord.demand_of_active wasActive, TimerRecord.demand_of_active active, shapes]
        exact .inl ⟨⟨_, rfl⟩, .of_demand_eq same⟩
      · rename_i shapes
        have asked : demandOf (some before) ≠ none := by
          simp [TimerRecord.demand_of_active wasActive]
        have differs : demandOf (some before) ≠ record.demand := by
          simpa [TimerRecord.demand_of_active wasActive, TimerRecord.demand_of_active active]
            using shapes
        exact replace_reconciled named schedulable active asked differs runs

end Reconcile

end Horarium
