/-
Module: Horarium.Proofs.FailureAtomicity
Purpose: What a failed change leaves behind. A change that fails for a reason of its own leaves
  store and engine as they were. One that fails because of the engine has stored what it would have
  stored in any case and has moved no job; this rests on every stored record having a trigger that
  can be computed.
Trusted boundary: none
Main exports: Change, Change.operation, Change.IsSingle, Reached.failure_atomic
-/
import Horarium.Engine.Local
import Horarium.Proofs.RecordValidity
import Horarium.Proofs.RegistryBatches

namespace Horarium

/-- An engine whose jobs stay as they are when a request fails, or when there is no job to
replace. -/
class AtomicEngine (ε : Type) extends SchedulingEngine ε where
  Jobs : Type
  jobs : ε → Jobs
  jobs_of_error : ∀ {request : EngineRequest} {engine after : ε} {e : EngineError},
    SchedulingEngine.answer request engine = (.error e, after) → jobs after = jobs engine
  jobs_of_unfound : ∀ {key : String} {trigger : TriggerSpec} {engine after : ε},
    SchedulingEngine.answer (.replace key trigger) engine = (.ok false, after) →
      jobs after = jobs engine

/-- What is done to the entry under a key is done to none, if there is none. -/
theorem map_at_eq_self {β : Type} {entries : List (String × β)} {key : String}
    (free : (entries.lookup key).isSome = false) (change : β → β) :
    (entries.map fun (k, b) => if k = key then (k, change b) else (k, b)) = entries := by
  rw [Option.isSome_eq_false_iff, Option.isNone_iff_eq_none, List.lookup_eq_none_iff] at free
  refine (List.map_congr_left ?_).trans (List.map_id _)
  rintro ⟨k, b⟩ member
  have apart : key ≠ k := by simpa using free _ member
  simp [apart.symm]

namespace RecordingEngine

theorem jobs_perform_of_error {request : EngineRequest} {jobs : List (String × Job)}
    {e : EngineError} (failed : (perform request jobs).1 = .error e) :
    (perform request jobs).2 = jobs := by
  cases request with
  | register key trigger data =>
    cases taken : (jobs.lookup key).isSome with
    | true => simp [perform, taken]
    | false => simp [perform, taken] at failed
  | replace key trigger => simp [perform] at failed
  | remove key => simp [perform] at failed

/-- A request takes the next failure that is queued, or is performed. -/
theorem answer_eq (request : EngineRequest) (engine : RecordingEngine) :
    (∃ e, (answer request engine).1 = .error e ∧ (answer request engine).2.jobs = engine.jobs) ∨
      (answer request engine).1 = (perform request engine.jobs).1 ∧
        (answer request engine).2.jobs = (perform request engine.jobs).2 := by
  unfold answer
  cases engine.failures with
  | cons e failures => exact .inl ⟨e, rfl, rfl⟩
  | nil => exact .inr ⟨rfl, rfl⟩

instance : AtomicEngine RecordingEngine where
  Jobs := List (String × Job)
  jobs := RecordingEngine.jobs
  jobs_of_error := by
    intro request engine after e failed
    obtain ⟨refused, rfl⟩ := Prod.mk.inj (failed : (_, _) = _)
    rcases answer_eq request engine with ⟨_, _, kept⟩ | ⟨answered, performed⟩
    · exact kept
    · exact performed.trans (jobs_perform_of_error (answered.symm.trans refused))
  jobs_of_unfound := by
    intro key trigger engine after unfound
    obtain ⟨free, rfl⟩ := Prod.mk.inj (unfound : (_, _) = _)
    rcases answer_eq (.replace key trigger) engine with ⟨_, _, kept⟩ | ⟨answered, performed⟩
    · exact kept
    · have missing := Except.ok.inj (answered.symm.trans free)
      exact performed.trans (map_at_eq_self missing fun job => { job with trigger })

end RecordingEngine

instance : AtomicEngine LocalEngine where
  Jobs := List (String × LocalJob)
  jobs := LocalEngine.jobs
  jobs_of_error := by
    intro request engine after e failed
    have refused : LocalEngine.answer request engine = (.error e, after) := failed
    unfold LocalEngine.answer at refused
    cases request <;> grind
  jobs_of_unfound := by
    intro key trigger engine after unfound
    have free : LocalEngine.answer (.replace key trigger) engine = (.ok false, after) := unfound
    unfold LocalEngine.answer at free
    grind

/-! ### Where the engine is followed, only the engine can fail -/

section Follow

variable {ε : Type} [AtomicEngine ε] {P : World MemoryStore ε → Request → Prop}
  {world after : World MemoryStore ε} {ctx : Context}

/-- The engine failed, and its jobs are as they were. -/
structure Stuck (world after : World MemoryStore ε) (e : TriggerError) : Prop where
  scheduling : ∃ key cause, e = .schedulingFailure key cause
  jobs : AtomicEngine.jobs after.engine = AtomicEngine.jobs world.engine

/-- A record of which nothing is left to find out before the engine is asked. -/
structure TimerRecord.Ready (record : TimerRecord) : Prop where
  named : ∃ id, record.id = some id
  schedulable : record.Schedulable

/-- What is put in the place of the value that a procedure ends with does not make it fail. -/
theorem Stuck.of_bind_done {α β : Type} {p : Procedure TriggerError α} {b : β} {e : TriggerError}
    (runs : World.Runs P world (p >>= fun _ => .done b) (.error e) after)
    (inner : ∀ {e after}, World.Runs P world p (.error e) after → Stuck world after e) :
    Stuck world after e := by
  rcases runs.bind_inv with ⟨a, middle, _, last⟩ | ⟨cause, first, failed⟩
  · exact absurd last.done_inv.1 (by simp)
  · rw [Except.error.inj failed]
    exact inner first

/-- A procedure goes on with what the engine answers. -/
theorem World.Runs.engine_answered {δ β : Type} {request : EngineRequest}
    {next : Except EngineError Bool → Procedure δ β} {outcome : Except δ β}
    (runs : World.Runs P world (Procedure.engine request >>= next) outcome after) :
    ∃ (answer : Except EngineError Bool) (middle : World MemoryStore ε),
      SchedulingEngine.answer request world.engine = (answer, middle.engine) ∧
        World.Runs P middle (next answer) outcome after := by
  obtain ⟨_, rest⟩ := runs.ask_inv
  exact ⟨_, _, rfl, rest⟩

namespace Reconcile

variable {record old new : TimerRecord} {e : TriggerError}

theorem schedule_failed (ready : record.Ready)
    (runs : World.Runs P world (schedule ctx record) (.error e) after) : Stuck world after e := by
  obtain ⟨id, named⟩ := ready.named
  unfold schedule at runs
  cases active : record.isActive with
  | false =>
    simp only [active, Bool.not_false, if_true] at runs
    exact absurd runs.done_inv.1 (by simp)
  | true =>
    obtain ⟨trigger, computed⟩ := ready.schedulable.exists_trigger active
    simp only [active, Bool.not_true, Bool.false_eq_true, if_false, named, computed] at runs
    obtain ⟨answer, middle, answered, rest⟩ := runs.engine_answered
    split at rest
    · exact absurd rest.done_inv.1 (by simp)
    · exact absurd rest.done_inv.1 (by simp)
    · obtain ⟨failed, rfl⟩ := rest.fail_inv
      exact ⟨⟨_, _, Except.error.inj failed⟩, AtomicEngine.jobs_of_error answered⟩

theorem unschedule_failed (ready : record.Ready)
    (runs : World.Runs P world (unschedule record) (.error e) after) : Stuck world after e := by
  obtain ⟨id, named⟩ := ready.named
  unfold unschedule at runs
  cases active : record.isActive with
  | false =>
    simp only [active, Bool.not_false, if_true] at runs
    exact absurd runs.done_inv.1 (by simp)
  | true =>
    simp only [active, Bool.not_true, Bool.false_eq_true, if_false, TimerRecord.jobKey?, named,
      Option.map_some] at runs
    obtain ⟨answer, middle, answered, rest⟩ := runs.engine_answered
    split at rest
    · exact absurd rest.done_inv.1 (by simp)
    · obtain ⟨failed, rfl⟩ := rest.fail_inv
      exact ⟨⟨_, _, Except.error.inj failed⟩, AtomicEngine.jobs_of_error answered⟩

theorem replace_failed (ready : record.Ready) (active : record.isActive = true)
    (runs : World.Runs P world (replace ctx record) (.error e) after) : Stuck world after e := by
  obtain ⟨id, named⟩ := ready.named
  obtain ⟨trigger, computed⟩ := ready.schedulable.exists_trigger active
  unfold replace at runs
  simp only [TimerRecord.jobKey?, named, Option.map_some, computed] at runs
  obtain ⟨answer, middle, answered, rest⟩ := runs.engine_answered
  split at rest
  · obtain ⟨failed, rfl⟩ := rest.fail_inv
    exact ⟨⟨_, _, Except.error.inj failed⟩, AtomicEngine.jobs_of_error answered⟩
  · exact absurd rest.done_inv.1 (by simp)
  · -- There was no job to replace, and registering one is what failed.
    have stuck := Stuck.of_bind_done rest (schedule_failed ready)
    exact ⟨stuck.scheduling, stuck.jobs.trans (AtomicEngine.jobs_of_unfound answered)⟩

theorem reschedule_failed (before : old.Ready) (ready : new.Ready)
    (runs : World.Runs P world (reschedule ctx old new) (.error e) after) :
    Stuck world after e := by
  unfold reschedule at runs
  split at runs
  · exact absurd runs.done_inv.1 (by simp)
  · exact unschedule_failed before runs
  · exact Stuck.of_bind_done runs (schedule_failed ready)
  · rename_i active
    split at runs
    · exact absurd runs.done_inv.1 (by simp)
    · exact replace_failed ready active runs

theorem follow_failed {before : Option TimerRecord} (known : ∀ old, before = some old → old.Ready)
    (ready : new.Ready) (runs : World.Runs P world (follow ctx before new) (.error e) after) :
    Stuck world after e := by
  cases before with
  | none => exact Stuck.of_bind_done runs (schedule_failed ready)
  | some old => exact reschedule_failed (known old rfl) ready runs

end Reconcile

end Follow

/-! ### Changes -/

/-- The calls of the registry that change timers. -/
inductive Change where
  | create (input : TimerRecord)
  | update (id : Uuid) (input : TimerRecord)
  | delete (id : Uuid)
  | switchModule (moduleName : String) (enable : Bool)

namespace Change

/-- What a change answers. -/
abbrev Result : Change → Type
  | create _ | update _ _ => TimerRecord
  | delete _ => PUnit
  | switchModule _ _ => Nat

/-- What a change does. -/
def operation (ctx : Context) : (change : Change) → Registry.Operation change.Result
  | create input => Registry.create ctx input
  | update id input => Registry.update ctx id input
  | delete id => Registry.delete ctx id
  | switchModule moduleName enable => Registry.switchModule ctx moduleName enable

/-- The change is about one timer. -/
def IsSingle : Change → Prop
  | switchModule _ _ => False
  | _ => True

end Change

/-! ### A change has done with the store before it asks the engine -/

namespace Registry

variable {ctx : Context}

theorem ask_asks (request : StoreRequest) : (ask request).Asks fun request => ¬ request.IsEngine :=
  .ask (fun asked => asked) fun answer => .ofExcept _ answer

theorem refuseTaken_asks (given : Option Uuid) :
    (refuseTaken ctx given).Asks fun request => ¬ request.IsEngine := by
  cases given with
  | none => exact .done _
  | some id =>
    refine (ask_asks (.findById ctx.tenant id)).bind fun found => ?_
    split
    · exact .fail _
    · exact .done _

theorem now_asks : (Procedure.now : Operation Instant).Asks fun request => ¬ request.IsEngine :=
  .ask (fun asked => asked) fun now => .done now

theorem newId_asks : (Procedure.newId : Operation Uuid).Asks fun request => ¬ request.IsEngine :=
  .ask (fun asked => asked) fun id => .done id

theorem applyUpdate_storesFirst (existing input : TimerRecord) :
    (applyUpdate ctx existing input).StoresFirst :=
  .bind now_asks fun _ => .bind (ask_asks (.save ctx.tenant _)) fun saved =>
    .closing (((Reconcile.reschedule_asks existing saved).mapError _).bind fun _ => .done _)

theorem insert_storesFirst (input : TimerRecord) : (insert ctx input).StoresFirst := by
  have saves : ∀ record : TimerRecord, (ask (.save ctx.tenant record) >>= fun saved =>
      reconcile (Reconcile.schedule ctx saved) >>= fun _ => .done saved).StoresFirst :=
    fun record => .bind (ask_asks (.save ctx.tenant record)) fun saved =>
      .closing (((Reconcile.schedule_asks saved).mapError _).bind fun _ => .done _)
  refine .bind now_asks fun now => ?_
  dsimp only
  split
  · exact saves _
  · exact .bind newId_asks fun id => saves _

theorem create_storesFirst (input : TimerRecord) : (create ctx input).StoresFirst := by
  refine .bind (refuseTaken_asks input.id) fun _ => .bind (.ofExcept _ _) fun record =>
    .bind (.ofExcept _ _) fun key => .bind (ask_asks (.findByNaturalKey ctx.tenant key))
      fun found => ?_
  split
  · exact insert_storesFirst record
  · split
    · exact .closing (.fail _)
    · exact applyUpdate_storesFirst _ _

theorem update_storesFirst (id : Uuid) (input : TimerRecord) :
    (update ctx id input).StoresFirst := by
  unfold update
  split
  · exact .closing (.fail _)
  · refine .bind (.ofExcept _ _) fun record => .bind (ask_asks (.findById ctx.tenant id))
      fun found => ?_
    split
    · exact .closing (.fail _)
    · exact applyUpdate_storesFirst _ _

theorem delete_storesFirst (id : Uuid) : (delete ctx id).StoresFirst := by
  refine .bind (ask_asks (.findById ctx.tenant id)) fun found => ?_
  split
  · exact .closing (.done _)
  · exact .bind (ask_asks (.delete ctx.tenant id)) fun _ =>
      .closing ((Reconcile.unschedule_asks _).mapError _)

theorem switchModule_storesFirst (moduleName : String) (enable : Bool) :
    (switchModule ctx moduleName enable).StoresFirst := by
  refine .bind (ask_asks (.findByModuleAndEnabled ctx.tenant moduleName (!enable))) fun found => ?_
  dsimp only
  split
  · exact .closing (.done _)
  · refine .bind now_asks fun now => .bind (ask_asks (.saveAll ctx.tenant _))
      fun saved => .closing ?_
    split
    · exact (scheduleEach_asks saved).bind fun _ => .done _
    · exact (unscheduleEach_asks _).bind fun _ => .done _

end Registry

theorem Change.storesFirst (ctx : Context) (change : Change) :
    (change.operation ctx).StoresFirst := by
  cases change with
  | create input => exact Registry.create_storesFirst input
  | update id input => exact Registry.update_storesFirst id input
  | delete id => exact Registry.delete_storesFirst id
  | switchModule moduleName enable => exact Registry.switchModule_storesFirst moduleName enable

/-! ### How a change fails -/

section Failed

variable {ε : Type} [AtomicEngine ε] {P : World MemoryStore ε → Request → Prop}
  {world after : World MemoryStore ε} {ctx : Context} {e : RegistryError}

theorem RegistryError.isScheduling_ofTrigger {cause : TriggerError}
    (failure : ∃ key error, cause = .schedulingFailure key error) :
    (RegistryError.ofTrigger cause).IsScheduling := by
  obtain ⟨key, error, rfl⟩ := failure
  exact ⟨_, rfl⟩

/-- Every record of a store in order is ready. -/
theorem MemoryStore.Orderly.ready {store : MemoryStore} {sources : Sources} {tenant : String}
    {id : Uuid} {record : TimerRecord} (orderly : store.Orderly sources)
    (held : store.stored tenant id = some record) :
    record.Ready :=
  ⟨⟨id, orderly.wellFormed.id_of_stored held⟩,
    TimerRecord.schedulable_of_prepare (orderly.records held).prepared⟩

/-- How a change fails in a world: with store and engine as they were, or because of the engine. -/
inductive FailsAtomically (change : Change) (world after : World MemoryStore ε)
    (e : RegistryError) :
    Prop where
  | declined (other : ¬ e.IsScheduling) (store : after.store = world.store)
      (engine : after.engine = world.engine)
  | stuck (scheduling : e.IsScheduling)
      (jobs : change.IsSingle → AtomicEngine.jobs after.engine = AtomicEngine.jobs world.engine)

namespace FailsAtomically

variable {change : Change}

theorem of_declined {α : Type}
    (declined : Declined world (.error e : Except RegistryError α) after) :
    FailsAtomically change world after e := by
  obtain ⟨cause, failed, other⟩ := declined.failed
  exact .declined (Except.error.inj failed ▸ other) declined.store declined.engine

/-- The store was asked for nothing that it has not done, and the engine was stuck. -/
theorem of_reconcile {α β : Type} {committed : World MemoryStore ε} {p : Procedure TriggerError α}
    {b : β}
    (runs : World.Runs P committed (Registry.reconcile p >>= fun _ => .done b) (.error e) after)
    (inner : ∀ {cause}, World.Runs P committed p (.error cause) after → Stuck committed after cause)
    (engine : committed.engine = world.engine) : FailsAtomically change world after e := by
  rcases runs.mapError_bind_inv with ⟨a, middle, _, last⟩ | ⟨cause, first, failed⟩
  · exact absurd last.done_inv.1 (by simp)
  · have stuck := inner first
    rw [Except.error.inj failed]
    exact .stuck (RegistryError.isScheduling_ofTrigger stuck.scheduling) fun _ =>
      engine ▸ stuck.jobs

/-- A version has been stored that the engine could not be brought in line with. -/
theorem of_commits {α : Type} {committed : World MemoryStore ε} {input record saved : TimerRecord}
    {id : Uuid} {before : Option TimerRecord} {b : α} (orderly : world.store.Orderly world.sources)
    (prepared : input.prepare = .ok record)
    (commits : Commits ctx record id before saved world committed)
    (runs : World.Runs P committed (Registry.reconcile (Reconcile.follow ctx before saved) >>=
      fun _ => .done b) (.error e) after) :
    FailsAtomically change world after e := by
  have known : ∀ old, before = some old → old.Ready :=
    fun old given => orderly.ready (commits.known old given)
  have ready : saved.Ready :=
    ⟨⟨id, commits.named⟩,
      commits.redeclares.schedulable (TimerRecord.schedulable_of_prepare prepared)⟩
  exact .of_reconcile runs (Reconcile.follow_failed known ready) commits.engine

end FailsAtomically

namespace Registry

variable {moduleName : String} {enable : Bool}

theorem create_fails {input : TimerRecord} (orderly : world.store.Orderly world.sources)
    (runs : World.Runs P world (create ctx input) (.error e) after) :
    FailsAtomically (.create input) world after e := by
  rcases create_commits orderly.wellFormed runs with
    ⟨declined, _⟩ | ⟨record, id, before, saved, committed, prepared, _, commits, following⟩
  · exact .of_declined declined
  · exact .of_commits orderly prepared commits following

theorem update_fails {id : Uuid} {input : TimerRecord} (orderly : world.store.Orderly world.sources)
    (runs : World.Runs P world (update ctx id input) (.error e) after) :
    FailsAtomically (.update id input) world after e := by
  rcases update_commits orderly.wellFormed runs with
    declined | ⟨record, old, saved, committed, prepared, commits, following⟩
  · exact .of_declined declined
  · exact .of_commits orderly prepared commits following

theorem delete_fails {id : Uuid} (orderly : world.store.Orderly world.sources)
    (runs : World.Runs P world (delete ctx id) (.error e) after) :
    FailsAtomically (.delete id) world after e := by
  rcases delete_commits runs with
    ⟨_, failed, rfl⟩ | ⟨_, succeeded, _⟩ | ⟨existing, changed, held, _, dropping⟩
  · rw [Except.error.inj failed]
    exact .declined (by simp [RegistryError.IsScheduling]) rfl rfl
  · exact absurd succeeded (by simp)
  · have regrouped : (reconcile (Reconcile.unschedule existing) >>= fun _ => .done ⟨⟩) =
        reconcile (Reconcile.unschedule existing) := bind_pure _
    rw [← regrouped] at dropping
    have engine : ({ world with store := changed } : World MemoryStore ε).engine = world.engine :=
      rfl
    exact .of_reconcile dropping (Reconcile.unschedule_failed (orderly.ready held)) engine

/-- Bringing the engine in line with one record after the other fails because of the engine. -/
theorem inTurn_fails {α : Type} {step : TimerRecord → Procedure TriggerError α}
    {records : List TimerRecord}
    (stuck : ∀ record ∈ records, ∀ {cause} {world after : World MemoryStore ε},
      World.Runs P world (step record) (.error cause) after → Stuck world after cause)
    (runs : World.Runs P world (inTurn step records) (.error e) after) : e.IsScheduling := by
  induction records generalizing world with
  | nil => exact absurd runs.done_inv.1 (by simp)
  | cons record records ih =>
    rcases runs.mapError_bind_inv with ⟨_, middle, _, others⟩ | ⟨cause, first, failed⟩
    · exact ih (fun record member => stuck record (List.mem_cons_of_mem _ member)) others
    · rw [Except.error.inj failed]
      exact RegistryError.isScheduling_ofTrigger (stuck record List.mem_cons_self first).scheduling

theorem switchModule_fails (orderly : world.store.Orderly world.sources)
    (runs : World.Runs P world (switchModule ctx moduleName enable) (.error e) after) :
    FailsAtomically (.switchModule moduleName enable) world after e := by
  rcases switchModule_commits orderly.wellFormed runs with
    ⟨_, failed, rfl⟩ | ⟨records, lists, ⟨_, succeeded, _⟩ | ⟨_, changed, _, following⟩⟩
  · rw [Except.error.inj failed]
    exact .declined (by simp [RegistryError.IsScheduling]) rfl rfl
  · exact absurd succeeded (by simp)
  · have ready : ∀ record ∈ records, record.Ready := by
      intro record member
      obtain ⟨id, _, held, _⟩ := lists.stored_of_mem orderly.wellFormed member
      exact orderly.ready held
    refine .stuck ?_ fun single => single.elim
    split at following
    · rcases following.bind_inv with ⟨_, middle, _, last⟩ | ⟨cause, scheduling, failed⟩
      · exact absurd last.done_inv.1 (by simp)
      · rw [scheduleEach_map] at scheduling
        rw [Except.error.inj failed]
        refine inTurn_fails (fun record member => ?_) scheduling
        obtain ⟨named, schedulable⟩ := ready record member
        exact Reconcile.schedule_failed ⟨named, flip_schedulable schedulable⟩
    · rcases following.bind_inv with ⟨_, middle, _, last⟩ | ⟨cause, dropping, failed⟩
      · exact absurd last.done_inv.1 (by simp)
      · rw [unscheduleEach_eq] at dropping
        rw [Except.error.inj failed]
        exact inTurn_fails (fun record member => Reconcile.unschedule_failed (ready record member))
          dropping

end Registry

theorem Change.fails (change : Change) (orderly : world.store.Orderly world.sources)
    (runs : World.Runs P world (change.operation ctx) (.error e) after) :
    FailsAtomically change world after e := by
  cases change with
  | create input => exact Registry.create_fails orderly runs
  | update id input => exact Registry.update_fails orderly runs
  | delete id => exact Registry.delete_fails orderly runs
  | switchModule moduleName enable => exact Registry.switchModule_fails orderly runs

end Failed

/-- In every state that a service reaches, whatever its engine has done so far: a change that fails
for any other reason than scheduling leaves every table, the jobs and the requests made of the
engine as they were. Where a change of one timer fails in scheduling, no job has changed, and the
store is what the same change leaves under any other engine, one that never fails among them. -/
theorem Reached.failure_atomic {ε : Type} [AtomicEngine ε] {world after : World MemoryStore ε}
    (reached : Reached world) (ctx : Context) (change : Change) {e : RegistryError}
    (failed : world.run (change.operation ctx) = (.error e, after)) :
    (¬ e.IsScheduling → after.store = world.store ∧ after.engine = world.engine) ∧
      (e.IsScheduling → change.IsSingle →
        AtomicEngine.jobs after.engine = AtomicEngine.jobs world.engine ∧
          ∀ {φ : Type} [SchedulingEngine φ] (engine : φ),
            (World.run ⟨world.store, engine, world.sources⟩ (change.operation ctx)).2.store =
              after.store) := by
  have runs := world.runs (change.operation ctx)
  rw [failed] at runs
  have fails := change.fails reached.orderly runs
  have same : ∀ {φ : Type} [SchedulingEngine φ] (engine : φ),
      (World.run ⟨world.store, engine, world.sources⟩ (change.operation ctx)).2.store =
        after.store := by
    intro φ _ engine
    rw [World.store_run_eq (change.storesFirst ctx) world engine, failed]
  cases fails with
  | declined other store engine =>
    exact ⟨fun _ => ⟨store, engine⟩, fun scheduling => absurd scheduling other⟩
  | stuck scheduling jobs =>
    exact ⟨fun other => absurd scheduling other, fun _ single => ⟨jobs single, same⟩⟩

/-- A creation for which the engine is unavailable has stored its record and moved no job. -/
theorem settledIn_failure_atomic :
    let change : Change := .create .minutely
    let ctx : Context := ⟨"north", none, none⟩
    let e : RegistryError :=
      .scheduling (.schedulingFailure (Uuid.ofBits 1).toText (.unavailable "connection refused"))
    Reached settledIn ∧ settledIn.run (change.operation ctx) = (.error e, unheard) ∧
      AtomicEngine.jobs unheard.engine = AtomicEngine.jobs settledIn.engine ∧
      (World.run ⟨settledIn.store, LocalEngine.empty, settledIn.sources⟩
        (change.operation ctx)).2.store = unheard.store := by
  intro change ctx e
  have refused : (settledIn.run (change.operation ctx)).1 = .error e := by decide +kernel
  have failed : settledIn.run (change.operation ctx) = (.error e, unheard) := Prod.ext refused rfl
  obtain ⟨jobs, stored⟩ := (reached_settledIn.failure_atomic ctx change failed).2 ⟨_, rfl⟩ trivial
  exact ⟨reached_settledIn, failed, jobs, stored LocalEngine.empty⟩

end Horarium
