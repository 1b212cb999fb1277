/-
Module: Horarium.Proofs.Requests
Purpose: Which requests a procedure makes, whatever it is answered. A procedure that asks nothing of
  the engine leaves the engine as it is, and one that asks nothing but the engine leaves the store;
  one that has done with the store before it first asks the engine stores the same whatever the
  engine does. What brings the engine in line with records asks for the jobs of these records only.
Trusted boundary: none
Main exports: Request.IsEngine, Procedure.Asks, Procedure.Asks.mono, Procedure.Asks.bind,
  Procedure.Asks.mapError, Registry.scheduleEach_asks, Registry.unscheduleEach_asks
-/
import Horarium.Registry.Basic
import Horarium.Store.Memory

namespace Horarium

/-- The request is for the engine. -/
def Request.IsEngine : Request → Prop
  | .engine _ => True
  | _ => False

/-- The request is not one for a new id. -/
def Request.TakesNoId : Request → Prop
  | .newId => False
  | _ => True

/-- The key of the job that a request to the engine is about. -/
def EngineRequest.key : EngineRequest → String
  | .register key _ _ | .replace key _ | .remove key => key

/-- The request is for the engine and about the job of one of these records. -/
def Request.IsForJobOf (records : List TimerRecord) : Request → Prop
  | .engine request => ∃ record ∈ records, record.jobKey? = some request.key
  | _ => False

/-- The request changes nothing in the store. -/
def StoreRequest.Reads : StoreRequest → Prop
  | .save _ _ | .saveAll _ _ | .delete _ _ | .provision _ => False
  | _ => True

theorem MemoryStore.answer_of_reads {request : StoreRequest} (reads : request.Reads)
    (store : MemoryStore) :
    (answer request store).2 = store := by
  have unchanged : ∀ {α : Type} (tenant : String) (view : TimerTable → α),
      (store.read tenant view).2 = store := by
    intro α tenant view
    unfold read
    split <;> rfl
  cases request <;> first | exact unchanged _ _ | exact reads.elim | rfl

/-- Some sources later on: the same instants and ids, and as many of them taken or more. -/
structure Sources.Later (earlier later : Sources) : Prop where
  instantAt : later.instantAt = earlier.instantAt
  readings : earlier.readings ≤ later.readings

theorem Sources.Later.refl (sources : Sources) : sources.Later sources := ⟨rfl, Nat.le_refl _⟩

theorem Sources.Later.trans {first second third : Sources} (one : first.Later second)
    (other : second.Later third) : first.Later third :=
  ⟨other.instantAt.trans one.instantAt, Nat.le_trans one.readings other.readings⟩

namespace Procedure

variable {δ η α β : Type} {allowed : Request → Prop}

/-- Nothing is left to ask. -/
def Ended : Procedure δ α → Prop
  | .ask _ _ => False
  | _ => True

instance : DecidablePred (Ended : Procedure δ α → Prop)
  | .done _ | .fail _ => .isTrue trivial
  | .ask _ _ => .isFalse id

/-- Every request of the procedure is one of these. -/
inductive Asks (allowed : Request → Prop) : Procedure δ α → Prop where
  | done (a : α) : Asks allowed (.done a)
  | fail (e : δ) : Asks allowed (.fail e)
  | ask {request : Request} {next : request.Answer → Procedure δ α} (here : allowed request)
      (rest : ∀ answer, Asks allowed (next answer)) : Asks allowed (.ask request next)

namespace Asks

theorem mono {other : Request → Prop} {p : Procedure δ α} (only : p.Asks allowed)
    (weaken : ∀ request, allowed request → other request) : p.Asks other := by
  induction only with
  | done a => exact .done a
  | fail e => exact .fail e
  | ask here _ ih => exact .ask (weaken _ here) ih

theorem bind {p : Procedure δ α} {f : α → Procedure δ β} (first : p.Asks allowed)
    (rest : ∀ a, (f a).Asks allowed) : (p >>= f).Asks allowed := by
  induction first with
  | done a => exact rest a
  | fail e => exact .fail e
  | ask here _ ih => exact .ask here ih

theorem mapError {p : Procedure δ α} (inner : p.Asks allowed) (f : δ → η) :
    (p.mapError f).Asks allowed := by
  induction inner with
  | done a => exact .done a
  | fail e => exact .fail (f e)
  | ask here _ ih => exact .ask here ih

theorem attempt {p : Procedure δ α} (inner : p.Asks allowed) :
    (p.attempt : Procedure η (Except δ α)).Asks allowed := by
  induction inner with
  | done a => exact .done (Except.ok a)
  | fail e => exact .done (Except.error e)
  | ask here _ ih => exact .ask here ih

theorem ofExcept (f : η → δ) (result : Except η α) :
    (Procedure.ofExcept f result : Procedure δ α).Asks allowed := by
  cases result with
  | ok a => exact .done a
  | error e => exact .fail (f e)

end Asks

/-- The procedure has done with the store, the clock and the source of ids before it first asks the
engine. -/
inductive StoresFirst : Procedure δ α → Prop where
  | closing {p : Procedure δ α} (only : p.Asks Request.IsEngine) : StoresFirst p
  | ask {request : Request} {next : request.Answer → Procedure δ α} (other : ¬ request.IsEngine)
      (rest : ∀ answer, StoresFirst (next answer)) : StoresFirst (.ask request next)

theorem StoresFirst.bind {p : Procedure δ α} {f : α → Procedure δ β}
    (first : p.Asks fun request => ¬ request.IsEngine) (rest : ∀ a, StoresFirst (f a)) :
    StoresFirst (p >>= f) := by
  induction first with
  | done a => exact rest a
  | fail e => exact .closing (.fail e)
  | ask here _ ih => exact .ask here ih

theorem mapError_bind (p : Procedure δ α) (f : α → Procedure δ β) (g : δ → η) :
    (p >>= f).mapError g = p.mapError g >>= fun a => (f a).mapError g := by
  induction p with
  | done a => rfl
  | fail e => rfl
  | ask request next ih => exact congrArg (ask request) (funext ih)

end Procedure

namespace World

variable {σ ε φ δ α : Type} [TimerStore σ] [SchedulingEngine ε] [SchedulingEngine φ]

/-- The sources only ever give more. -/
theorem later_run (world : World σ ε) (p : Procedure δ α) :
    world.sources.Later (world.run p).2.sources := by
  induction p generalizing world with
  | done a => exact .refl _
  | fail e => exact .refl _
  | ask request next ih =>
    have step : world.sources.Later (world.answer request).2.sources := by
      cases request with
      | store request => exact .refl _
      | engine request => exact .refl _
      | now => exact ⟨rfl, Nat.le_succ _⟩
      | newId => exact ⟨rfl, Nat.le_refl _⟩
    exact step.trans (ih (world.answer request).1 (world.answer request).2)

/-- Where only the engine is asked, store and sources stay as they are. -/
theorem run_of_asks_engine (world : World σ ε) {p : Procedure δ α}
    (only : p.Asks Request.IsEngine) :
    (world.run p).2.store = world.store ∧ (world.run p).2.sources = world.sources := by
  induction only generalizing world with
  | done a => exact ⟨rfl, rfl⟩
  | fail e => exact ⟨rfl, rfl⟩
  | @ask request next here _ ih =>
    cases request with
    | engine request => exact ih _ (world.answer (.engine request)).2
    | store request => exact here.elim
    | now => exact here.elim
    | newId => exact here.elim

/-- A procedure that stores first leaves the same store whatever engine it meets. -/
theorem store_run_eq {p : Procedure δ α} (first : p.StoresFirst) (world : World σ ε) (engine : φ) :
    (World.run ⟨world.store, engine, world.sources⟩ p).2.store = (world.run p).2.store := by
  induction first generalizing world engine with
  | closing only => rw [(run_of_asks_engine _ only).1, (run_of_asks_engine world only).1]
  | @ask request next other _ ih =>
    cases request with
    | engine request => exact absurd trivial other
    | store request => exact ih _ (world.answer (.store request)).2 engine
    | now => exact ih _ (world.answer .now).2 engine
    | newId => exact ih _ (world.answer .newId).2 engine

end World

namespace Procedure

/-- Whatever the engine answers, what holds of store and sources before the procedure holds after
it. -/
structure Keeps {δ α : Type} (I : MemoryStore → Sources → Prop) (p : Procedure δ α) : Prop where
  kept : ∀ {ε : Type} [SchedulingEngine ε] (world : World MemoryStore ε),
    I world.store world.sources → I (world.run p).2.store (world.run p).2.sources

namespace Keeps

variable {δ η α β : Type} {I : MemoryStore → Sources → Prop} {p : Procedure δ α}

theorem of_asks_engine (only : p.Asks Request.IsEngine) : p.Keeps I := by
  constructor
  intro ε _ world before
  obtain ⟨store, sources⟩ := world.run_of_asks_engine only
  rw [store, sources]
  exact before

theorem done (a : α) : (.done a : Procedure δ α).Keeps I := of_asks_engine (.done a)

theorem fail (e : δ) : (.fail e : Procedure δ α).Keeps I := of_asks_engine (.fail e)

theorem ofExcept (f : η → δ) (result : Except η α) : (Procedure.ofExcept f result).Keeps I :=
  of_asks_engine (.ofExcept f result)

theorem bind {f : α → Procedure δ β} (first : p.Keeps I) (rest : ∀ a, (f a).Keeps I) :
    (p >>= f).Keeps I := by
  constructor
  intro ε _ world before
  have middle := first.kept world before
  show I (world.run (p.bind f)).2.store (world.run (p.bind f)).2.sources
  rw [World.run_bind]
  split
  · rename_i a after ended
    rw [ended] at middle
    exact (rest a).kept after middle
  · rename_i e after ended
    rw [ended] at middle
    exact middle

/-- What goes on with a value at hand has to keep it with this value only. -/
theorem ofExcept_bind {f : η → δ} {result : Except η α} {next : α → Procedure δ β}
    (rest : ∀ a, result = .ok a → (next a).Keeps I) :
    (Procedure.ofExcept f result >>= next).Keeps I := by
  cases result with
  | error e => exact fail (f e)
  | ok a => exact rest a rfl

theorem mapError (inner : p.Keeps I) (f : δ → η) : (p.mapError f).Keeps I := by
  constructor
  intro ε _ world before
  rw [World.run_mapError]
  exact inner.kept world before

theorem attempt (inner : p.Keeps I) : (p.attempt : Procedure η (Except δ α)).Keeps I := by
  constructor
  intro ε _ world before
  rw [World.run_attempt]
  exact inner.kept world before

/-- A request that changes nothing in the store. -/
theorem read {f : StoreError → δ} {request : StoreRequest} (reads : request.Reads) :
    (Procedure.store f request).Keeps I := by
  constructor
  intro ε _ world before
  have unchanged :
      I (world.answer (.store request)).2.store (world.answer (.store request)).2.sources := by
    show I (MemoryStore.answer request world.store).2 world.sources
    rw [MemoryStore.answer_of_reads reads]
    exact before
  exact (ofExcept f (world.answer (.store request)).1).kept _ unchanged

end Keeps

end Procedure

/-! ### What brings the engine in line with records asks for their jobs only -/

theorem Request.IsForJobOf.isEngine {records : List TimerRecord} {request : Request}
    (about : request.IsForJobOf records) : request.IsEngine := by
  cases request with
  | engine request => trivial
  | store request => exact about.elim
  | now => exact about.elim
  | newId => exact about.elim

theorem Request.IsForJobOf.mono {records more : List TimerRecord} (included : records ⊆ more)
    {request : Request} (about : request.IsForJobOf records) : request.IsForJobOf more := by
  cases request with
  | engine request => exact about.imp fun record => And.imp_left fun listed => included listed
  | store request => exact about.elim
  | now => exact about.elim
  | newId => exact about.elim

theorem Request.IsEngine.takesNoId {request : Request} (engine : request.IsEngine) :
    request.TakesNoId := by
  cases request with
  | engine request => trivial
  | store request => trivial
  | now => trivial
  | newId => exact engine.elim

section Engine

variable {δ α : Type} {ctx : Context}

theorem Procedure.engine_asks {record : TimerRecord} {request : EngineRequest}
    (key : record.jobKey? = some request.key) :
    (Procedure.engine request : Procedure δ (Except EngineError Bool)).Asks
      (Request.IsForJobOf [record]) :=
  .ask ⟨record, List.mem_singleton_self record, key⟩ fun answer => .done answer

namespace Reconcile

theorem schedule_asks_job (record : TimerRecord) :
    (schedule ctx record).Asks (Request.IsForJobOf [record]) := by
  unfold schedule
  split
  · exact .done _
  · split
    · exact .fail _
    · rename_i id named
      have key : record.jobKey? = some id.toText := by
        rw [TimerRecord.jobKey?, named, Option.map_some]
      split
      · exact .fail _
      · refine (Procedure.engine_asks key).bind fun answer => ?_
        split
        · exact .done _
        · exact .done _
        · exact .fail _

theorem unschedule_asks_job (record : TimerRecord) :
    (unschedule record).Asks (Request.IsForJobOf [record]) := by
  unfold unschedule
  split
  · exact .done _
  · split
    · exact .fail _
    · rename_i key found
      refine (Procedure.engine_asks found).bind fun answer => ?_
      split
      · exact .done _
      · exact .fail _

theorem replace_asks_job (record : TimerRecord) :
    (replace ctx record).Asks (Request.IsForJobOf [record]) := by
  unfold replace
  split
  · exact .fail _
  · rename_i key found
    split
    · exact .fail _
    · refine (Procedure.engine_asks found).bind fun answer => ?_
      split
      · exact .fail _
      · exact .done _
      · exact (schedule_asks_job record).bind fun _ => .done _

theorem reschedule_asks_job (old new : TimerRecord) :
    (reschedule ctx old new).Asks (Request.IsForJobOf [old, new]) := by
  have ofNew {p : Procedure TriggerError PUnit} (only : p.Asks (Request.IsForJobOf [new])) :
      p.Asks (Request.IsForJobOf [old, new]) :=
    only.mono fun _ => Request.IsForJobOf.mono (List.subset_cons_self old [new])
  unfold reschedule
  split
  · exact .done _
  · exact (unschedule_asks_job old).mono fun _ => Request.IsForJobOf.mono (by simp)
  · exact ofNew ((schedule_asks_job new).bind fun _ => .done _)
  · split
    · exact .done _
    · exact ofNew (replace_asks_job new)

theorem schedule_asks (record : TimerRecord) : (schedule ctx record).Asks Request.IsEngine :=
  (schedule_asks_job record).mono fun _ => Request.IsForJobOf.isEngine

theorem unschedule_asks (record : TimerRecord) : (unschedule record).Asks Request.IsEngine :=
  (unschedule_asks_job record).mono fun _ => Request.IsForJobOf.isEngine

theorem reschedule_asks (old new : TimerRecord) : (reschedule ctx old new).Asks Request.IsEngine :=
  (reschedule_asks_job old new).mono fun _ => Request.IsForJobOf.isEngine

theorem rebuild_asks (records : List TimerRecord) :
    (rebuild ctx records : Procedure δ Nat).Asks Request.IsEngine := by
  induction records with
  | nil => exact .done _
  | cons record records ih =>
    refine (schedule_asks record).attempt.bind fun outcome => ih.bind fun others => ?_
    split <;> exact .done _

end Reconcile

namespace Registry

theorem scheduleEach_asks_jobs (records : List TimerRecord) :
    (scheduleEach ctx records).Asks (Request.IsForJobOf records) := by
  induction records with
  | nil => exact .done _
  | cons record records ih =>
    have first : (Reconcile.schedule ctx record).Asks (Request.IsForJobOf (record :: records)) :=
      (Reconcile.schedule_asks_job record).mono fun _ => Request.IsForJobOf.mono (by simp)
    exact (first.mapError _).bind fun _ =>
      ih.mono fun _ => Request.IsForJobOf.mono (List.subset_cons_self record records)

theorem unscheduleEach_asks_jobs (records : List TimerRecord) :
    (unscheduleEach records).Asks (Request.IsForJobOf records) := by
  induction records with
  | nil => exact .done _
  | cons record records ih =>
    have first : (Reconcile.unschedule record).Asks (Request.IsForJobOf (record :: records)) :=
      (Reconcile.unschedule_asks_job record).mono fun _ => Request.IsForJobOf.mono (by simp)
    exact (first.mapError _).bind fun _ =>
      ih.mono fun _ => Request.IsForJobOf.mono (List.subset_cons_self record records)

theorem scheduleEach_asks (records : List TimerRecord) :
    (scheduleEach ctx records).Asks Request.IsEngine :=
  (scheduleEach_asks_jobs records).mono fun _ => Request.IsForJobOf.isEngine

theorem unscheduleEach_asks (records : List TimerRecord) :
    (unscheduleEach records).Asks Request.IsEngine :=
  (unscheduleEach_asks_jobs records).mono fun _ => Request.IsForJobOf.isEngine

theorem ask_takesNoId (request : StoreRequest) : (ask request).Asks Request.TakesNoId :=
  .ask trivial fun _ => .ofExcept _ _

/-- The next version of a record needs no new id. -/
theorem applyUpdate_takesNoId (existing input : TimerRecord) :
    (applyUpdate ctx existing input).Asks Request.TakesNoId := by
  have follows : ∀ saved, (Reconcile.reschedule ctx existing saved).Asks Request.TakesNoId :=
    fun saved => (Reconcile.reschedule_asks existing saved).mono fun _ => Request.IsEngine.takesNoId
  unfold applyUpdate
  apply Procedure.Asks.ask trivial
  intro now
  apply (ask_takesNoId _).bind
  intro saved
  exact ((follows saved).mapError _).bind fun _ => .done _

theorem delete_takesNoId (id : Uuid) : (delete ctx id).Asks Request.TakesNoId := by
  apply (ask_takesNoId _).bind
  intro found
  cases found with
  | none => exact .done _
  | some existing =>
    have drops : (Reconcile.unschedule existing).Asks Request.TakesNoId :=
      (Reconcile.unschedule_asks existing).mono fun _ => Request.IsEngine.takesNoId
    exact (ask_takesNoId _).bind fun _ => drops.mapError _

theorem deleteEach_takesNoId (records : List TimerRecord) :
    (deleteEach ctx records).Asks Request.TakesNoId := by
  induction records with
  | nil => exact .done _
  | cons record records ih =>
    unfold deleteEach
    split
    · exact ih
    · exact (delete_takesNoId _).bind fun _ => ih.bind fun _ => .done _

end Registry

end Engine

end Horarium
