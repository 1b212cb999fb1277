/-
Module: Horarium.Proofs.TenantAgreement
Purpose: Agreement of engine and store for one tenant, id by id. A settled step keeps what is in
  line in line; what is out of line stays so until a next version asks the engine for something
  else.
Trusted boundary: none; that generated ids are unused is assumed request by request (`UnusedIds`)
Main exports: InLine, Agrees, Spelled, UnusedIds
-/
import Horarium.Proofs.RegistrySteps

namespace Horarium

/-- The engine may be unavailable at any time; generated ids are neither stored nor have jobs. -/
def Circumstances.unused : Circumstances where
  outage := True
  mayGenerate store roster id := (∀ tenant, store.stored tenant id = none) ∧ roster id.toText = none
  unstored generated := generated.1

/-- The job under an id is what the record stored there asks for: an active record has a job with
its trigger, an inactive one has none, and where nothing is stored the tenant has no job. -/
def InLine (tenant : String) : Option TimerRecord → Option Job → Prop
  | none, job => ∀ held, job = some held → held.data.tenant ≠ tenant
  | some record, job =>
    if record.isActive then ∃ held, job = some held ∧ record.trigger = .ok held.trigger
      else job = none

/-- The tenant has jobs under ids only. -/
def Spelled (tenant : String) (roster : Roster) : Prop :=
  ∀ key job, roster key = some job → job.data.tenant = tenant → ∃ id : Uuid, id.toText = key

/-- Engine and store agree on a tenant's timers. -/
structure Agrees {ε : Type} [JobEngine ε] (tenant : String) (world : World MemoryStore ε) :
    Prop where
  inLine : ∀ id : Uuid, InLine tenant (world.store.stored tenant id) (world.roster id.toText)
  spelled : Spelled tenant world.roster

variable {tenant : String} {ctx : Context} {id : Uuid} {record other : TimerRecord}
  {old new : Option TimerRecord} {job : Option Job}

theorem inLine_active (active : record.isActive = true) :
    InLine tenant (some record) job ↔ ∃ held, job = some held ∧
      record.trigger = .ok held.trigger := by
  simp [InLine, active]

theorem inLine_inactive (inactive : record.isActive = false) :
    InLine tenant (some record) job ↔ job = none := by
  simp [InLine, inactive]

/-- Being in line is a matter of the demand. -/
theorem inLine_congr (same : record.demand = other.demand) :
    InLine tenant (some record) job ↔ InLine tenant (some other) job := by
  have actives := TimerRecord.isActive_eq_of_demand same
  cases active : record.isActive with
  | false => rw [inLine_inactive active, inLine_inactive (actives ▸ active)]
  | true =>
    rw [inLine_active active, inLine_active (actives ▸ active)]
    constructor
    · rintro ⟨held, rfl, computed⟩
      exact ⟨held, rfl, TimerRecord.trigger_eq_of_demand same active computed⟩
    · rintro ⟨held, rfl, computed⟩
      exact ⟨held, rfl, TimerRecord.trigger_eq_of_demand same.symm (actives ▸ active) computed⟩

/-- Where the version before asked for a job and the next one asks for something else, the job is in
line with the next one, whatever it was before. -/
theorem inLine_settle_of_asked (schedulable : ∀ record, new = some record → record.Schedulable)
    (asked : demandOf old ≠ none) (differs : demandOf old ≠ demandOf new) :
    InLine tenant new (settle ctx id old new job) := by
  by_cases dropped : demandOf new = none
  · rw [settle_drop asked dropped]
    cases new with
    | none => simp [InLine]
    | some record => exact (inLine_inactive (TimerRecord.demand_eq_none_iff.mp dropped)).mpr rfl
  · obtain ⟨record, rfl, active⟩ := exists_active_of_demandOf dropped
    obtain ⟨trigger, computed⟩ := (schedulable record rfl).exists_trigger active
    rw [inLine_active active]
    cases job with
    | none => exact ⟨_, settle_register differs active computed, computed⟩
    | some earlier => exact ⟨_, settle_replace asked differs active computed, computed⟩

/-- What is in line stays so, if a record that is new finds no job under its id. -/
theorem InLine.settle (inLine : InLine tenant old job)
    (schedulable : ∀ record, new = some record → record.Schedulable)
    (unused : old = none → new ≠ none → job = none) :
    InLine tenant new (settle ctx id old new job) := by
  by_cases same : demandOf old = demandOf new
  · rw [settle_of_demand_eq same]
    cases new with
    | none =>
      cases old with
      | none => exact inLine
      | some before =>
        have inactive := TimerRecord.demand_eq_none_iff.mp (same : before.demand = none)
        rw [inLine_inactive inactive] at inLine
        simp [InLine, inLine]
    | some record =>
      cases old with
      | none =>
        have inactive := TimerRecord.demand_eq_none_iff.mp (same : none = record.demand).symm
        exact (inLine_inactive inactive).mpr (unused rfl (by simp))
      | some before => exact (inLine_congr same).mp inLine
  · by_cases asked : demandOf old = none
    · -- A job was neither asked for nor there, so the next version registers its own.
      have free : job = none := by
        cases old with
        | none =>
          apply unused rfl
          rintro rfl
          exact same rfl
        | some before => exact (inLine_inactive (TimerRecord.demand_eq_none_iff.mp asked)).mp inLine
      have nextAsks : demandOf new ≠ none := fun none => same (asked.trans none.symm)
      obtain ⟨record, rfl, active⟩ := exists_active_of_demandOf nextAsks
      obtain ⟨trigger, computed⟩ := (schedulable record rfl).exists_trigger active
      rw [free, inLine_active active]
      exact ⟨_, settle_register same active computed, computed⟩
    · exact inLine_settle_of_asked schedulable asked same

section Steps

variable {ε : Type} [JobEngine ε] {world after : World MemoryStore ε}

/-- Without timers and jobs, engine and store agree. -/
theorem Agrees.of_empty (absent : ∀ id, world.store.stored tenant id = none)
    (idle : world.roster = fun _ => none) : Agrees tenant world where
  inLine id := by
    rw [absent, idle]
    simp [InLine]
  spelled := by
    intro key job held
    simp [idle] at held

/-- Agreement is about the store and the jobs only. -/
theorem Agrees.of_idle (agrees : Agrees tenant world) (store : after.store = world.store)
    (roster : after.roster = world.roster) : Agrees tenant after where
  inLine id := by
    rw [store, roster]
    exact agrees.inLine id
  spelled := roster ▸ agrees.spelled

theorem Link.inLine (link : Link .unused ctx world after)
    (inLine : InLine ctx.tenant (world.store.stored ctx.tenant id) (world.roster id.toText)) :
    InLine ctx.tenant (after.store.stored ctx.tenant id) (after.roster id.toText) := by
  rw [link.jobs]
  apply inLine.settle (fun record held => link.sound.schedulable held)
  intro absent present
  obtain ⟨record, held⟩ := Option.ne_none_iff_exists'.mp present
  exact (link.generated absent held).2

/-- Along settled steps that store new timers under unused ids only, what is in line stays in
line. -/
theorem Chain.inLine (chain : Chain .unused ctx world after)
    (inLine : InLine ctx.tenant (world.store.stored ctx.tenant id) (world.roster id.toText)) :
    InLine ctx.tenant (after.store.stored ctx.tenant id) (after.roster id.toText) := by
  induction chain with
  | refl => exact inLine
  | tail _ link ih => exact link.inLine ih

/-- A job without a record is never touched: no new timer gets its id. -/
theorem Chain.orphan (chain : Chain .unused ctx world after) {orphan : Job}
    (absent : world.store.stored ctx.tenant id = none)
    (held : world.roster id.toText = some orphan) :
    after.store.stored ctx.tenant id = none ∧ after.roster id.toText = some orphan := by
  induction chain with
  | refl => exact ⟨absent, held⟩
  | @tail middle last _ link ih =>
    obtain ⟨absent, held⟩ := ih
    have absentAfter : last.store.stored ctx.tenant id = none := by
      by_contra present
      obtain ⟨record, stored⟩ := Option.ne_none_iff_exists'.mp present
      have free := (link.generated absent stored).2
      simp [held] at free
    refine ⟨absentAfter, ?_⟩
    rw [link.jobs, absent, absentAfter, settle_of_demand_eq rfl, held]

/-- Where nothing is stored, the job stays in line or out of line. -/
theorem Chain.unstored_inLine_iff (chain : Chain .unused ctx world after)
    (absent : world.store.stored ctx.tenant id = none) :
    InLine ctx.tenant (after.store.stored ctx.tenant id) (after.roster id.toText) ↔
      InLine ctx.tenant none (world.roster id.toText) := by
  constructor
  · intro inLine
    cases held : world.roster id.toText with
    | none => simp [InLine]
    | some orphan =>
      obtain ⟨absentAfter, kept⟩ := chain.orphan absent held
      rw [absentAfter, kept] at inLine
      exact inLine
  · intro inLine
    apply chain.inLine
    rw [absent]
    exact inLine

theorem Chain.spelled (chain : Chain .unused ctx world after)
    (spelled : Spelled ctx.tenant world.roster) :
    Spelled ctx.tenant after.roster := by
  intro key job held own
  by_contra free
  have unspelled : ∀ id : Uuid, id.toText ≠ key := fun id same => free ⟨id, same⟩
  rw [chain.others unspelled] at held
  exact free (spelled key job held own)

/-- Settled steps keep engine and store in agreement on the tenant. -/
theorem Chain.agrees (chain : Chain .unused ctx world after) (agrees : Agrees ctx.tenant world) :
    Agrees ctx.tenant after where
  inLine id := chain.inLine (agrees.inLine id)
  spelled := chain.spelled agrees.spelled

/-- Where only one job may be out of line, settled steps lead to agreement exactly if they bring it
in line. -/
theorem Chain.agrees_iff (chain : Chain .unused ctx world after)
    (spelled : Spelled ctx.tenant world.roster)
    (elsewhere : ∀ other : Uuid, other ≠ id →
      InLine ctx.tenant (world.store.stored ctx.tenant other) (world.roster other.toText)) :
    Agrees ctx.tenant after ↔
      InLine ctx.tenant (after.store.stored ctx.tenant id) (after.roster id.toText) := by
  constructor
  · intro agrees
    exact agrees.inLine id
  · intro inLine
    refine ⟨fun other => ?_, chain.spelled spelled⟩
    by_cases here : other = id
    · exact here ▸ inLine
    · exact chain.inLine (elsewhere other here)

/-- After a write that strayed, everything but the job under its id is in line. -/
theorem Stray.inLine {stray : Uuid} (strays : Stray ctx stray new world after)
    (agrees : Agrees ctx.tenant world) (apart : id ≠ stray) :
    InLine ctx.tenant (after.store.stored ctx.tenant id) (after.roster id.toText) := by
  rw [strays.sets.stored, if_neg apart, strays.roster]
  exact agrees.inLine id

end Steps

/-! ### Injected outages -/

/-- The failures injected into the engine are outages, and generated ids are neither stored nor have
jobs. -/
def Flaky (world : World MemoryStore RecordingEngine) : Request → Prop
  | .engine _ => ∀ error, world.engine.failures.head? = some error →
      ∃ detail, error = .unavailable detail
  | .newId =>
    (∀ tenant, world.store.stored tenant (world.sources.idAt (world.sources.ids + 1)) = none) ∧
      world.roster (world.sources.idAt (world.sources.ids + 1)).toText = none
  | _ => True

instance (world : World MemoryStore RecordingEngine) :
    (request : Request) → Decidable (Flaky world request)
  | .engine _ => match failed : world.engine.failures.head? with
    | none => .isTrue fun error same => by simp [failed] at same
    | some (.unavailable detail) => .isTrue fun error same =>
      ⟨detail, by simpa [failed] using same.symm⟩
    | some (.alreadyExists key) => .isFalse fun all => by simpa using all _ failed
    | some (.invalidTrigger key fault) => .isFalse fun all => by simpa using all _ failed
  | .newId => @instDecidableAnd _ _ (decidable_of_iff _ (MemoryStore.stored_eq_none_iff _ _).symm) _
  | .store _ => .isTrue trivial
  | .now => .isTrue trivial

/-- An engine into which only outages have been injected performs what it is asked, or is
unavailable. -/
theorem World.Runs.unused {δ α : Type} {p : Procedure δ α} {outcome : Except δ α}
    {world after : World MemoryStore RecordingEngine}
    (runs : World.Runs Flaky world p outcome after) :
    World.Runs Circumstances.unused.Admits world p outcome after := by
  refine runs.mono fun world request flaky => ?_
  cases request with
  | engine request =>
    intro _
    cases queued : world.engine.failures with
    | nil => exact .inl (RecordingEngine.performs queued request)
    | cons error failures =>
      obtain ⟨detail, rfl⟩ := flaky error (by simp [queued])
      exact .inr ⟨trivial, detail, RecordingEngine.refuses queued request⟩
  | newId => exact flaky
  | store request => trivial
  | now => trivial

/-- The engine will be unavailable once. -/
def World.impaired (world : World MemoryStore RecordingEngine) :
    World MemoryStore RecordingEngine :=
  { world with engine := world.engine.failNext (.unavailable "connection refused") }

/-- An outage to come changes nothing about the jobs there are. -/
theorem Agrees.impaired {world : World MemoryStore RecordingEngine} (agrees : Agrees tenant world) :
    Agrees tenant world.impaired :=
  agrees.of_idle rfl rfl

/-- A tenant without timers, and an engine without jobs. -/
def vacant : World MemoryStore RecordingEngine :=
  ⟨MemoryStore.empty.provision "north", RecordingEngine.empty,
    ⟨fun _ => default, Uuid.ofBits, 0, 0⟩⟩

theorem sound_vacant : vacant.store.Sound := MemoryStore.sound_empty.provision "north"

theorem agrees_vacant : Agrees "north" vacant := by
  apply Agrees.of_empty
  · intro id
    exact MemoryStore.stored_provision _ _ _ _
  · rfl

end Horarium
