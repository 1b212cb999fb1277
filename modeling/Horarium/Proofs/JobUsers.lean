/-
Module: Horarium.Proofs.JobUsers
Purpose: As whom jobs act. A job takes its user from the version with which it is registered and
  keeps that user as long as it is in the engine, while every write of the record names its own
  writer. So a job acts as the last writer of its record exactly if whoever wrote last also wrote
  the version with which the job was registered.
Trusted boundary: none
Main exports: KeepsData, Practiced, Practiced.acts_as_last_writer_iff
-/
import Horarium.Proofs.JobAgreement

namespace Horarium

/-- Every record of the tenant is as it was, gone, or written by the caller. -/
def Authored (ctx : Context) (before after : MemoryStore) : Prop :=
  ∀ id, after.stored ctx.tenant id = before.stored ctx.tenant id ∨
    after.stored ctx.tenant id = none ∨
    ∃ record, after.stored ctx.tenant id = some record ∧ record.lastWriter = ctx.user

section Authored

variable {ε : Type} {world after : World MemoryStore ε} {ctx : Context} {id : Uuid}

theorem Authored.of_idle {before after : MemoryStore} (same : after = before) :
    Authored ctx before after :=
  fun _ => .inl (same ▸ rfl)

theorem Authored.of_sets {new : Option TimerRecord} {before after : MemoryStore}
    (sets : MemoryStore.Sets ctx.tenant id new before after)
    (written : ∀ record, new = some record → record.lastWriter = ctx.user) :
    Authored ctx before after := by
  intro other
  rw [sets.stored]
  split
  · cases new with
    | none => exact .inr (.inl rfl)
    | some record => exact .inr (.inr ⟨record, rfl, written record rfl⟩)
  · exact .inl rfl

theorem Commits.authored {record saved : TimerRecord} {before : Option TimerRecord}
    {committed : World MemoryStore ε}
    (commits : Commits ctx record id before saved world committed) :
    Authored ctx world.store committed.store := by
  refine .of_sets commits.sets ?_
  rintro _ ⟨⟩
  exact commits.lastWriter

variable [SchedulingEngine ε] {P : World MemoryStore ε → Request → Prop}

/-- What follows a step in the engine leaves the authors as they are. -/
theorem Authored.follow {δ α : Type} {committed : World MemoryStore ε} {p : Procedure δ α}
    {outcome : Except δ α} (authored : Authored ctx world.store committed.store)
    (only : p.Asks Request.IsEngine) (runs : World.Runs P committed p outcome after) :
    Authored ctx world.store after.store := by
  have kept := (committed.run_of_asks_engine only).1
  rw [runs.run_eq] at kept
  exact kept ▸ authored

namespace Registry

theorem create_authored {input : TimerRecord} {outcome : Except RegistryError TimerRecord}
    (good : world.store.WellFormed) (runs : World.Runs P world (create ctx input) outcome after) :
    Authored ctx world.store after.store := by
  rcases create_commits good runs with
    ⟨declined, _⟩ | ⟨record, id, before, saved, committed, _, _, commits, following⟩
  · exact .of_idle declined.store
  · exact commits.authored.follow
      (((Reconcile.follow_asks ctx before saved).mapError _).bind fun _ => .done _)
      following

theorem update_authored {input : TimerRecord} {outcome : Except RegistryError TimerRecord}
    (good : world.store.WellFormed)
    (runs : World.Runs P world (update ctx id input) outcome after) :
    Authored ctx world.store after.store := by
  rcases update_commits good runs with
    declined | ⟨record, old, saved, committed, _, commits, following⟩
  · exact .of_idle declined.store
  · exact commits.authored.follow
      (((Reconcile.follow_asks ctx (some old) saved).mapError _).bind fun _ => .done _) following

theorem delete_authored {outcome : Except RegistryError PUnit}
    (runs : World.Runs P world (delete ctx id) outcome after) :
    Authored ctx world.store after.store := by
  rcases delete_commits runs with ⟨_, _, rfl⟩ | ⟨_, _, rfl⟩ | ⟨existing, changed, _, sets, dropping⟩
  · exact .of_idle rfl
  · exact .of_idle rfl
  · have authored :
        Authored ctx world.store ({ world with store := changed } : World MemoryStore ε).store :=
      .of_sets sets fun _ impossible => absurd impossible (by simp)
    exact authored.follow ((Reconcile.unschedule_asks existing).mapError _) dropping

theorem switchModule_authored {moduleName : String} {enable : Bool}
    {outcome : Except RegistryError Nat} (good : world.store.WellFormed)
    (runs : World.Runs P world (switchModule ctx moduleName enable) outcome after) :
    Authored ctx world.store after.store := by
  rcases switchModule_commits good runs with
    ⟨_, _, rfl⟩ | ⟨records, lists, ⟨_, _, rfl⟩ | ⟨_, changed, replaces, following⟩⟩
  · exact .of_idle rfl
  · exact .of_idle rfl
  · have authored : Authored ctx world.store
        ({ world.ticked with store := changed } : World MemoryStore ε).store := by
      intro id
      by_cases touched : ∃ record ∈ records, record.id = some id
      · obtain ⟨record, member, named⟩ := touched
        exact .inr (.inr ⟨_, replaces.replaced record member id named, rfl⟩)
      · exact .inl (replaces.kept id fun record member named => touched ⟨record, member, named⟩)
    refine authored.follow ?_ following
    split
    · exact (scheduleEach_asks _).bind fun _ => .done _
    · exact (unscheduleEach_asks _).bind fun _ => .done _

end Registry

end Authored

variable {ε : Type} [SteadyEngine ε] {world after : World MemoryStore ε} {ctx : Context}

theorem Write.authored (write : Write ctx world after) (good : world.store.WellFormed) :
    Authored ctx world.store after.store := by
  cases write with
  | create input runs => exact Registry.create_authored good runs
  | update id input runs => exact Registry.update_authored good runs
  | delete id runs => exact Registry.delete_authored runs
  | switchModule moduleName enable runs => exact Registry.switchModule_authored good runs

/-- The job acts as the last writer of the record that is stored for it. -/
def ActsAsLastWriter (store : MemoryStore) (job : Job) : Prop :=
  ∃ record, store.stored job.data.tenant job.data.timer = some record ∧
    job.data.user = record.lastWriter

/-- A write registers jobs for its own user only, who is also who wrote their records. -/
theorem Write.registers {key : String} {job : Job} (write : Write ctx world after)
    (sound : world.store.Sound) (steady : SteadyEngine.Steady world.engine)
    (covered : Covered world.store world.roster) (free : world.roster key = none)
    (held : after.roster key = some job) : ActsAsLastWriter after.store job := by
  obtain ⟨settled, _⟩ := write.settled sound steady
  obtain ⟨id, rfl⟩ : ∃ id : Uuid, id.toText = key := by
    by_contra unspelled
    rw [settled.others key fun id same => unspelled ⟨id, same⟩, free] at held
    simp at held
  rw [settled.jobs, free] at held
  rcases settle_inv (fun record kept => settled.sound.schedulable kept) held with
    ⟨before, _⟩ | ⟨record, trigger, kept, active, _, ⟨before, _⟩ | ⟨_, rfl⟩ | ⟨_, before, _⟩⟩
  · simp at before
  · simp at before
  · have written : record.lastWriter = ctx.user := by
      rcases write.authored sound.wellFormed id with same | gone | ⟨other, stored, wrote⟩
      · -- An active record that was there before would have had its job.
        have registered := covered ctx.tenant id record (same.symm.trans kept) active
        simp [free] at registered
      · simp [kept] at gone
      · rw [kept, Option.some.injEq] at stored
        exact stored ▸ wrote
    refine ⟨record, kept, ?_⟩
    simp [Reconcile.jobData, written]
  · simp at before

/-- Without a caller, the jobs that are registered for a tenant act as the last writers. -/
theorem Enrolls.registers {store : MemoryStore} {roster enrolled : Roster} {key : String}
    {job : Job} (enrolls : Enrolls ctx store roster enrolled) (sound : store.Sound)
    (anonymous : ctx.user = none) (held : enrolled key = some job) :
    roster key = some job ∨ roster key = none ∧ ActsAsLastWriter store job := by
  cases before : roster key with
  | some earlier =>
    rw [enrolls.keeps before] at held
    exact .inl held
  | none =>
    refine .inr ⟨rfl, ?_⟩
    obtain ⟨id, rfl⟩ : ∃ id : Uuid, id.toText = key := by
      by_contra unspelled
      rw [enrolls.others key fun id same => unspelled ⟨id, same⟩, before] at held
      simp at held
    rw [enrolls.jobs, before] at held
    rcases settle_inv (fun record stored => sound.schedulable stored) held with
      ⟨free, _⟩ | ⟨record, trigger, stored, _, _, ⟨free, _⟩ | ⟨_, rfl⟩ | ⟨_, free, _⟩⟩
    · simp at free
    · simp at free
    · refine ⟨record, stored, ?_⟩
      simp [Reconcile.jobData, anonymous]
    · simp at free

namespace Registry

/-- So do all that a rebuild registers, by induction on the names of the tenants. -/
theorem rebuildTenants_registers {names : List String} {outcome : Except RegistryError Nat}
    {key : String} {job : Job} (sound : world.store.Sound)
    (provisioned : ∀ name ∈ names, (world.store.table? name).isSome)
    (runs : World.Runs Circumstances.steady.Admits world (rebuildTenants names) outcome after)
    (held : after.roster key = some job) :
    world.roster key = some job ∨ world.roster key = none ∧ ActsAsLastWriter world.store job := by
  induction names generalizing world outcome with
  | nil =>
    obtain ⟨_, rfl⟩ := runs.done_inv
    exact .inl held
  | cons name names ih =>
    have laterProvisioned : ∀ other ∈ names, (world.store.table? other).isSome :=
      fun other later => provisioned other (by simp [later])
    cases valid : Context.isTenantName name with
    | false =>
      unfold rebuildTenants at runs
      simp only [Context.ofTenant, valid, Bool.false_eq_true, if_false] at runs
      exact ih sound laterProvisioned runs
    | true =>
      obtain ⟨enrolled, final, store, enrolls, last⟩ :=
        rebuildTenants_inv not_false sound valid (provisioned name (by simp)) runs
      rcases ih (store ▸ sound) (store ▸ laterProvisioned) last with present | ⟨absent, acts⟩
      · exact enrolls.registers sound rfl present
      · refine .inr ⟨?_, store ▸ acts⟩
        cases before : world.roster key with
        | none => rfl
        | some earlier => simp [enrolls.keeps before] at absent

theorem rebuildAll_registers {outcome : Except RegistryError Nat} {key : String} {job : Job}
    (sound : world.store.Sound)
    (runs : World.Runs Circumstances.steady.Admits world rebuildAll outcome after)
    (held : after.roster key = some job) :
    world.roster key = some job ∨ world.roster key = none ∧ ActsAsLastWriter world.store job := by
  unfold rebuildAll at runs
  have answer :
      MemoryStore.answer .tenants world.store = (.ok world.store.tenantNames, world.store) := rfl
  exact rebuildTenants_registers sound
    (fun name member => (MemoryStore.mem_tenantNames _ name).mp member)
    (runs.ask_answered answer) held

end Registry

/-- What users, tenants and operators do with a service, and the jobs that its engine has when they
begin. A restart begins with none. -/
inductive Act (world : World MemoryStore ε) : Roster → World MemoryStore ε → Prop where
  | write {ctx : Context} {after : World MemoryStore ε}
      (valid : Context.isTenantName ctx.tenant = true)
      (write : Write ctx world after) : Act world world.roster after
  | initTenant {ctx : Context} {outcome : Except RegistryError Nat} {after : World MemoryStore ε}
      (valid : Context.isTenantName ctx.tenant = true)
      (runs : World.Runs FreshIds world (Registry.initTenant ctx) outcome after) :
      Act world world.roster after
  | rebuildAll {outcome : Except RegistryError Nat} {after : World MemoryStore ε}
      (runs : World.Runs FreshIds world Registry.rebuildAll outcome after) :
      Act world world.roster after
  | restart {outcome : Except RegistryError Nat} {after : World MemoryStore ε}
      (runs : World.Runs FreshIds { world with engine := SteadyEngine.initial } Registry.rebuildAll
        outcome after) : Act world (fun _ => none) after

/-- The states that a service reaches by such acts while no two tenants share an id. -/
inductive Practiced : World MemoryStore ε → Prop where
  | start (sources : Sources) : Practiced ⟨.empty, SteadyEngine.initial, sources⟩
  | act {world after : World MemoryStore ε} {jobs : Roster} (before : Practiced world)
      (act : Act world jobs after) (unshared : after.store.Unshared) : Practiced after

namespace Act

variable {jobs : Roster} {key : String} {job : Job}

/-- A job that the engine has when an act begins is one that it had before. -/
theorem roster_of_jobs (act : Act world jobs after) (held : jobs key = some job) :
    world.roster key = some job := by
  cases act with
  | write _ _ => exact held
  | initTenant _ _ => exact held
  | rebuildAll _ => exact held
  | restart _ => simp at held

/-- An act is a call, or a rebuild that is not asked for. -/
theorem effect (act : Act world jobs after) (sound : world.store.Sound)
    (steady : SteadyEngine.Steady world.engine) (consistent : Consistent world) :
    Effect world after ∧ SteadyEngine.Steady after.engine := by
  cases act with
  | write valid write => exact (Call.write valid write).effect sound steady
  | initTenant valid runs => exact (Call.initTenant valid runs).effect sound steady
  | restart runs => exact (Call.restart runs).effect sound steady
  | rebuildAll runs =>
    obtain ⟨admitted, steadyAfter⟩ := runs.steady steady
    obtain ⟨store, justified, covered⟩ :=
      Registry.rebuildAll_covers not_false sound consistent.justified admitted
    exact ⟨.rebuild store justified covered, steadyAfter⟩

/-- A job that is there after an act was there when it began and has the same data, or has been
registered and acts as the last writer of its record. -/
theorem keeps_or_registers (act : Act world jobs after) (sound : world.store.Sound)
    (steady : SteadyEngine.Steady world.engine) (consistent : Consistent world)
    (held : after.roster key = some job) :
    (∃ earlier, jobs key = some earlier ∧ earlier.data = job.data) ∨
      jobs key = none ∧ ActsAsLastWriter after.store job := by
  cases act with
  | write _ write =>
    cases before : world.roster key with
    | none => exact .inr ⟨rfl, write.registers sound steady consistent.covered before held⟩
    | some earlier =>
      obtain ⟨settled, _⟩ := write.settled sound steady
      refine .inl ⟨earlier, rfl, ?_⟩
      by_cases spelled : ∃ id : Uuid, id.toText = key
      · obtain ⟨id, rfl⟩ := spelled
        rw [settled.jobs, before] at held
        exact (data_of_settle held).symm
      · rw [settled.others key fun id same => spelled ⟨id, same⟩, before, Option.some.injEq] at held
        rw [held]
  | @initTenant ctx _ _ _ runs =>
    obtain ⟨_, enrolls⟩ := Registry.initTenant_enrolls not_false sound (runs.steady steady).1
    -- Every active record has its job already, so that nothing is registered.
    obtain ⟨rfl, record, stored, active, _⟩ :=
      enrolls.justified sound consistent.justified _ job held
    obtain ⟨earlier, before⟩ :=
      Option.isSome_iff_exists.mp (consistent.covered _ _ record stored active)
    rw [enrolls.keeps before, Option.some.injEq] at held
    exact .inl ⟨earlier, before, held ▸ rfl⟩
  | rebuildAll runs =>
    have admitted := (runs.steady steady).1
    have store := (Registry.rebuildAll_covers not_false sound consistent.justified admitted).1
    rcases Registry.rebuildAll_registers sound admitted held with before | ⟨before, acts⟩
    · exact .inl ⟨job, before, rfl⟩
    · exact .inr ⟨before, store ▸ acts⟩
  | restart runs =>
    obtain ⟨admitted, _⟩ := runs.steady SteadyEngine.steady_initial
    have soundHere : (World.mk world.store (SteadyEngine.initial : ε) world.sources).store.Sound :=
      sound
    have store := (Registry.rebuildAll_covers not_false soundHere (justified_initial _) admitted).1
    rcases Registry.rebuildAll_registers soundHere admitted held with before | ⟨_, acts⟩
    · have none : (JobEngine.roster (SteadyEngine.initial : ε)) key = some job := before
      simp [JobEngine.roster_initial] at none
    · exact .inr ⟨rfl, store ▸ acts⟩

end Act

/-- In every such state the records are sound, the engine is steady, and both agree. -/
theorem Practiced.invariant (practiced : Practiced world) :
    world.store.Sound ∧ SteadyEngine.Steady world.engine ∧ world.store.Unshared ∧
    Consistent world := by
  induction practiced with
  | start sources =>
    refine ⟨MemoryStore.sound_empty, SteadyEngine.steady_initial, ?_, consistent_start sources⟩
    intro first second id held
    simp [MemoryStore.stored, MemoryStore.table?, MemoryStore.empty] at held
  | act _ act unsharedAfter ih =>
    obtain ⟨sound, steady, unshared, consistent⟩ := ih
    obtain ⟨effect, steadyAfter⟩ := act.effect sound steady consistent
    exact ⟨effect.sound sound, steadyAfter, unsharedAfter,
      effect.consistent sound unshared unsharedAfter consistent⟩

/-- An act over which the job under a key keeps its data. -/
structure KeepsData (key : String) (data : JobData) (world after : World MemoryStore ε) : Prop where
  practiced : Practiced after
  before : ∃ jobs earlier, Act world jobs after ∧ jobs key = some earlier ∧ earlier.data = data
  after : ∃ job, after.roster key = some job ∧ job.data = data

/-- The job under a key has had its data ever since an act that found no job there, and that has
left this version stored. -/
structure RegisteredWith (first : TimerRecord) (key : String) (data : JobData)
    (world : World MemoryStore ε) :
    Prop where
  since : ∃ before jobs origin, Practiced before ∧ Act before jobs origin ∧ Practiced origin ∧
    jobs key = none ∧ origin.store.stored data.tenant data.timer = some first ∧
    (∃ job, origin.roster key = some job ∧ job.data = data) ∧
    Relation.ReflTransGen (KeepsData key data) origin world

theorem RegisteredWith.keep {first : TimerRecord} {key : String} {data : JobData}
    (registered : RegisteredWith first key data world) (keeps : KeepsData key data world after) :
    RegisteredWith first key data after := by
  obtain ⟨before, jobs, origin, practiced, act, begun, free, stored, held, kept⟩ := registered.since
  exact ⟨before, jobs, origin, practiced, act, begun, free, stored, held, kept.tail keeps⟩

/-- Every job acts as whoever wrote the version with which it was registered, by induction on the
acts. -/
theorem Practiced.registered {key : String} {job : Job} (practiced : Practiced world)
    (held : world.roster key = some job) :
    ∃ first, RegisteredWith first key job.data world ∧ job.data.user = first.lastWriter := by
  induction practiced generalizing job with
  | start sources =>
    have registered : JobEngine.roster (SteadyEngine.initial : ε) key = some job := held
    simp [JobEngine.roster_initial] at registered
  | @act world after jobs before act unshared ih =>
    obtain ⟨sound, steady, _, consistent⟩ := before.invariant
    have reached : Practiced after := before.act act unshared
    rcases act.keeps_or_registers sound steady consistent held with
      ⟨earlier, present, same⟩ | ⟨absent, first, stored, user⟩
    · obtain ⟨first, registered, user⟩ := ih (act.roster_of_jobs present)
      rw [same] at registered user
      have keeps : KeepsData key job.data world after :=
        ⟨reached, ⟨jobs, earlier, act, present, same⟩, ⟨job, held, rfl⟩⟩
      exact ⟨first, registered.keep keeps, user⟩
    · have registered : RegisteredWith first key job.data after :=
        ⟨world, jobs, after, before, act, reached, absent, stored, ⟨job, held, rfl⟩, .refl⟩
      exact ⟨first, registered, user⟩

/-- As whom jobs act, in every state that a service reaches without an outage and without shared
ids: as whoever wrote the version of the record with which the job was registered. So a job acts as
the last writer of its record exactly if that is who wrote this version. -/
theorem Practiced.acts_as_last_writer_iff {key : String} {job : Job} (practiced : Practiced world)
    (held : world.roster key = some job) :
    ∃ record first, key = job.data.timer.toText ∧
      world.store.stored job.data.tenant job.data.timer = some record ∧ record.isActive = true ∧
      RegisteredWith first key job.data world ∧ job.data.user = first.lastWriter ∧
      (ActsAsLastWriter world.store job ↔ first.lastWriter = record.lastWriter) := by
  obtain ⟨_, _, _, consistent⟩ := practiced.invariant
  obtain ⟨texts, record, stored, active, _⟩ := consistent.justified key job held
  obtain ⟨first, registered, user⟩ := practiced.registered held
  refine ⟨record, first, texts, stored, active, registered, user, ?_⟩
  constructor
  · rintro ⟨other, same, acts⟩
    rw [stored, Option.some.injEq] at same
    rw [← user, acts, same]
  · intro same
    exact ⟨record, stored, user.trans same⟩

/-! ### A timer that changes hands -/

/-- The user who creates the timer. -/
def founder : Uuid := .ofBits 0xA1

/-- The user who updates it. -/
def successor : Uuid := .ofBits 0xB2

/-- A tenant has been provisioned. -/
def founded : World MemoryStore LocalEngine :=
  (opened.run (Registry.initTenant ⟨"north", none, none⟩)).2

/-- One user has created a timer. -/
def owned : World MemoryStore LocalEngine :=
  (founded.run (Registry.create ⟨"north", some founder, none⟩ .minutely)).2

/-- The timer, every other minute. -/
def slower : TimerRecord :=
  { TimerRecord.ofModule "mod-1.0.0" ⟨["POST"], none, some "/run", some ⟨"2", .minute⟩, none⟩ with
    id := some (.ofBits 1) }

/-- Another user has updated it. -/
def handedOver : World MemoryStore LocalEngine :=
  (owned.run (Registry.update ⟨"north", some successor, none⟩ (.ofBits 1) slower)).2

theorem practiced_handedOver : Practiced handedOver := by
  have provisioning :
      World.Throughout FreshIds opened (Registry.initTenant ⟨"north", none, none⟩) := by
    decide +kernel
  have creation : World.Throughout FreshIds founded
      (Registry.create ⟨"north", some founder, none⟩ .minutely) := by
    decide +kernel
  have change : World.Throughout FreshIds owned
      (Registry.update ⟨"north", some successor, none⟩ (.ofBits 1) slower) := by
    decide +kernel
  have provisioned : Practiced founded :=
    (Practiced.start _).act (.initTenant (by decide +kernel) provisioning.runs) (by decide +kernel)
  have created : Practiced owned :=
    provisioned.act (.write (by decide +kernel) (.create .minutely creation.runs))
      (by decide +kernel)
  exact created.act (.write (by decide +kernel) (.update _ slower change.runs)) (by decide +kernel)

/-- After the update the record names its last writer. -/
theorem handedOver_lastWriter {record : TimerRecord}
    (stored : handedOver.store.stored "north" (.ofBits 1) = some record) :
    record.lastWriter = some successor := by
  have written : (handedOver.store.stored "north" (.ofBits 1)).all
      (·.lastWriter == some successor) = true := by
    decide +kernel
  simpa [stored] using written

/-- The job under its id acts as the founder. -/
theorem exists_handedOver_job : ∃ job, handedOver.roster (Uuid.ofBits 1).toText = some job ∧
    job.data = ⟨"north", some founder, .ofBits 1⟩ := by
  have present : (handedOver.roster (Uuid.ofBits 1).toText).any
      (·.data == ⟨"north", some founder, .ofBits 1⟩) = true := by
    decide +kernel
  simpa [Option.any_eq_true] using present

/-- The job acts as the user who created the timer, who is not the last writer. -/
theorem handedOver_job_acts_as_founder :
    ∃ job, handedOver.roster (Uuid.ofBits 1).toText = some job ∧
    job.data.user = some founder ∧ ∃ first, first.lastWriter = some founder ∧
      RegisteredWith first (Uuid.ofBits 1).toText job.data handedOver := by
  obtain ⟨job, held, data⟩ := exists_handedOver_job
  obtain ⟨record, first, _, _, _, registered, user, _⟩ :=
    practiced_handedOver.acts_as_last_writer_iff held
  rw [data] at user
  exact ⟨job, held, by rw [data], first, user.symm, registered⟩

/-- Where a timer changes hands while it is active, its job goes on acting as the user before. -/
theorem job_acts_as_former_writer :
    ¬ ∀ (world : World MemoryStore LocalEngine), Practiced world →
      ∀ key job, world.roster key = some job →
      ActsAsLastWriter world.store job := by
  intro acts
  obtain ⟨job, held, data⟩ := exists_handedOver_job
  obtain ⟨record, stored, user⟩ := acts handedOver practiced_handedOver _ job held
  rw [data] at stored user
  rw [handedOver_lastWriter stored] at user
  exact absurd user (by decide)

end Horarium
