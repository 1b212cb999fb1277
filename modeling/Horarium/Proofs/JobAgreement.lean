/-
Module: Horarium.Proofs.JobAgreement
Purpose: Agreement of engine and store: in every history in which no id is stored for two tenants,
  the engine holds exactly the jobs of the active records, each with its record's trigger and for
  its record's tenant.
Trusted boundary: none
Main exports: MemoryStore.Unshared, Consistent, History.consistent, History.jobs_match_records
-/
import Horarium.Proofs.History

namespace Horarium

/-- No id is stored for two tenants. -/
def MemoryStore.Unshared (store : MemoryStore) : Prop :=
  ∀ first second id, (store.stored first id).isSome → (store.stored second id).isSome →
    first = second

/-- Sharing can be looked for table by table and row by row. -/
theorem MemoryStore.unshared_iff (store : MemoryStore) : store.Unshared ↔
    ∀ first ∈ store.tables, ∀ row ∈ first.2, ∀ second ∈ store.tables,
      (store.stored first.1 row.id).isSome → (store.stored second.1 row.id).isSome →
        first.1 = second.1 := by
  constructor
  · intro unshared first _ row _ second _ heldFirst heldSecond
    exact unshared first.1 second.1 row.id heldFirst heldSecond
  · intro unshared first second id heldFirst heldSecond
    obtain ⟨record, stored⟩ := Option.isSome_iff_exists.mp heldFirst
    obtain ⟨other, storedOther⟩ := Option.isSome_iff_exists.mp heldSecond
    obtain ⟨table, row, found, kept, _⟩ := exists_row_of_stored stored
    obtain ⟨otherTable, _, otherFound, _⟩ := exists_row_of_stored storedOther
    obtain rfl := TimerTable.id_of_row? kept
    exact unshared (first, table) (mem_tables_of_table? found) row (TimerTable.mem_of_row? kept)
      (second, otherTable) (mem_tables_of_table? otherFound) heldFirst heldSecond

instance (store : MemoryStore) : Decidable store.Unshared :=
  decidable_of_iff _ store.unshared_iff.symm

variable {ε : Type} {world after : World MemoryStore ε} {ctx : Context}

/-- Every active record has a job. -/
def Covered (store : MemoryStore) (roster : Roster) : Prop :=
  ∀ tenant id record, store.stored tenant id = some record → record.isActive = true →
    (roster id.toText).isSome

/-- Only tenants that can be named have tables. -/
def MemoryStore.Named (store : MemoryStore) : Prop :=
  ∀ tenant, (store.table? tenant).isSome → Context.isTenantName tenant = true

/-- Engine and store agree. -/
structure Consistent [JobEngine ε] (world : World MemoryStore ε) : Prop where
  named : world.store.Named
  justified : Justified world.store world.roster
  covered : Covered world.store world.roster

section Settled

variable [JobEngine ε]

/-- Where no two tenants share an id, the job under the id of a stored timer is the timer's. -/
theorem Consistent.job_of_stored (consistent : Consistent world) (unshared : world.store.Unshared)
    {tenant : String} {id : Uuid} {record : TimerRecord} {job : Job}
    (held : world.store.stored tenant id = some record)
    (registered : world.roster id.toText = some job) :
    job.data.tenant = tenant ∧ job.data.timer = id ∧ record.isActive = true ∧
      record.trigger = .ok job.trigger := by
  obtain ⟨texts, owned, stored, active, computed⟩ := consistent.justified _ job registered
  have timer := Uuid.toText_injective texts
  have own : job.data.tenant = tenant := by
    apply unshared _ _ id
    · rw [timer, stored, Option.isSome_some]
    · rw [held, Option.isSome_some]
  rw [own, ← timer, held, Option.some.injEq] at stored
  subst stored
  exact ⟨own, timer.symm, active, computed⟩

/-- Where no two tenants share an id, an inactive record has no job. -/
theorem Consistent.jobless (consistent : Consistent world) (unshared : world.store.Unshared)
    {tenant : String} {id : Uuid} {record : TimerRecord}
    (held : world.store.stored tenant id = some record) (inactive : record.isActive = false) :
    world.roster id.toText = none := by
  by_contra present
  obtain ⟨job, registered⟩ := Option.ne_none_iff_exists'.mp present
  have active := (consistent.job_of_stored unshared held registered).2.2.1
  simp [active] at inactive

/-- In a settled step every job is justified by what is stored after it, as long as no two tenants
share an id before or after. -/
theorem Settled.justified (settled : Settled ctx world after) (unshared : world.store.Unshared)
    (unsharedAfter : after.store.Unshared) (justified : Justified world.store world.roster) :
    Justified after.store after.roster := by
  intro key job held
  by_cases spelled : ∃ id : Uuid, id.toText = key
  · obtain ⟨id, rfl⟩ := spelled
    rw [settled.jobs] at held
    rcases settle_inv (fun record kept => settled.sound.schedulable kept) held with
      ⟨before, same⟩ | ⟨next, trigger, kept, nextActive, computed, ⟨before, unasked⟩ | ⟨_, rfl⟩ |
        ⟨earlier, before, asked, rfl⟩⟩
    · obtain ⟨texts, record, stored, active, computed⟩ := justified _ job before
      refine ⟨texts, ?_⟩
      obtain rfl := Uuid.toText_injective texts
      by_cases own : job.data.tenant = ctx.tenant
      · rw [own] at stored ⊢
        rw [stored] at same
        obtain ⟨next, kept, nextActive⟩ :=
          exists_active_of_demandOf (same ▸ demandOf_ne_none_of_active active)
        rw [kept] at same ⊢
        exact ⟨next, rfl, nextActive, TimerRecord.trigger_eq_of_demand same active computed⟩
      · rw [settled.within.stored_elsewhere own]
        exact ⟨record, stored, active, computed⟩
    · -- The job would be another tenant's, with whom this tenant now shares the id.
      obtain ⟨texts, record, stored, active, _⟩ := justified _ job before
      obtain rfl := Uuid.toText_injective texts
      have other : job.data.tenant ≠ ctx.tenant := by
        intro own
        rw [own] at stored
        rw [stored] at unasked
        exact demandOf_ne_none_of_active active unasked
      refine absurd (unsharedAfter job.data.tenant ctx.tenant job.data.timer ?_ ?_) other
      · rw [settled.within.stored_elsewhere other, stored, Option.isSome_some]
      · rw [kept, Option.isSome_some]
    · exact ⟨rfl, next, kept, nextActive, computed⟩
    · obtain ⟨texts, record, stored, _⟩ := justified _ earlier before
      obtain rfl := Uuid.toText_injective texts
      obtain ⟨old, oldStored, _⟩ := exists_active_of_demandOf asked
      have own : earlier.data.tenant = ctx.tenant :=
        unshared _ _ earlier.data.timer (by rw [stored, Option.isSome_some])
          (by rw [oldStored, Option.isSome_some])
      refine ⟨rfl, next, ?_, nextActive, computed⟩
      rw [own]
      exact kept
  · have free : ∀ id : Uuid, id.toText ≠ key := fun id same => spelled ⟨id, same⟩
    rw [settled.others key free] at held
    exact absurd (justified key job held).1 (Ne.symm (free _))

/-- In a settled step every active record keeps its job or gets one, as long as no two tenants share
an id before or after. -/
theorem Settled.covered (settled : Settled ctx world after) (unshared : world.store.Unshared)
    (unsharedAfter : after.store.Unshared) (covered : Covered world.store world.roster) :
    Covered after.store after.roster := by
  intro tenant id record held active
  rw [settled.jobs]
  by_cases own : tenant = ctx.tenant
  · subst own
    rw [held]
    apply isSome_settle (settled.sound.schedulable held) active
    intro same
    have asked : demandOf (world.store.stored ctx.tenant id) ≠ none := by
      rw [same]
      exact demandOf_ne_none_of_active active
    obtain ⟨old, stored, oldActive⟩ := exists_active_of_demandOf asked
    exact covered _ id old stored oldActive
  · have stored := held
    rw [settled.within.stored_elsewhere own] at stored
    have absent : world.store.stored ctx.tenant id = none := by
      by_contra present
      exact own (unshared _ _ id (by rw [stored, Option.isSome_some])
        (Option.isSome_iff_ne_none.mpr present))
    have absentAfter : after.store.stored ctx.tenant id = none := by
      by_contra present
      exact own (unsharedAfter _ _ id (by rw [held, Option.isSome_some])
        (Option.isSome_iff_ne_none.mpr present))
    rw [absent, absentAfter, settle_of_demand_eq rfl]
    exact covered tenant id record stored active

theorem MemoryStore.Within.named {tenant : String} {before store : MemoryStore}
    (within : MemoryStore.Within tenant before store) (named : before.Named) : store.Named := by
  intro other held
  by_cases own : other = tenant
  · subst own
    exact named other (within.provisioned ▸ held)
  · exact named other (within.elsewhere other own ▸ held)

theorem Settled.consistent (settled : Settled ctx world after) (unshared : world.store.Unshared)
    (unsharedAfter : after.store.Unshared) (consistent : Consistent world) : Consistent after where
  named := settled.within.named consistent.named
  justified := settled.justified unshared unsharedAfter consistent.justified
  covered := settled.covered unshared unsharedAfter consistent.covered

/-- A step that stores new timers under fresh ids only leaves no id shared. -/
theorem Link.unshared (link : Link .steady ctx world after) (unshared : world.store.Unshared) :
    after.store.Unshared := by
  have kept : ∀ tenant id, (after.store.stored tenant id).isSome →
      (world.store.stored tenant id).isSome ∨
        tenant = ctx.tenant ∧ ∀ other, world.store.stored other id = none := by
    intro tenant id held
    by_cases own : tenant = ctx.tenant
    · subst own
      obtain ⟨record, stored⟩ := Option.isSome_iff_exists.mp held
      cases before : world.store.stored ctx.tenant id with
      | some old => exact .inl rfl
      | none => exact .inr ⟨rfl, link.generated before stored⟩
    · rw [link.within.stored_elsewhere own] at held
      exact .inl held
  intro first second id heldFirst heldSecond
  rcases kept first id heldFirst with storedFirst | ⟨ownFirst, free⟩ <;>
    rcases kept second id heldSecond with storedSecond | ⟨ownSecond, freeSecond⟩
  · exact unshared first second id storedFirst storedSecond
  · simp [freeSecond first] at storedFirst
  · simp [free second] at storedSecond
  · exact ownFirst.trans ownSecond.symm

/-- Along settled steps that store new timers under fresh ids only, agreement is kept, by induction
on the steps. -/
theorem Chain.consistent (chain : Chain .steady ctx world after) (unshared : world.store.Unshared)
    (consistent : Consistent world) : after.store.Unshared ∧ Consistent after := by
  induction chain with
  | refl => exact ⟨unshared, consistent⟩
  | tail _ link ih =>
    obtain ⟨unsharedBefore, consistentBefore⟩ := ih
    have unsharedAfter := link.unshared unsharedBefore
    exact ⟨unsharedAfter, link.toSettled.consistent unsharedBefore unsharedAfter consistentBefore⟩

end Settled

variable [SteadyEngine ε]

/-- Whatever a call comes to, agreement is kept, as long as no two tenants share an id. -/
theorem Effect.consistent (effect : Effect world after) (sound : world.store.Sound)
    (unshared : world.store.Unshared) (unsharedAfter : after.store.Unshared)
    (consistent : Consistent world) : Consistent after := by
  cases effect with
  | settled ctx step => exact step.consistent unshared unsharedAfter consistent
  | chain ctx steps => exact (steps.consistent unshared consistent).2
  | enrolment ctx valid store enrolls =>
    refine ⟨?_, ?_, ?_⟩
    · intro tenant held
      rw [store, MemoryStore.table?_provision] at held
      split at held
      · rename_i own
        exact own ▸ valid
      · exact consistent.named tenant held
    · intro key job held
      obtain ⟨texts, record, stored, rest⟩ :=
        enrolls.justified sound consistent.justified key job held
      refine ⟨texts, record, ?_, rest⟩
      rw [store, MemoryStore.stored_provision]
      exact stored
    · intro tenant id record held active
      rw [store, MemoryStore.stored_provision] at held
      have present := consistent.covered tenant id record held active
      obtain ⟨job, registered⟩ := Option.isSome_iff_exists.mp present
      rw [enrolls.keeps registered, Option.isSome_some]
  | rebuild store justified covered =>
    refine ⟨store ▸ consistent.named, store ▸ justified, ?_⟩
    intro tenant id record held active
    rw [store] at held
    have provisioned : (world.store.table? tenant).isSome := by
      cases found : world.store.table? tenant with
      | none => simp [MemoryStore.stored, found] at held
      | some table => rfl
    exact covered tenant (consistent.named tenant provisioned) id record held active

theorem consistent_start (sources : Sources) :
    Consistent (World.mk .empty (SteadyEngine.initial : ε) sources) where
  named := by
    intro tenant held
    simp [MemoryStore.table?, MemoryStore.empty] at held
  justified := justified_initial _
  covered := by
    intro tenant id record held
    simp [MemoryStore.stored, MemoryStore.table?, MemoryStore.empty] at held

/-- In every history without shared ids, engine and store agree, by induction on the history. -/
theorem History.consistent (history : History MemoryStore.Unshared world) :
    world.store.Unshared ∧ Consistent world := by
  induction history with
  | start sources kept => exact ⟨kept, consistent_start sources⟩
  | call before call kept ih =>
    obtain ⟨sound, steady⟩ := before.sound
    exact ⟨kept, (call.effect sound steady).1.consistent sound ih.1 kept ih.2⟩

/-- In every history without shared ids, the engine has a job under the id of a stored timer if and
only if the timer is active; the job has the trigger of the timer and is for the tenant and the
timer; and there are no other jobs. -/
theorem History.jobs_match_records (history : History MemoryStore.Unshared world) :
    (∀ tenant id record, world.store.stored tenant id = some record →
      ((world.roster id.toText).isSome ↔ record.isActive = true) ∧
        ∀ job, world.roster id.toText = some job →
          record.trigger = .ok job.trigger ∧ job.data.tenant = tenant ∧ job.data.timer = id) ∧
    ((JobEngine.entries world.engine).map (·.1)).Nodup ∧
      ∀ key job, (key, job) ∈ JobEngine.entries world.engine → ∃ tenant id record,
        key = id.toText ∧ world.store.stored tenant id = some record ∧ record.isActive = true := by
  obtain ⟨unshared, consistent⟩ := history.consistent
  have nodup := SteadyEngine.keys_nodup history.sound.2
  refine ⟨?_, nodup, ?_⟩
  · intro tenant id record held
    refine ⟨⟨?_, consistent.covered tenant id record held⟩, ?_⟩
    · intro present
      obtain ⟨job, registered⟩ := Option.isSome_iff_exists.mp present
      exact (consistent.job_of_stored unshared held registered).2.2.1
    · intro job registered
      obtain ⟨own, timer, _, computed⟩ := consistent.job_of_stored unshared held registered
      exact ⟨computed, own, timer⟩
  · intro key job member
    obtain ⟨texts, record, stored, active, _⟩ :=
      consistent.justified key job (Roster.ofList_of_mem nodup member)
    exact ⟨_, _, record, texts, stored, active⟩

/-! ### A service that is restarted -/

/-- A service without tenants. -/
def opened : World MemoryStore LocalEngine :=
  ⟨.empty, SteadyEngine.initial, ⟨fun _ => default, Uuid.ofBits, 0, 0⟩⟩

/-- A tenant has been provisioned and has got a timer. -/
def employed : World MemoryStore LocalEngine :=
  let provisioned := (opened.run (Registry.initTenant ⟨"north", none, none⟩)).2
  (provisioned.run (Registry.create ⟨"north", none, none⟩ .minutely)).2

/-- The engine has lost its jobs, and they have been registered anew. -/
def restarted : World MemoryStore LocalEngine :=
  (World.run { employed with engine := SteadyEngine.initial } Registry.rebuildAll).2

theorem history_employed : History MemoryStore.Unshared employed := by
  have start : History MemoryStore.Unshared opened := .start _ (by decide +kernel)
  have provision :
      World.Throughout FreshIds opened (Registry.initTenant ⟨"north", none, none⟩) := by
    decide +kernel
  have provisioned :=
    start.call (.initTenant (by decide +kernel) provision.runs) (by decide +kernel)
  have creation :
      World.Throughout FreshIds (opened.run (Registry.initTenant ⟨"north", none, none⟩)).2
      (Registry.create ⟨"north", none, none⟩ .minutely) := by
    decide +kernel
  exact provisioned.call (.write (by decide +kernel) (.create .minutely creation.runs))
    (by decide +kernel)

theorem restarted_jobs_match : ∃ record job,
    restarted.store.stored "north" (.ofBits 1) = some record ∧ record.isActive = true ∧
      restarted.roster (Uuid.ofBits 1).toText = some job ∧ record.trigger = .ok job.trigger ∧
      job.data.tenant = "north" ∧ job.data.timer = .ofBits 1 := by
  have rebuilding : World.Throughout FreshIds
      ({ employed with engine := SteadyEngine.initial } : World MemoryStore LocalEngine)
      Registry.rebuildAll := by
    decide +kernel
  have history : History MemoryStore.Unshared restarted :=
    history_employed.call (.restart rebuilding.runs) (by decide +kernel)
  obtain ⟨record, stored, active⟩ : ∃ record,
      restarted.store.stored "north" (.ofBits 1) = some record ∧ record.isActive = true := by
    have present : (restarted.store.stored "north" (.ofBits 1)).any (·.isActive) = true := by
      decide +kernel
    simpa [Option.any_eq_true] using present
  obtain ⟨registered, owned⟩ := history.jobs_match_records.1 "north" (.ofBits 1) record stored
  obtain ⟨job, held⟩ := Option.isSome_iff_exists.mp (registered.mpr active)
  exact ⟨record, job, stored, active, held, owned job held⟩

end Horarium
