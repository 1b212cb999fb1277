/-
Module: Horarium.Proofs.JobIsolation
Purpose: Isolation of tenants in the engine. Tables belong to tenants, but jobs are kept under bare
  ids, and a client may choose an id that another tenant has. What follows is when exactly this does
  harm.
Trusted boundary: none
Main exports: Saves, History.isolation_iff, History.isolated
-/
import Horarium.Proofs.JobAgreement

namespace Horarium

variable {ε : Type} [SteadyEngine ε] {world after : World MemoryStore ε} {ctx : Context}

/-- The jobs of other tenants are still there, with the same triggers and the same data. -/
def SparesOthers (tenant : String) (world after : World MemoryStore ε) : Prop :=
  ∀ key job, world.roster key = some job → job.data.tenant ≠ tenant → after.roster key = some job

/-- Where a tenant has an active timer, no other tenant has the job. -/
def OwnsActive (tenant : String) (world : World MemoryStore ε) : Prop :=
  ∀ id record, world.store.stored tenant id = some record → record.isActive = true →
    ∀ job, world.roster id.toText = some job → job.data.tenant = tenant

/-- A creation or an update of a tenant that succeeds, with the record that it answers. -/
inductive Saves (ctx : Context) (world : World MemoryStore ε) (saved : TimerRecord) :
    World MemoryStore ε → Prop where
  | create (input : TimerRecord) {after : World MemoryStore ε}
      (runs : World.Runs FreshIds world (Registry.create ctx input) (.ok saved) after) :
      Saves ctx world saved after
  | update (id : Uuid) (input : TimerRecord) {after : World MemoryStore ε}
      (runs : World.Runs FreshIds world (Registry.update ctx id input) (.ok saved) after) :
      Saves ctx world saved after

/-- A settled step spares the jobs of other tenants, if none of them is in the place of this
tenant's. -/
theorem Settled.spares (settled : Settled ctx world after) (owns : OwnsActive ctx.tenant world) :
    SparesOthers ctx.tenant world after := by
  intro key job held other
  by_cases spelled : ∃ id : Uuid, id.toText = key
  · obtain ⟨id, rfl⟩ := spelled
    have unasked : demandOf (world.store.stored ctx.tenant id) = none := by
      by_contra asked
      obtain ⟨record, stored, active⟩ := exists_active_of_demandOf asked
      exact other (owns id record stored active job held)
    rw [settled.jobs, held, settle_taken unasked]
  · rw [settled.others key fun id same => spelled ⟨id, same⟩, held]

/-- Where the job under the id of an active timer is another tenant's, deleting the timer takes it
away. -/
theorem Registry.delete_takes {id : Uuid} {record : TimerRecord}
    {outcome : Except RegistryError PUnit} (sound : world.store.Sound)
    (steady : SteadyEngine.Steady world.engine)
    (stored : world.store.stored ctx.tenant id = some record) (active : record.isActive = true)
    (runs : World.Runs FreshIds world (Registry.delete ctx id) outcome after) :
    after.roster id.toText = none := by
  rcases delete_written sound (runs.steady steady).1 with ⟨missing, _⟩ | written
  · simp [MemoryStore.stored, missing] at stored
  · have settled : Settled ctx world after := written.settled_of_steady not_false
    have gone : demandOf (after.store.stored ctx.tenant id) = none := by
      rw [written.sets.stored, if_pos rfl, demandOf_none]
    rw [settled.jobs, stored, settle_drop (demandOf_ne_none_of_active active) gone]

/-- An active record ends up with a job of the tenant exactly if no other tenant's job was in its
place, and its own was there if nothing new was asked for. -/
theorem settle_owned_iff {id : Uuid} {old : Option TimerRecord} {record : TimerRecord}
    {job : Option Job} (schedulable : record.Schedulable) (active : record.isActive = true) :
    (∃ left, settle ctx id old (some record) job = some left ∧ left.data.tenant = ctx.tenant) ↔
      (∀ held, job = some held → held.data.tenant = ctx.tenant) ∧
        (demandOf old = record.demand → job.isSome) := by
  constructor
  · rintro ⟨left, settled, own⟩
    by_cases same : demandOf old = record.demand
    · rw [settle_of_demand_eq same] at settled
      subst settled
      exact ⟨fun held kept => Option.some.inj kept ▸ own, fun _ => rfl⟩
    · refine ⟨?_, fun equal => absurd equal same⟩
      rintro held rfl
      rw [← data_of_settle settled]
      exact own
  · rintro ⟨owns, present⟩
    have registered : (settle ctx id old (some record) job).isSome :=
      isSome_settle schedulable active present
    obtain ⟨left, settled⟩ := Option.isSome_iff_exists.mp registered
    refine ⟨left, settled, ?_⟩
    cases job with
    | some earlier =>
      rw [data_of_settle settled]
      exact owns earlier rfl
    | none =>
      have differs : demandOf old ≠ record.demand := fun same => by simpa using present same
      obtain ⟨trigger, computed⟩ := schedulable.exists_trigger active
      rw [settle_register differs active computed, Option.some.injEq] at settled
      subst settled
      rfl

/-- A successful creation or update answers what it has stored, and settles the job under its id. -/
theorem Saves.settles {saved : TimerRecord} (saves : Saves ctx world saved after)
    (sound : world.store.Sound) (steady : SteadyEngine.Steady world.engine) :
    ∃ id, saved.id = some id ∧ Settled ctx world after ∧
      after.store.stored ctx.tenant id = some saved := by
  have conclude : ∀ {input record : TimerRecord} {id : Uuid} {kept : TimerRecord},
      Registry.Stores Circumstances.steady ctx input record id kept world (.ok saved) after →
        ∃ id, saved.id = some id ∧ Settled ctx world after ∧
          after.store.stored ctx.tenant id = some saved := by
    intro input record id kept stores
    obtain rfl := stores.returned saved rfl
    exact ⟨id, stores.named, stores.written.settled_of_steady not_false,
      by rw [stores.written.sets.stored, if_pos rfl]⟩
  cases saves with
  | create input runs =>
    rcases Registry.create_stores sound (runs.steady steady).1 with
      ⟨refused, _⟩ | ⟨record, id, kept, _, stores⟩
    · simpa using refused.failed
    · exact conclude stores
  | update id input runs =>
    rcases Registry.update_stores sound (runs.steady steady).1 with
      refused | ⟨record, kept, _, stores⟩
    · simpa using refused.failed
    · exact conclude stores

/-- When tenants are isolated, in every state that a service reaches. The writes of a tenant spare
all jobs of other tenants exactly if no other tenant has the job of one of its active timers; and an
active record that is stored ends up with a job of the tenant exactly if no job of another tenant
was under its id, and its own was there if no new one was asked for. -/
theorem History.isolation_iff {allowed : MemoryStore → Prop} (history : History allowed world)
    (ctx : Context) :
    ((∀ after, Write ctx world after → SparesOthers ctx.tenant world after) ↔
      OwnsActive ctx.tenant world) ∧
      ∀ after saved, Saves ctx world saved after → saved.isActive = true →
        ∃ id, saved.id = some id ∧
        ((∃ job, after.roster id.toText = some job ∧ job.data.tenant = ctx.tenant) ↔
          (∀ job, world.roster id.toText = some job → job.data.tenant = ctx.tenant) ∧
            (demandOf (world.store.stored ctx.tenant id) = saved.demand →
              (world.roster id.toText).isSome)) := by
  obtain ⟨sound, steady⟩ := history.sound
  refine ⟨⟨?_, ?_⟩, ?_⟩
  · intro spares id record stored active job held
    by_contra other
    have deletes : World.Throughout FreshIds world (Registry.delete ctx id) :=
      (Registry.delete_takesNoId id).throughout world
    have left := spares _ (.delete id deletes.runs) _ job held other
    rw [Registry.delete_takes sound steady stored active deletes.runs] at left
    simp at left
  · intro owns after write
    exact (write.settled sound steady).1.spares owns
  · intro after saved saves active
    obtain ⟨id, named, settled, kept⟩ := saves.settles sound steady
    refine ⟨id, named, ?_⟩
    rw [settled.jobs, kept]
    exact settle_owned_iff (settled.sound.schedulable kept) active

/-- Without shared ids every job under the id of a tenant's timer is the tenant's. -/
theorem History.ownsActive (history : History MemoryStore.Unshared world) (tenant : String) :
    OwnsActive tenant world := by
  obtain ⟨unshared, consistent⟩ := history.consistent
  intro id record stored active job held
  obtain ⟨texts, other, owned, _⟩ := consistent.justified _ job held
  apply unshared _ _ id
  · rw [Uuid.toText_injective texts, owned, Option.isSome_some]
  · rw [stored, Option.isSome_some]

/-- Without shared ids tenants are isolated: a tenant's writes spare all jobs of other tenants, and
every active record that is stored ends up with a job of the tenant. -/
theorem History.isolated (history : History MemoryStore.Unshared world) :
    (∀ after, Write ctx world after → SparesOthers ctx.tenant world after) ∧
      ∀ after saved, Saves ctx world saved after → saved.isActive = true → after.store.Unshared →
        ∃ id job, saved.id = some id ∧ after.roster id.toText = some job ∧
          job.data.tenant = ctx.tenant := by
  obtain ⟨sound, steady⟩ := history.sound
  obtain ⟨unshared, consistent⟩ := history.consistent
  refine ⟨fun after write => (write.settled sound steady).1.spares (history.ownsActive ctx.tenant),
    ?_⟩
  intro after saved saves active unsharedAfter
  obtain ⟨id, named, settled, kept⟩ := saves.settles sound steady
  have justified := settled.justified unshared unsharedAfter consistent.justified
  have covered := settled.covered unshared unsharedAfter consistent.covered
  obtain ⟨job, registered⟩ := Option.isSome_iff_exists.mp (covered ctx.tenant id saved kept active)
  refine ⟨id, job, named, registered, ?_⟩
  obtain ⟨texts, other, owned, _⟩ := justified _ job registered
  apply unsharedAfter _ _ id
  · rw [Uuid.toText_injective texts, owned, Option.isSome_some]
  · rw [kept, Option.isSome_some]

/-! ### Two tenants with one id -/

/-- A tenant and its caller. -/
def callerOf (tenant : String) : Context := ⟨tenant, none, none⟩

/-- A timer under an id that the client has chosen. -/
def chosen : TimerRecord := { TimerRecord.minutely with id := some (.ofBits 7) }

/-- Two tenants have been provisioned, and one of them has taken the id. -/
def taken : World MemoryStore LocalEngine :=
  let first := (opened.run (Registry.initTenant (callerOf "north"))).2
  let second := (first.run (Registry.initTenant (callerOf "south"))).2
  (second.run (Registry.create (callerOf "north") chosen)).2

/-- The other tenant has taken the id for an active timer as well. -/
def doubled : World MemoryStore LocalEngine :=
  (taken.run (Registry.create (callerOf "south") chosen)).2

/-- The other tenant has taken the id for a disabled timer, and has then enabled it. -/
def contested : World MemoryStore LocalEngine :=
  let joined := (taken.run (Registry.create (callerOf "south") { chosen with enabled := false })).2
  (joined.run (Registry.switchModule (callerOf "south") "mod" true)).2

theorem history_taken : History (fun _ => True) taken := by
  have start : History (fun _ => True) opened := .start _ trivial
  have first : World.Throughout FreshIds opened (Registry.initTenant (callerOf "north")) := by
    decide +kernel
  have second : World.Throughout FreshIds (opened.run (Registry.initTenant (callerOf "north"))).2
      (Registry.initTenant (callerOf "south")) := by
    decide +kernel
  have third : World.Throughout FreshIds
      ((opened.run (Registry.initTenant (callerOf "north"))).2.run
        (Registry.initTenant (callerOf "south"))).2
      (Registry.create (callerOf "north") chosen) := by
    decide +kernel
  have provisioned := start.call (.initTenant (by decide +kernel) first.runs) trivial
  have joined := provisioned.call (.initTenant (by decide +kernel) second.runs) trivial
  exact joined.call (.write (by decide +kernel) (.create chosen third.runs)) trivial

/-- The tenant that takes the id second harms nobody by it, but its own active timer has no job. -/
theorem doubled_timer_without_own_job :
    (∀ after, Write (callerOf "south") taken after → SparesOthers "south" taken after) ∧
      ¬ ∃ job, doubled.roster (Uuid.ofBits 7).toText = some job ∧ job.data.tenant = "south" := by
  obtain ⟨spares, owned⟩ := history_taken.isolation_iff (callerOf "south")
  have tables : ∀ id, taken.store.stored "south" id = none := by
    have empty : taken.store.table? "south" = some [] := by decide +kernel
    intro id
    rw [MemoryStore.stored_of_table? empty]
    rfl
  constructor
  · apply spares.mpr
    intro id record stored
    simp [callerOf, tables] at stored
  · obtain ⟨saved, answered, active, named⟩ : ∃ saved : TimerRecord,
        (taken.run (Registry.create (callerOf "south") chosen)).1 = .ok saved ∧
          saved.isActive = true ∧ saved.id = some (.ofBits 7) := by
      have succeeds : (taken.run (Registry.create (callerOf "south") chosen)).1.toOption.any
          (fun saved => saved.isActive && saved.id == some (.ofBits 7)) = true := by
        decide +kernel
      cases answered : (taken.run (Registry.create (callerOf "south") chosen)).1 with
      | error e => simp [answered, Except.toOption] at succeeds
      | ok saved => simpa [answered, Except.toOption] using succeeds
    have creation :
        World.Throughout FreshIds taken (Registry.create (callerOf "south") chosen) := by
      decide +kernel
    have saves : Saves (callerOf "south") taken saved doubled :=
      .create chosen (answered ▸ creation.runs)
    obtain ⟨id, sameId, own⟩ := owned doubled saved saves active
    obtain rfl := Option.some.inj (named.symm.trans sameId)
    intro present
    have other := (own.mp present).1
    have kept : (taken.roster (Uuid.ofBits 7).toText).any (·.data.tenant == "north") = true := by
      decide +kernel
    obtain ⟨job, held, north⟩ : ∃ job, taken.roster (Uuid.ofBits 7).toText = some job ∧
        job.data.tenant = "north" := by
      simpa [Option.any_eq_true] using kept
    have south := other job held
    simp [north, callerOf] at south

theorem history_contested : History (fun _ => True) contested := by
  have creation : World.Throughout FreshIds taken
      (Registry.create (callerOf "south") { chosen with enabled := false }) := by
    decide +kernel
  have enabling : World.Throughout FreshIds
      (taken.run (Registry.create (callerOf "south") { chosen with enabled := false })).2
      (Registry.switchModule (callerOf "south") "mod" true) := by
    decide +kernel
  have joined := history_taken.call (.write (by decide +kernel) (.create _ creation.runs)) trivial
  exact joined.call (.write (by decide +kernel) (.switchModule "mod" true enabling.runs)) trivial

/-- Where two tenants have taken one id, a deletion of the one drops the job of the other. -/
theorem deletion_drops_job_of_other_tenant :
    ¬ ∀ (world : World MemoryStore LocalEngine) (ctx : Context), History (fun _ => True) world →
      (∀ after, Write ctx world after → SparesOthers ctx.tenant world after) ∧
        ∀ after saved, Saves ctx world saved after → saved.isActive = true →
          ∃ id job, saved.id = some id ∧
          after.roster id.toText = some job ∧ job.data.tenant = ctx.tenant := by
  intro isolated
  obtain ⟨spares, _⟩ := isolated contested (callerOf "south") history_contested
  have deletion :
      World.Throughout FreshIds contested (Registry.delete (callerOf "south") (.ofBits 7)) := by
    decide +kernel
  have kept : (contested.roster (Uuid.ofBits 7).toText).any (·.data.tenant == "north") = true := by
    decide +kernel
  obtain ⟨job, held, north⟩ : ∃ job, contested.roster (Uuid.ofBits 7).toText = some job ∧
      job.data.tenant = "north" := by
    simpa [Option.any_eq_true] using kept
  have spared := spares _ (.delete (.ofBits 7) deletion.runs) _ job held (by simp [north, callerOf])
  have dropped : (contested.run (Registry.delete (callerOf "south") (.ofBits 7))).2.roster
      (Uuid.ofBits 7).toText = none := by
    decide +kernel
  rw [dropped] at spared
  simp at spared

end Horarium
