/-
Module: Horarium.Proofs.RosterRebuild
Purpose: Registering the jobs of stored timers anew, for one tenant or for all. Jobs that are there
  already are left alone, so that a rebuild adds what is missing and changes nothing else.
Trusted boundary: none
Main exports: Enrolls, Justified, Enrolls.keeps, Enrolls.justified, Registry.initTenant_enrolls,
  Registry.rebuildTenants_inv, Registry.rebuildAll_covers
-/
import Horarium.Proofs.RegistryBatches

namespace Horarium

variable {ε : Type} [JobEngine ε] {c : Circumstances} {world middle after : World MemoryStore ε}
  {ctx : Context} {records : List TimerRecord} {store : MemoryStore} {roster enrolled : Roster}

/-- The jobs of a tenant's timers have been registered as far as they were missing. -/
structure Enrolls (ctx : Context) (store : MemoryStore) (roster enrolled : Roster) : Prop where
  jobs : ∀ id : Uuid,
    enrolled id.toText = settle ctx id none (store.stored ctx.tenant id) (roster id.toText)
  others : ∀ key, (∀ id : Uuid, id.toText ≠ key) → enrolled key = roster key

/-- Every job is that of a stored active record, with the record's trigger and for its tenant. -/
def Justified (store : MemoryStore) (roster : Roster) : Prop :=
  ∀ key job, roster key = some job → key = job.data.timer.toText ∧
    ∃ record, store.stored job.data.tenant job.data.timer = some record ∧ record.isActive = true ∧
      record.trigger = .ok job.trigger

/-- Jobs that are there stay as they are. -/
theorem Enrolls.keeps (enrolls : Enrolls ctx store roster enrolled) {key : String} {job : Job}
    (held : roster key = some job) : enrolled key = some job := by
  by_cases spelled : ∃ id : Uuid, id.toText = key
  · obtain ⟨id, rfl⟩ := spelled
    rw [enrolls.jobs, held, settle_taken demandOf_none]
  · rw [enrolls.others key fun id same => spelled ⟨id, same⟩, held]

/-- After enrolment every active record of the tenant has a job. -/
theorem Enrolls.covers (enrolls : Enrolls ctx store roster enrolled) (sound : store.Sound)
    {id : Uuid} {record : TimerRecord} (held : store.stored ctx.tenant id = some record)
    (active : record.isActive = true) : (enrolled id.toText).isSome := by
  obtain ⟨trigger, computed⟩ := (sound.schedulable held).exists_trigger active
  have asked : demandOf none ≠ record.demand := by simp [TimerRecord.demand_of_active active]
  cases before : roster id.toText with
  | some job => rw [enrolls.keeps before, Option.isSome_some]
  | none =>
    rw [enrolls.jobs, before, held, settle_register asked active computed, Option.isSome_some]

/-- What enrolment registers is justified by what is stored. -/
theorem Enrolls.justified (enrolls : Enrolls ctx store roster enrolled) (sound : store.Sound)
    (justified : Justified store roster) : Justified store enrolled := by
  intro key job held
  by_cases spelled : ∃ id : Uuid, id.toText = key
  · obtain ⟨id, rfl⟩ := spelled
    cases before : roster id.toText with
    | some earlier =>
      rw [enrolls.keeps before, Option.some.injEq] at held
      exact justified _ job (held ▸ before)
    | none =>
      rw [enrolls.jobs, before] at held
      cases stored : store.stored ctx.tenant id with
      | none =>
        rw [stored, settle_of_demand_eq rfl] at held
        simp at held
      | some record =>
        rw [stored] at held
        cases active : record.isActive with
        | false =>
          have unasked : demandOf none = demandOf (some record) :=
            (TimerRecord.demand_of_inactive active).symm
          rw [settle_of_demand_eq unasked] at held
          simp at held
        | true =>
          obtain ⟨trigger, computed⟩ := (sound.schedulable stored).exists_trigger active
          rw [settle_register (by simp [TimerRecord.demand_of_active active]) active computed,
            Option.some.injEq] at held
          subst held
          exact ⟨rfl, record, stored, active, computed⟩
  · rw [enrolls.others key fun id same => spelled ⟨id, same⟩] at held
    exact justified key job held

/-- Registering the jobs of records, by induction on the records; while the engine is available,
nothing is left out. -/
theorem Reconcile.rebuild_pass {δ : Type} {outcome : Except δ Nat} (steady : ¬ c.outage)
    (named : ∀ record ∈ records, ∃ id, record.id = some id)
    (schedulable : ∀ record ∈ records, record.Schedulable) (nodup : (records.map (·.id)).Nodup)
    (runs : World.Runs c.Admits world (Reconcile.rebuild ctx records) outcome after) :
    (∃ n, outcome = .ok n) ∧ after.store = world.store ∧
      Pass ctx (fun _ => none) some records world.roster after.roster := by
  induction records generalizing world outcome with
  | nil =>
    obtain ⟨rfl, rfl⟩ := runs.done_inv
    exact ⟨⟨0, rfl⟩, rfl, .nil⟩
  | cons record records ih =>
    obtain ⟨id, recordNamed⟩ := named record (by simp)
    rw [List.map_cons, List.nodup_cons] at nodup
    unfold rebuild at runs
    obtain ⟨inner, middle, scheduling, rest⟩ := runs.attempt_bind_inv
    rcases schedule_reconciled recordNamed (schedulable record (by simp)) scheduling with
      ⟨_, settles⟩ | ⟨_, outage, _⟩
    · rcases rest.bind_inv with ⟨n, last, others, counted⟩ | ⟨e, others, _⟩
      · obtain ⟨ended, rfl⟩ : (∃ n, outcome = .ok n) ∧ after = last := by
          split at counted
          · obtain ⟨rfl, rfl⟩ := counted.done_inv
            exact ⟨⟨_, rfl⟩, rfl⟩
          · obtain ⟨rfl, rfl⟩ := counted.done_inv
            exact ⟨⟨_, rfl⟩, rfl⟩
        obtain ⟨_, store, pass⟩ := ih (fun other later => named other (by simp [later]))
          (fun other later => schedulable other (by simp [later])) nodup.2 others
        exact ⟨ended, store.trans settles.store, pass.cons recordNamed nodup.1 settles.roster⟩
      · obtain ⟨⟨n, succeeded⟩, _⟩ := ih (fun other later => named other (by simp [later]))
          (fun other later => schedulable other (by simp [later])) nodup.2 others
        simp at succeeded
    · exact absurd outage steady

/-- Registering the jobs of all listed timers of a tenant enrols the tenant. -/
theorem Reconcile.rebuild_enrolls {δ : Type} {outcome : Except δ Nat} (steady : ¬ c.outage)
    (sound : world.store.Sound) (lists : world.store.Lists ctx.tenant (fun _ => True) records)
    (runs : World.Runs c.Admits world (Reconcile.rebuild ctx records) outcome after) :
    (∃ n, outcome = .ok n) ∧ after.store = world.store ∧
      Enrolls ctx world.store world.roster after.roster := by
  have listed : ∀ record ∈ records, ∃ id, record.id = some id ∧
      world.store.stored ctx.tenant id = some record := by
    intro record member
    obtain ⟨id, named, held, _⟩ := lists.stored_of_mem sound.wellFormed member
    exact ⟨id, named, held⟩
  obtain ⟨ended, store, pass⟩ := rebuild_pass steady
    (fun record member => ⟨_, (listed record member).choose_spec.1⟩)
    (fun record member => sound.schedulable (listed record member).choose_spec.2) lists.nodup runs
  refine ⟨ended, store, ?_, ?_⟩
  · intro id
    cases held : world.store.stored ctx.tenant id with
    | some record =>
      have member := (lists.mem_iff record).mpr ⟨id, held, trivial⟩
      exact pass.jobs record member id (sound.wellFormed.id_of_stored held)
    | none =>
      rw [settle_of_demand_eq rfl]
      apply pass.untouched
      intro record member named
      obtain ⟨storedId, storedNamed, stored⟩ := listed record member
      obtain rfl := Option.some.inj (storedNamed.symm.trans named)
      simp [held] at stored
  · intro key free
    exact pass.unspelled free

namespace Registry

/-- The first steps of a tenant: it gets a table if it has none, and its timers are enrolled. -/
theorem initTenant_enrolls {outcome : Except RegistryError Nat} (steady : ¬ c.outage)
    (sound : world.store.Sound) (runs : World.Runs c.Admits world (initTenant ctx) outcome after) :
    after.store = world.store.provision ctx.tenant ∧
    Enrolls ctx world.store world.roster after.roster := by
  unfold initTenant at runs
  have answer : MemoryStore.answer (.provision ctx.tenant) world.store =
      (.ok ⟨⟩, world.store.provision ctx.tenant) := rfl
  have listing := runs.ask_answered answer
  have soundHere := sound.provision ctx.tenant
  rcases list_inv soundHere listing with ⟨missing, _⟩ | ⟨records, lists, rest⟩
  · rw [MemoryStore.table?_provision, if_pos rfl] at missing
    simp at missing
  · obtain ⟨_, kept, enrolls⟩ := Reconcile.rebuild_enrolls steady soundHere lists rest
    refine ⟨kept, ?_, enrolls.others⟩
    intro id
    rw [enrolls.jobs, MemoryStore.stored_provision]
    rfl

/-- Where the engine is steady, a rebuild of several tenants enrols the first and goes on with the
others. -/
theorem rebuildTenants_inv {name : String} {names : List String}
    {outcome : Except RegistryError Nat} (steady : ¬ c.outage) (sound : world.store.Sound)
    (valid : Context.isTenantName name = true) (provisioned : (world.store.table? name).isSome)
    (runs : World.Runs c.Admits world (rebuildTenants (name :: names)) outcome after) :
    ∃ (enrolled : World MemoryStore ε) (final : Except RegistryError Nat),
      enrolled.store = world.store ∧
      Enrolls ⟨name, none, none⟩ world.store world.roster enrolled.roster ∧
      World.Runs c.Admits enrolled (rebuildTenants names) final after := by
  unfold rebuildTenants at runs
  simp only [Context.ofTenant, valid, if_true] at runs
  have listing : World.Runs c.Admits world
      (ask (.list (Context.mk name none none).tenant) >>= fun records =>
        Reconcile.rebuild ⟨name, none, none⟩ records >>= fun here =>
          rebuildTenants names >>= fun others => pure (here + others)) outcome after := runs
  rcases list_inv sound listing with ⟨missing, _⟩ | ⟨records, lists, rest⟩
  · simp [missing] at provisioned
  rcases rest.bind_inv with ⟨here, enrolled, rebuilding, others⟩ | ⟨e, rebuilding, _⟩
  · obtain ⟨_, enrolledStore, enrolls⟩ := Reconcile.rebuild_enrolls steady sound lists rebuilding
    rcases others.bind_inv with ⟨n, last, others, counted⟩ | ⟨e, others, _⟩
    · obtain ⟨_, rfl⟩ := counted.done_inv
      exact ⟨enrolled, _, enrolledStore, enrolls, others⟩
    · exact ⟨enrolled, _, enrolledStore, enrolls, others⟩
  · obtain ⟨⟨n, succeeded⟩, _⟩ := Reconcile.rebuild_enrolls steady sound lists rebuilding
    simp at succeeded

/-- What a rebuild of several tenants leaves, by induction on their names: jobs stay justified and
stay as they were, and every tenant that can be named gets the jobs of its active records. -/
theorem rebuildTenants_covers {names : List String} {outcome : Except RegistryError Nat}
    (steady : ¬ c.outage) (sound : world.store.Sound)
    (provisioned : ∀ name ∈ names, (world.store.table? name).isSome)
    (justified : Justified world.store world.roster)
    (runs : World.Runs c.Admits world (rebuildTenants names) outcome after) :
    after.store = world.store ∧ Justified world.store after.roster ∧
      (∀ key job, world.roster key = some job → after.roster key = some job) ∧
      ∀ name ∈ names, Context.isTenantName name = true → ∀ id record,
        world.store.stored name id = some record → record.isActive = true →
          (after.roster id.toText).isSome := by
  induction names generalizing world outcome with
  | nil =>
    obtain ⟨rfl, rfl⟩ := runs.done_inv
    exact ⟨rfl, justified, fun _ _ held => held, by simp⟩
  | cons name names ih =>
    have laterProvisioned : ∀ other ∈ names, (world.store.table? other).isSome :=
      fun other later => provisioned other (by simp [later])
    cases valid : Context.isTenantName name with
    | false =>
      unfold rebuildTenants at runs
      simp only [Context.ofTenant, valid, Bool.false_eq_true, if_false] at runs
      obtain ⟨store, justifiedAfter, keeps, covers⟩ := ih sound laterProvisioned justified runs
      refine ⟨store, justifiedAfter, keeps, ?_⟩
      intro other member otherValid
      rcases List.mem_cons.mp member with rfl | later
      · simp [valid] at otherValid
      · exact covers other later otherValid
    | true =>
      obtain ⟨enrolled, final, enrolledStore, enrolls, last⟩ :=
        rebuildTenants_inv steady sound valid (provisioned name (by simp)) runs
      obtain ⟨lastStore, justifiedAfter, keeps, covers⟩ := ih (enrolledStore ▸ sound)
        (enrolledStore ▸ laterProvisioned) (enrolledStore ▸ enrolls.justified sound justified) last
      rw [enrolledStore] at lastStore justifiedAfter covers
      refine ⟨lastStore, justifiedAfter, fun key job held => keeps key job (enrolls.keeps held), ?_⟩
      intro other member otherValid id record held active
      rcases List.mem_cons.mp member with rfl | later
      · obtain ⟨job, registered⟩ := Option.isSome_iff_exists.mp (enrolls.covers sound held active)
        rw [keeps _ job registered, Option.isSome_some]
      · exact covers other later otherValid id record held active

/-- After all tenants have been rebuilt, every active record of a tenant that can be named has a
job. -/
theorem rebuildAll_covers {outcome : Except RegistryError Nat} (steady : ¬ c.outage)
    (sound : world.store.Sound) (justified : Justified world.store world.roster)
    (runs : World.Runs c.Admits world rebuildAll outcome after) :
    after.store = world.store ∧ Justified world.store after.roster ∧
      ∀ name, Context.isTenantName name = true → ∀ id record,
        world.store.stored name id = some record → record.isActive = true →
          (after.roster id.toText).isSome := by
  unfold rebuildAll at runs
  have answer :
      MemoryStore.answer .tenants world.store = (.ok world.store.tenantNames, world.store) := rfl
  obtain ⟨sameStore, justifiedAfter, _, covers⟩ := rebuildTenants_covers steady sound
    (fun name member => (MemoryStore.mem_tenantNames _ name).mp member) justified
      (runs.ask_answered answer)
  refine ⟨sameStore, justifiedAfter, ?_⟩
  intro name valid id record held active
  have member : name ∈ world.store.tenantNames := by
    rw [MemoryStore.mem_tenantNames]
    cases found : world.store.table? name with
    | none => simp [MemoryStore.stored, found] at held
    | some table => rfl
  exact covers name member valid id record held active

end Registry

end Horarium
