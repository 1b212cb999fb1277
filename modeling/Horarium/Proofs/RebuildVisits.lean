/-
Module: Horarium.Proofs.RebuildVisits
Purpose: Which tenants a rebuild visits. It asks the store for the tenants, lists the timers of each
  that can be named, in the order in which they are given to it, and registers jobs under the names
  that it has visited and no others.
Trusted boundary: none
Main exports: World.listings, Registry.listings_rebuildTenants, Registry.rebuildTenants_jobsWithin
-/
import Horarium.Proofs.Exchanges
import Horarium.Proofs.MissingJobs

namespace Horarium

/-- The tenant whose timers the request lists. -/
def Request.listed? : Request → Option String
  | .store (.list tenant) => some tenant
  | _ => none

/-- The tenant's timers can be listed, and listing them changes nothing. -/
def TimerStore.Lists {σ : Type} [TimerStore σ] (store : σ) (tenant : String) : Prop :=
  ∃ records, TimerStore.answer (.list tenant) store = (.ok records, store)

/-- If the request is for a new job, it is for the job of one of these tenants. -/
def Request.JobsWithin (tenants : List String) : Request → Prop
  | .engine (.register _ _ data) => data.tenant ∈ tenants
  | _ => True

theorem Request.JobsWithin.mono {tenants more : List String} (included : tenants ⊆ more)
    {request : Request} (within : request.JobsWithin tenants) : request.JobsWithin more := by
  cases request with
  | engine request =>
    cases request with
    | register => exact included within
    | _ => trivial
  | _ => trivial

namespace Reconcile

/-- The request is for a new job of the tenant. -/
def RegistersFor (tenant : String) : Request → Prop
  | .engine (.register _ _ data) => data.tenant = tenant
  | _ => False

theorem RegistersFor.jobsWithin {tenant : String} {tenants : List String}
    (member : tenant ∈ tenants) {request : Request} (registers : RegistersFor tenant request) :
    request.JobsWithin tenants := by
  cases request with
  | engine request =>
    cases request with
    | register key trigger data =>
      obtain rfl : data.tenant = tenant := registers
      exact member
    | _ => exact registers.elim
  | _ => exact registers.elim

theorem schedule_registersFor (ctx : Context) (record : TimerRecord) :
    (schedule ctx record).Asks (RegistersFor ctx.tenant) := by
  unfold schedule
  split
  · exact .done _
  · split
    · exact .fail _
    · split
      · exact .fail _
      · refine Procedure.Asks.bind (.ask rfl fun answer => .done answer) fun answer => ?_
        split
        · exact .done _
        · exact .done _
        · exact .fail _

/-- A rebuild asks for new jobs only, all of them for the tenant on whose behalf it is made. -/
theorem rebuild_registersFor {δ : Type} (ctx : Context) (records : List TimerRecord) :
    (rebuild ctx records : Procedure δ Nat).Asks (RegistersFor ctx.tenant) := by
  induction records with
  | nil => exact .done _
  | cons record records ih =>
    refine (schedule_registersFor ctx record).attempt.bind fun outcome => ih.bind fun others => ?_
    split <;> exact .done _

end Reconcile

variable {σ ε η α β : Type} [TimerStore σ] [SchedulingEngine ε] {ctx : Context}

namespace World

/-- The tenants whose timers a procedure lists, in this order. -/
def listings (world : World σ ε) (p : Procedure η α) : List String :=
  (world.exchanges p).filterMap (·.request.listed?)

theorem listings_bind {world after : World σ ε} {p : Procedure η α} {a : α}
    (ran : world.run p = (.ok a, after)) (f : α → Procedure η β) :
    world.listings (p >>= f) = world.listings p ++ after.listings (f a) := by
  simp only [listings, exchanges_bind, ran, List.filterMap_append]

theorem listings_bind_pure (world : World σ ε) (p : Procedure η α) (f : α → β) :
    world.listings (p >>= fun a => pure (f a)) = world.listings p :=
  congrArg (List.filterMap _) (exchanges_bind_done world p f)

/-- Where only the engine is asked, nothing is listed. -/
theorem listings_of_asks_engine {p : Procedure η α} (only : p.Asks Request.IsEngine)
    (world : World σ ε) :
    world.listings p = [] := by
  refine List.filterMap_eq_nil_iff.mpr fun exchange member => ?_
  obtain ⟨request, answer⟩ := exchange
  have engine : request.IsEngine := allowed_of_mem_exchanges only world member
  cases request with
  | engine request => rfl
  | _ => exact engine.elim

end World

namespace Reconcile

/-- However its records fare, a rebuild ends, and it leaves the store as it is. -/
theorem rebuild_ends (ctx : Context) (records : List TimerRecord) (world : World σ ε) :
    ∃ count after, world.run (rebuild ctx records : Procedure η Nat) = (.ok count, after) ∧
      after.store = world.store := by
  induction records generalizing world with
  | nil => exact ⟨0, world, rfl, rfl⟩
  | cons record records ih =>
    obtain ⟨count, after, ran, kept⟩ := ih (world.run (schedule ctx record)).2
    have keptBefore : (world.run (schedule ctx record)).2.store = world.store :=
      (world.run_of_asks_engine (schedule_asks record)).1
    unfold rebuild
    show ∃ count after,
      world.run
        ((schedule ctx record).attempt.bind fun _ => (rebuild ctx records).bind fun _ => _) =
        (.ok count, after) ∧ after.store = world.store
    rw [World.run_bind, World.run_attempt]
    dsimp only
    rw [World.run_bind, ran]
    dsimp only
    split <;> exact ⟨_, after, rfl, kept.trans keptBefore⟩

end Reconcile

namespace Registry

theorem rebuildTenants_cons (name : String) (names : List String) :
    rebuildTenants (name :: names) =
      if Context.isTenantName name then
        ask (.list name) >>= fun records =>
          Reconcile.rebuild ⟨name, none, none⟩ records >>= fun here =>
            rebuildTenants names >>= fun others => pure (here + others)
      else rebuildTenants names := by
  rw [rebuildTenants, Context.ofTenant]
  cases Context.isTenantName name <;> rfl

/-- A request that leaves the store as it is leaves the world as it is. -/
theorem run_ask {world : World σ ε} {request : StoreRequest} {result : request.Result}
    (answered : TimerStore.answer request world.store = (.ok result, world.store)) :
    world.run (ask request) = (.ok result, world) := by
  show World.run (world.answer (.store request)).2
    (Procedure.ofExcept RegistryError.store (world.answer (.store request)).1) = _
  simp only [World.answer, answered]
  rfl

theorem listings_ask {world : World σ ε} {request : StoreRequest} {result : request.Result}
    (answered : TimerStore.answer request world.store = (.ok result, world.store)) :
    world.listings (ask request) = (Request.listed? (.store request)).toList := by
  show List.filterMap _ (_ :: World.exchanges (world.answer (.store request)).2
    (Procedure.ofExcept RegistryError.store (world.answer (.store request)).1)) = _
  simp only [World.answer, answered]
  cases listed : Request.listed? (.store request) with
  | none => exact List.filterMap_cons_none listed
  | some tenant => exact List.filterMap_cons_some listed

/-- A visit lists the tenant's timers, and leaves the store as it is to what comes after. -/
theorem listings_visit {tenant : String} {world : World σ ε}
    (listed : TimerStore.Lists world.store tenant) (rest : Nat → Operation α) :
    ∃ (count : Nat) (after : World σ ε), after.store = world.store ∧
      world.listings (ask (.list tenant) >>= fun records =>
        Reconcile.rebuild ⟨tenant, none, none⟩ records >>= rest) =
          tenant :: after.listings (rest count) := by
  obtain ⟨records, answered⟩ := listed
  obtain ⟨count, after, ran, kept⟩ :=
    Reconcile.rebuild_ends (η := RegistryError) ⟨tenant, none, none⟩ records world
  refine ⟨count, after, kept, ?_⟩
  rw [World.listings_bind (run_ask answered), listings_ask answered, World.listings_bind ran,
    World.listings_of_asks_engine (Reconcile.rebuild_asks records)]
  rfl

/-- A rebuild visits the tenants that can be named, in their order, where their timers can be
listed. -/
theorem listings_rebuildTenants {names : List String} {world : World σ ε}
    (listed : ∀ name ∈ names, Context.isTenantName name = true →
      TimerStore.Lists world.store name) :
    world.listings (rebuildTenants names) = names.filter Context.isTenantName := by
  induction names generalizing world with
  | nil => rfl
  | cons name names ih =>
    obtain ⟨here, later⟩ := List.forall_mem_cons.mp listed
    rw [rebuildTenants_cons, List.filter_cons]
    split
    · rename_i fit
      obtain ⟨count, after, kept, visited⟩ :=
        listings_visit (here fit) fun here => rebuildTenants names >>=
          fun others => pure (here + others)
      rw [visited, World.listings_bind_pure, ih (kept ▸ later)]
    · exact ih later

theorem ask_jobsWithin (request : StoreRequest) (tenants : List String) :
    (ask request).Asks (Request.JobsWithin tenants) :=
  .ask trivial fun answer => .ofExcept _ answer

/-- The jobs that are asked for are those of the tenants that are visited. -/
theorem rebuildTenants_jobsWithin (names : List String) :
    (rebuildTenants names).Asks (Request.JobsWithin (names.filter Context.isTenantName)) := by
  induction names with
  | nil => exact .done _
  | cons name names ih =>
    rw [rebuildTenants_cons, List.filter_cons]
    split
    · refine (ask_jobsWithin _ _).bind fun records =>
        ((Reconcile.rebuild_registersFor ⟨name, none, none⟩ records).mono ?_).bind fun here =>
          (ih.mono ?_).bind fun others => .done _
      · exact fun request registers => registers.jobsWithin List.mem_cons_self
      · exact fun request within => within.mono (List.subset_cons_self name _)
    · exact ih

end Registry

end Horarium
