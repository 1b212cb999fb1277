/-
Module: Horarium.Proofs.History
Purpose: Histories of a service: any calls of any tenants and any restarts, from an empty store and
  an empty engine that does what it is asked. Calls may fail; a history goes on from whatever they
  leave.
Trusted boundary: none; that generated ids are fresh is assumed request by request (`FreshIds`)
Main exports: FreshIds, Procedure.Asks.throughout, Circumstances.steady, World.Runs.steady, Write,
  History, History.sound
-/
import Horarium.Proofs.EventSteps
import Horarium.Proofs.RosterRebuild

namespace Horarium

section Runs

variable {ε : Type} [JobEngine ε]

/-- An id that is generated is one that no tenant has stored. -/
def FreshIds (world : World MemoryStore ε) : Request → Prop
  | .newId =>
    ∀ tenant, world.store.stored tenant (world.sources.idAt (world.sources.ids + 1)) = none
  | _ => True

instance (world : World MemoryStore ε) : (request : Request) → Decidable (FreshIds world request)
  | .newId => decidable_of_iff _ (MemoryStore.stored_eq_none_iff _ _).symm
  | .store _ => .isTrue trivial
  | .engine _ => .isTrue trivial
  | .now => .isTrue trivial

/-- What takes no new id needs no fresh one. -/
theorem Procedure.Asks.throughout {δ α : Type} {p : Procedure δ α} (asks : p.Asks Request.TakesNoId)
    (world : World MemoryStore ε) : World.Throughout FreshIds world p := by
  induction asks generalizing world with
  | done a => trivial
  | fail e => trivial
  | @ask request next here _ ih =>
    refine ⟨?_, ih _ _⟩
    cases request with
    | newId => exact here.elim
    | store request => trivial
    | engine request => trivial
    | now => trivial

/-- The engine is always available, and generated ids are fresh. -/
def Circumstances.steady : Circumstances where
  outage := False
  mayGenerate store _ id := ∀ tenant, store.stored tenant id = none
  unstored free := free

end Runs

variable {ε : Type} [SteadyEngine ε] {world after : World MemoryStore ε} {ctx : Context}

/-- An engine that is steady at first stays so, and performs all that a procedure asks of it. -/
theorem World.Runs.steady {δ α : Type} {p : Procedure δ α} {outcome : Except δ α}
    (runs : World.Runs FreshIds world p outcome after) (steady : SteadyEngine.Steady world.engine) :
    World.Runs Circumstances.steady.Admits world p outcome after ∧
    SteadyEngine.Steady after.engine := by
  induction runs with
  | done world a => exact ⟨.done world a, steady⟩
  | fail world e => exact ⟨.fail world e, steady⟩
  | @ask world request next outcome after fresh rest ih =>
    have steadyNext : SteadyEngine.Steady (world.answer request).2.engine := by
      cases request with
      | engine request => exact SteadyEngine.steady_answer steady
      | store request => exact steady
      | now => exact steady
      | newId => exact steady
    have admitted : Circumstances.steady.Admits world request := by
      cases request with
      | engine request => exact fun plannable => .inl (SteadyEngine.performs steady plannable)
      | store request => trivial
      | now => trivial
      | newId => exact fresh
    obtain ⟨admittedRest, steadyAfter⟩ := ih steadyNext
    exact ⟨.ask admitted admittedRest, steadyAfter⟩

/-- A write of a tenant, successful or failed. -/
inductive Write (ctx : Context) (world : World MemoryStore ε) : World MemoryStore ε → Prop where
  | create (input : TimerRecord) {outcome : Except RegistryError TimerRecord}
      {after : World MemoryStore ε}
      (runs : World.Runs FreshIds world (Registry.create ctx input) outcome after) :
      Write ctx world after
  | update (id : Uuid) (input : TimerRecord) {outcome : Except RegistryError TimerRecord}
      {after : World MemoryStore ε}
      (runs : World.Runs FreshIds world (Registry.update ctx id input) outcome after) :
      Write ctx world after
  | delete (id : Uuid) {outcome : Except RegistryError PUnit} {after : World MemoryStore ε}
      (runs : World.Runs FreshIds world (Registry.delete ctx id) outcome after) :
      Write ctx world after
  | switchModule (moduleName : String) (enable : Bool) {outcome : Except RegistryError Nat}
      {after : World MemoryStore ε}
      (runs : World.Runs FreshIds world (Registry.switchModule ctx moduleName enable)
        outcome after) :
      Write ctx world after

/-- A call of the registry or a restart, successful or failed. Contexts name tenants as their
constructor admits them. A restart goes on with an empty engine and the stored timers. -/
inductive Call (world : World MemoryStore ε) : World MemoryStore ε → Prop where
  | write {ctx : Context} {after : World MemoryStore ε}
      (valid : Context.isTenantName ctx.tenant = true)
      (write : Write ctx world after) : Call world after
  | deleteAll {ctx : Context} {outcome : Except RegistryError Nat} {after : World MemoryStore ε}
      (valid : Context.isTenantName ctx.tenant = true)
      (runs : World.Runs FreshIds world (Registry.deleteAll ctx) outcome after) : Call world after
  | initTenant {ctx : Context} {outcome : Except RegistryError Nat} {after : World MemoryStore ε}
      (valid : Context.isTenantName ctx.tenant = true)
      (runs : World.Runs FreshIds world (Registry.initTenant ctx) outcome after) : Call world after
  | resource (event : ResourceEvent) {outcome : Except SyncError Nat} {after : World MemoryStore ε}
      (runs : World.Runs FreshIds world (Sync.resource event) outcome after) : Call world after
  | entitlement (event : EntitlementEvent) {outcome : Except SyncError Nat}
      {after : World MemoryStore ε}
      (runs : World.Runs FreshIds world (Sync.entitlement event) outcome after) : Call world after
  | restart {outcome : Except RegistryError Nat} {after : World MemoryStore ε}
      (runs : World.Runs FreshIds { world with engine := SteadyEngine.initial } Registry.rebuildAll
        outcome after) : Call world after

/-- The states that a service reaches while all its stores are allowed ones. -/
inductive History (allowed : MemoryStore → Prop) : World MemoryStore ε → Prop where
  | start (sources : Sources) (kept : allowed .empty) :
      History allowed ⟨.empty, SteadyEngine.initial, sources⟩
  | call {world after : World MemoryStore ε} (before : History allowed world)
      (call : Call world after) (kept : allowed after.store) : History allowed after

theorem JobEngine.roster_initial : JobEngine.roster (SteadyEngine.initial : ε) = fun _ => none := by
  unfold JobEngine.roster Roster.ofList
  rw [SteadyEngine.entries_initial]
  rfl

theorem justified_initial (store : MemoryStore) :
    Justified store (JobEngine.roster (SteadyEngine.initial : ε)) := by
  intro key job held
  rw [JobEngine.roster_initial] at held
  simp at held

/-- A write of a tenant settles the jobs under the ids of the tenant's timers. -/
theorem Write.settled (write : Write ctx world after) (sound : world.store.Sound)
    (steady : SteadyEngine.Steady world.engine) :
    Settled ctx world after ∧ SteadyEngine.Steady after.engine := by
  have available : ¬ Circumstances.steady.outage := id
  cases write with
  | create input runs =>
    obtain ⟨admitted, steadyAfter⟩ := runs.steady steady
    refine ⟨?_, steadyAfter⟩
    rcases Registry.create_stores sound admitted with ⟨refused, _⟩ | ⟨record, id, saved, _, stores⟩
    · exact .of_idle sound refused.store refused.roster
    · exact stores.written.settled_of_steady available
  | update id input runs =>
    obtain ⟨admitted, steadyAfter⟩ := runs.steady steady
    refine ⟨?_, steadyAfter⟩
    rcases Registry.update_stores sound admitted with refused | ⟨record, saved, _, stores⟩
    · exact .of_idle sound refused.store refused.roster
    · exact stores.written.settled_of_steady available
  | delete id runs =>
    obtain ⟨admitted, steadyAfter⟩ := runs.steady steady
    refine ⟨?_, steadyAfter⟩
    rcases Registry.delete_written sound admitted with ⟨_, refused⟩ | written
    · exact .of_idle sound refused.store refused.roster
    · exact written.settled_of_steady available
  | switchModule moduleName enable runs =>
    obtain ⟨admitted, steadyAfter⟩ := runs.steady steady
    refine ⟨?_, steadyAfter⟩
    rcases Registry.switchModule_outcome sound admitted with
      ⟨_, _, refused⟩ | ⟨_, _, ⟨_, link⟩ | ⟨_, outage, _⟩⟩
    · exact .of_idle sound refused.store refused.roster
    · exact link.toSettled
    · exact absurd outage available

/-- What a call comes to: one settled step, several that store new timers under generated ids only,
the enrolment of a tenant, or a rebuild from an empty engine. -/
inductive Effect (world after : World MemoryStore ε) : Prop where
  | settled (ctx : Context) (step : Settled ctx world after)
  | chain (ctx : Context) (steps : Chain .steady ctx world after)
  | enrolment (ctx : Context) (valid : Context.isTenantName ctx.tenant = true)
      (store : after.store = world.store.provision ctx.tenant)
      (enrolls : Enrolls ctx world.store world.roster after.roster)
  | rebuild (store : after.store = world.store) (justified : Justified world.store after.roster)
      (covered : ∀ name, Context.isTenantName name = true → ∀ id record,
        world.store.stored name id = some record → record.isActive = true →
          (after.roster id.toText).isSome)

theorem Call.effect (call : Call world after) (sound : world.store.Sound)
    (steady : SteadyEngine.Steady world.engine) :
    Effect world after ∧ SteadyEngine.Steady after.engine := by
  have available : ¬ Circumstances.steady.outage := id
  cases call with
  | write _ write =>
    obtain ⟨settled, steadyAfter⟩ := write.settled sound steady
    exact ⟨.settled _ settled, steadyAfter⟩
  | deleteAll _ runs =>
    obtain ⟨admitted, steadyAfter⟩ := runs.steady steady
    exact ⟨.chain _ ((Registry.deleteAll_progress sound admitted).chain_of_steady available),
      steadyAfter⟩
  | initTenant valid runs =>
    obtain ⟨admitted, steadyAfter⟩ := runs.steady steady
    obtain ⟨store, enrolls⟩ := Registry.initTenant_enrolls available sound admitted
    exact ⟨.enrolment _ valid store enrolls, steadyAfter⟩
  | resource event runs =>
    obtain ⟨admitted, steadyAfter⟩ := runs.steady steady
    exact ⟨.chain _ ((Sync.resource_progress sound admitted).chain_of_steady available),
      steadyAfter⟩
  | entitlement event runs =>
    obtain ⟨admitted, steadyAfter⟩ := runs.steady steady
    refine ⟨.chain (Sync.contextOf event.tenant) ?_, steadyAfter⟩
    rcases Sync.entitlement_outcome sound admitted with
      ⟨_, _, rfl⟩ | ⟨_, _, _, ⟨_, link⟩ | ⟨_, outage, _⟩⟩
    · exact .refl
    · exact .single link
    · exact absurd outage available
  | restart runs =>
    obtain ⟨admitted, steadyAfter⟩ := runs.steady SteadyEngine.steady_initial
    have soundHere : (World.mk world.store (SteadyEngine.initial : ε) world.sources).store.Sound :=
      sound
    obtain ⟨store, justified, covered⟩ :=
      Registry.rebuildAll_covers available soundHere (justified_initial _) admitted
    exact ⟨.rebuild store justified covered, steadyAfter⟩

theorem Effect.sound (effect : Effect world after) (sound : world.store.Sound) :
    after.store.Sound := by
  cases effect with
  | settled ctx step => exact step.sound
  | chain ctx steps => exact steps.sound sound
  | enrolment ctx _ store _ => exact store ▸ sound.provision ctx.tenant
  | rebuild store _ _ => exact store ▸ sound

/-- In every history the stored records are sound and the engine is steady. -/
theorem History.sound {allowed : MemoryStore → Prop} (history : History allowed world) :
    world.store.Sound ∧ SteadyEngine.Steady world.engine := by
  induction history with
  | start sources _ => exact ⟨MemoryStore.sound_empty, SteadyEngine.steady_initial⟩
  | call before call _ ih =>
    obtain ⟨sound, steady⟩ := ih
    obtain ⟨effect, steadyAfter⟩ := call.effect sound steady
    exact ⟨effect.sound sound, steadyAfter⟩

end Horarium
