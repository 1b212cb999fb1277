/-
Module: Horarium.Proofs.HeldRecords
Purpose: What all stored records have in common, whatever is asked of the service and whatever its
  engine does. A property of the records of a tenant lasts if it does not fade while the sources go
  on and holds of each version that is stored; the operations of the registry and the events keep it
  then.
Trusted boundary: none
Main exports: Sources.nextInstant, Lasting, HeldBy, Registry.Allows, Registry.initTenant_keeps,
  Sync.resource_keeps, Sync.entitlement_keeps
-/
import Horarium.Proofs.EventSteps

namespace Horarium

/-- The tables are in good order, and hold only records that are allowed to their tenant. -/
structure MemoryStore.Holds (allowed : String → TimerRecord → Prop) (store : MemoryStore) :
    Prop where
  wellFormed : store.WellFormed
  records : ∀ {tenant id record}, store.stored tenant id = some record → allowed tenant record

namespace MemoryStore.Holds

variable {allowed other : String → TimerRecord → Prop} {store after : MemoryStore} {tenant : String}
  {id : Uuid}

theorem mono (holds : store.Holds allowed) (weaken : ∀ {tenant record}, allowed tenant record →
    other tenant record) : store.Holds other :=
  ⟨holds.wellFormed, fun held => weaken (holds.records held)⟩

theorem empty : MemoryStore.empty.Holds allowed where
  wellFormed := by
    intro tenant table held
    simp [MemoryStore.table?, MemoryStore.empty] at held
  records := by
    intro tenant id record held
    simp [MemoryStore.stored, MemoryStore.table?, MemoryStore.empty] at held

/-- Setting a record to one that is allowed, or to none, keeps to what is allowed. -/
theorem sets {new : Option TimerRecord} (holds : store.Holds allowed)
    (sets : Sets tenant id new store after)
    (fitting : ∀ record, new = some record → allowed tenant record) : after.Holds allowed where
  wellFormed := sets.wellFormed holds.wellFormed
  records := by
    intro other at' record held
    by_cases same : other = tenant
    · subst same
      rw [sets.stored] at held
      split at held
      · exact fitting record held
      · exact holds.records held
    · rw [sets.stored_elsewhere same] at held
      exact holds.records held

/-- So does replacing records by versions that are allowed. -/
theorem replaces {version : TimerRecord → TimerRecord} {records : List TimerRecord}
    (holds : store.Holds allowed) (replaces : Replaces tenant version records store after)
    (fitting : ∀ record ∈ records, allowed tenant (version record)) : after.Holds allowed where
  wellFormed := replaces.within.wellFormed holds.wellFormed
  records := by
    intro other at' record held
    by_cases same : other = tenant
    · subst same
      by_cases touched : ∃ old ∈ records, old.id = some at'
      · obtain ⟨old, member, named⟩ := touched
        rw [replaces.replaced old member at' named, Option.some.injEq] at held
        exact held ▸ fitting old member
      · rw [replaces.kept at' fun old member named => touched ⟨old, member, named⟩] at held
        exact holds.records held
    · rw [replaces.within.stored_elsewhere same] at held
      exact holds.records held

theorem provision (holds : store.Holds allowed) (tenant : String) :
    (store.provision tenant).Holds allowed where
  wellFormed := holds.wellFormed.provision tenant
  records := by
    intro other id record held
    rw [stored_provision] at held
    exact holds.records held

end MemoryStore.Holds

/-- What only asks the engine keeps whatever holds of store and sources. -/
theorem World.Runs.keeps {ε δ α : Type} [SchedulingEngine ε]
    {P : World MemoryStore ε → Request → Prop} {I : MemoryStore → Sources → Prop}
    {world after : World MemoryStore ε} {p : Procedure δ α} {outcome : Except δ α}
    (runs : World.Runs P world p outcome after) (only : p.Asks Request.IsEngine)
    (before : I world.store world.sources) : I after.store after.sources := by
  have kept := (Procedure.Keeps.of_asks_engine only).kept world before
  rw [runs.run_eq] at kept
  exact kept

/-- The sources after the clock has been read. -/
def Sources.ticked (sources : Sources) : Sources :=
  { sources with readings := sources.readings + 1 }

/-- What the clock shows when it is read next. -/
def Sources.nextInstant (sources : Sources) : Instant := sources.instantAt (sources.readings + 1)

/-- A property that the records of a tenant may have at some time does not fade, and flipping a
record does not take it away. -/
structure Lasting (allowed : Sources → String → TimerRecord → Prop) : Prop where
  later : ∀ {earlier later : Sources} {tenant record}, earlier.Later later →
    allowed earlier tenant record → allowed later tenant record
  flip : ∀ {sources : Sources} {ctx : Context} {enable record}, allowed sources ctx.tenant record →
    allowed sources.ticked ctx.tenant (Registry.flip ctx sources.nextInstant enable record)

/-- All stored records have the property. -/
def HeldBy (allowed : Sources → String → TimerRecord → Prop) (store : MemoryStore)
    (sources : Sources) : Prop :=
  store.Holds (allowed sources)

/-- Each version of a timer that is stored for a caller, after one that has the property or as the
first, has the property too. -/
def Registry.Allows (allowed : Sources → String → TimerRecord → Prop) (ctx : Context)
    (input : TimerRecord) :
    Prop :=
  ∀ (sources : Sources) (record : TimerRecord) (id : Uuid) (before : Option TimerRecord),
    input.prepare = .ok record → (∀ old, before = some old → allowed sources ctx.tenant old) →
      allowed sources.ticked ctx.tenant (record.version ctx sources.nextInstant id before)

variable {allowed : Sources → String → TimerRecord → Prop} {ctx : Context}

theorem HeldBy.advance {store : MemoryStore} {sources later : Sources}
    (held : HeldBy allowed store sources) (lasting : Lasting allowed)
    (after : sources.Later later) : HeldBy allowed store later :=
  held.mono (lasting.later after)

theorem Sources.later_ticked (sources : Sources) : sources.Later sources.ticked :=
  ⟨rfl, Nat.le_succ _⟩

/-- A version that is stored after one with the property, or as the first, has the property. -/
theorem Commits.heldBy {ε : Type} {world committed : World MemoryStore ε}
    {input record saved : TimerRecord} {id : Uuid} {before : Option TimerRecord}
    (lasting : Lasting allowed) (commits : Commits ctx record id before saved world committed)
    (prepared : input.prepare = .ok record) (allows : Registry.Allows allowed ctx input)
    (held : HeldBy allowed world.store world.sources) :
    HeldBy allowed committed.store committed.sources := by
  have version : allowed world.sources.ticked ctx.tenant saved := by
    rw [commits.version]
    exact allows world.sources record id before prepared fun old known => held.records
      (commits.known old known)
  have advanced := held.advance lasting (world.sources.later_ticked.trans commits.sources)
  refine MemoryStore.Holds.sets advanced commits.sets ?_
  rintro _ ⟨⟩
  exact lasting.later commits.sources version

namespace Registry

section Lasting

variable (lasting : Lasting allowed)
include lasting

theorem create_keeps {input : TimerRecord} (allows : Allows allowed ctx input) :
    (create ctx input).Keeps (HeldBy allowed) := by
  constructor
  intro ε _ world held
  rcases create_commits held.wellFormed (world.runs (create ctx input)) with
    ⟨declined, _⟩ | ⟨record, id, before, saved, committed, prepared, _, commits, following⟩
  · rw [declined.store]
    exact held.advance lasting (world.later_run _)
  · exact following.keeps
      (((Reconcile.follow_asks ctx before saved).mapError _).bind fun _ => .done _)
      (commits.heldBy lasting prepared allows held)

theorem update_keeps {input : TimerRecord} (allows : Allows allowed ctx input) (id : Uuid) :
    (update ctx id input).Keeps (HeldBy allowed) := by
  constructor
  intro ε _ world held
  rcases update_commits held.wellFormed (world.runs (update ctx id input)) with
    declined | ⟨record, old, saved, committed, prepared, commits, following⟩
  · rw [declined.store]
    exact held.advance lasting (world.later_run _)
  · exact following.keeps
      (((Reconcile.follow_asks ctx (some old) saved).mapError _).bind fun _ => .done _)
      (commits.heldBy lasting prepared allows held)

omit lasting in
theorem delete_keeps (id : Uuid) : (delete ctx id).Keeps (HeldBy allowed) := by
  constructor
  intro ε _ world held
  rcases delete_commits (world.runs (delete ctx id)) with
    ⟨_, _, after⟩ | ⟨_, _, after⟩ | ⟨existing, changed, _, sets, dropping⟩
  · rw [after]
    exact held
  · rw [after]
    exact held
  · exact dropping.keeps ((Reconcile.unschedule_asks existing).mapError _)
      (MemoryStore.Holds.sets held sets fun _ impossible => absurd impossible (by simp))

theorem switchModule_keeps (moduleName : String) (enable : Bool) :
    (switchModule ctx moduleName enable).Keeps (HeldBy allowed) := by
  constructor
  intro ε _ world held
  rcases switchModule_commits held.wellFormed (world.runs (switchModule ctx moduleName enable)) with
    ⟨_, _, after⟩ | ⟨records, lists, ⟨_, _, after⟩ | ⟨_, changed, replaces, following⟩⟩
  · rw [after]
    exact held
  · rw [after]
    exact held
  · have flipped : HeldBy allowed changed world.sources.ticked := by
      refine MemoryStore.Holds.replaces (held.advance lasting world.sources.later_ticked) replaces
        ?_
      intro record member
      obtain ⟨id, _, stored, _⟩ := lists.stored_of_mem held.wellFormed member
      exact lasting.flip (held.records stored)
    refine following.keeps ?_ flipped
    split
    · exact (scheduleEach_asks _).bind fun _ => .done _
    · exact (unscheduleEach_asks _).bind fun _ => .done _

end Lasting

/-! ### Operations that consist of others -/

/-- Looking something up keeps whatever holds. -/
theorem ask_keeps {I : MemoryStore → Sources → Prop} (request : StoreRequest)
    (reads : request.Reads) :
    (ask request).Keeps I :=
  .read reads

theorem deleteEach_keeps (records : List TimerRecord) :
    (deleteEach ctx records).Keeps (HeldBy allowed) := by
  induction records with
  | nil => exact .done _
  | cons record records ih =>
    unfold deleteEach
    split
    · exact ih
    · exact (delete_keeps _).bind fun _ => ih.bind fun _ => .done _

theorem deleteAll_keeps : (deleteAll ctx).Keeps (HeldBy allowed) :=
  (ask_keeps (.list ctx.tenant) trivial).bind deleteEach_keeps

theorem initTenant_keeps : (initTenant ctx).Keeps (HeldBy allowed) := by
  have provisions : (ask (.provision ctx.tenant)).Keeps (HeldBy allowed) :=
    ⟨fun _ held => MemoryStore.Holds.provision held ctx.tenant⟩
  exact provisions.bind fun _ => (ask_keeps (.list ctx.tenant) trivial).bind fun records =>
    .of_asks_engine (Reconcile.rebuild_asks records)

theorem rebuildTenants_keeps {I : MemoryStore → Sources → Prop} (names : List String) :
    (rebuildTenants names).Keeps I := by
  induction names with
  | nil => exact .done _
  | cons name names ih =>
    unfold rebuildTenants
    split
    · exact ih
    · exact (ask_keeps (.list name) trivial).bind fun records =>
        (Procedure.Keeps.of_asks_engine (Reconcile.rebuild_asks records)).bind fun _ =>
          ih.bind fun _ => .done _

theorem rebuildAll_keeps {I : MemoryStore → Sources → Prop} : rebuildAll.Keeps I :=
  (ask_keeps .tenants trivial).bind rebuildTenants_keeps

theorem findById_keeps {I : MemoryStore → Sources → Prop} (id : Uuid) :
    (findById ctx id).Keeps I := by
  refine (ask_keeps (.findById ctx.tenant id) trivial).bind fun found => ?_
  split
  · exact .fail _
  · exact .done _

end Registry

namespace Sync

theorem createTimers_keeps (lasting : Lasting allowed) {m : ModuleTimers}
    (allows : ∀ entry, Registry.Allows allowed ctx (TimerRecord.ofModule m.moduleId entry)) :
    (createTimers ctx m).Keeps (HeldBy allowed) := by
  have each : ∀ entries : List RoutingEntry, (createEach ctx m.moduleId entries).Keeps
      (HeldBy allowed) := by
    intro entries
    induction entries with
    | nil => exact .done _
    | cons entry entries ih =>
      exact ((Registry.create_keeps lasting (allows entry)).mapError _).bind fun _ => ih
  exact (each m.timers).bind fun _ => .done _

theorem deleteTimers_keeps (moduleName : String) :
    (deleteTimers ctx moduleName).Keeps (HeldBy allowed) :=
  ((Registry.ask_keeps (.findByModuleAndKind ctx.tenant moduleName .system) trivial).bind
    Registry.deleteEach_keeps).mapError _

theorem skipTableMissing_keeps {I : MemoryStore → Sources → Prop} {operation : Operation Nat}
    (inner : operation.Keeps I) : (skipTableMissing operation).Keeps I := by
  refine inner.attempt.bind fun outcome => ?_
  split
  · exact .done _
  · split
    · exact .done _
    · exact .fail _

theorem update_keeps (lasting : Lasting allowed) {new : ModuleTimers}
    (allows : ∀ entry, Registry.Allows allowed ctx (TimerRecord.ofModule new.moduleId entry))
    (old : Option ModuleTimers) : (update ctx old new).Keeps (HeldBy allowed) := by
  refine (Procedure.Keeps.ofExcept _ _).bind fun name =>
    (deleteTimers_keeps name).attempt.bind fun outcome => ?_
  split
  · exact createTimers_keeps lasting allows
  · split
    · exact .done _
    · exact .fail _

/-- An event about a module has to respect what is allowed if it declares timers. -/
theorem resource_keeps (lasting : Lasting allowed) {event : ResourceEvent}
    (allows : event.change ≠ .delete → ∀ value, event.newValue = some value →
      ∀ entry, Registry.Allows allowed (contextOf event.tenant)
      (TimerRecord.ofModule value.moduleId entry)) :
    (resource event).Keeps (HeldBy allowed) := by
  apply Procedure.Keeps.ofExcept_bind
  intro ctx made
  obtain ⟨_, rfl⟩ := contextOf_of_ofTenant made
  have required : ∀ {next : ModuleTimers → Operation Nat},
      (∀ value, event.newValue = some value → (next value).Keeps (HeldBy allowed)) →
        (Sync.required "newValue" event.newValue >>= next).Keeps (HeldBy allowed) := by
    intro next rest
    cases given : event.newValue with
    | none => exact .fail _
    | some value => exact rest value given
  cases change : event.change with
  | create =>
    exact required fun value given => createTimers_keeps lasting
      (allows (by simp [change]) value given)
  | update =>
    exact required fun value given => update_keeps lasting (allows (by simp [change]) value given) _
  | delete =>
    dsimp only
    split
    · exact .fail _
    · exact (Procedure.Keeps.ofExcept _ _).bind fun name => skipTableMissing_keeps
        (deleteTimers_keeps name)

theorem entitlement_keeps (lasting : Lasting allowed) (event : EntitlementEvent) :
    (entitlement event).Keeps (HeldBy allowed) :=
  (Procedure.Keeps.ofExcept _ _).bind fun _ => (Procedure.Keeps.ofExcept _ _).bind fun name =>
    skipTableMissing_keeps
      ((Registry.switchModule_keeps lasting name event.change.enables).mapError _)

end Sync

end Horarium
