/-
Module: Horarium.Proofs.RecordValidity
Purpose: Validity of stored records. Whatever is asked of the service and whatever its engine does,
  every record that is stored is one that would pass the checks again as it is, and no timer is
  stored twice.
Trusted boundary: none
Main exports: MemoryStore.Orderly, Reached, Reached.orderly, Reached.records_valid
-/
import Horarium.Proofs.HeldRecords

namespace Horarium

/-- The dates of a version are those that the clock has shown, its creation no later than its last
update. -/
def TimerRecord.Dated (record : TimerRecord) (sources : Sources) : Prop :=
  ∃ metadata created updated, record.metadata = some metadata ∧ created ≤ updated ∧
    updated ≤ sources.readings ∧ metadata.createdDate = some (sources.instantAt created) ∧
    metadata.updatedDate = some (sources.instantAt updated)

/-- A record as it ought to be stored. -/
structure TimerRecord.InOrder (record : TimerRecord) (sources : Sources) : Prop where
  prepared : record.prepare = .ok record
  dated : record.Dated sources

/-- The tables are in good order, and so is every stored record. -/
structure MemoryStore.Orderly (store : MemoryStore) (sources : Sources) : Prop where
  wellFormed : store.WellFormed
  records : ∀ {tenant id record}, store.stored tenant id = some record → record.InOrder sources

namespace TimerRecord

variable {ctx : Context} {id : Uuid} {record other : TimerRecord} {sources later : Sources}

theorem Dated.advance (dated : record.Dated sources) (after : sources.Later later) :
    record.Dated later := by
  obtain ⟨metadata, created, updated, given, ordered, shown, createdDate, updatedDate⟩ := dated
  refine ⟨metadata, created, updated, given, ordered, Nat.le_trans shown after.readings, ?_, ?_⟩
  · rw [createdDate, after.instantAt]
  · rw [updatedDate, after.instantAt]

theorem InOrder.advance (inOrder : record.InOrder sources) (after : sources.Later later) :
    record.InOrder later :=
  ⟨inOrder.prepared, inOrder.dated.advance after⟩

/-- A version that is stamped at the next reading of the clock is dated, if the one before was. -/
theorem dated_of_stamp {before : Option TimerRecord}
    (known : ∀ old, before = some old → old.Dated sources)
    (stamped :
      record.metadata = some (.stamp ctx (sources.instantAt (sources.readings + 1)) before))
    (after : { sources with readings := sources.readings + 1 }.Later later) :
    record.Dated later := by
  apply Dated.advance ?_ after
  cases before with
  | none =>
    exact ⟨_, sources.readings + 1, sources.readings + 1, stamped, Nat.le_refl _,
      Nat.le_refl _, rfl, rfl⟩
  | some old =>
    obtain ⟨metadata, created, updated, given, ordered, shown, createdDate, _⟩ := known old rfl
    refine ⟨_, created, sources.readings + 1, stamped, ?_, Nat.le_refl _, ?_, rfl⟩
    · exact Nat.le_succ_of_le (Nat.le_trans ordered shown)
    · rw [AuditMetadata.stamp, given]
      exact createdDate

end TimerRecord

/-- The store is in order if its tables and all its records are. -/
theorem MemoryStore.orderly_eq :
    MemoryStore.Orderly = HeldBy fun sources _ record => record.InOrder sources := by
  funext store sources
  exact propext ⟨fun orderly => ⟨orderly.wellFormed, orderly.records⟩,
    fun held => ⟨held.wellFormed, held.records⟩⟩

theorem MemoryStore.Orderly.empty (sources : Sources) : MemoryStore.empty.Orderly sources := by
  rw [orderly_eq]
  exact .empty

/-- A record in order stays in order, also when it is flipped. -/
theorem TimerRecord.lasting_inOrder : Lasting fun sources _ record => record.InOrder sources where
  later after inOrder := inOrder.advance after
  flip := by
    intro sources ctx enable record inOrder
    have redeclares : (Registry.flip ctx sources.nextInstant enable record).Redeclares record :=
      ⟨rfl, rfl, rfl, rfl⟩
    have known : ∀ old, some record = some old → old.Dated sources := by
      rintro old ⟨⟩
      exact inOrder.dated
    have stamped : (Registry.flip ctx sources.nextInstant enable record).metadata =
        some (.stamp ctx sources.nextInstant (some record)) := rfl
    exact ⟨redeclares.prepare inOrder.prepared, TimerRecord.dated_of_stamp known stamped (.refl _)⟩

/-- A version that is stored after one in order, or as the first, is in order. -/
theorem TimerRecord.allows_inOrder (ctx : Context) (input : TimerRecord) :
    Registry.Allows (fun sources _ record => record.InOrder sources) ctx input := by
  intro sources record id before prepared known
  have redeclares : (record.version ctx sources.nextInstant id before).Redeclares record :=
    ⟨rfl, rfl, rfl, rfl⟩
  constructor
  · exact redeclares.prepare (TimerRecord.prepare_idem prepared)
  · exact TimerRecord.dated_of_stamp (fun old given => (known old given).dated) rfl (.refl _)

/-! ### The states that a service reaches -/

/-- What a service carries out: the calls of the registry, and events. -/
inductive Served : {δ α : Type} → Procedure δ α → Prop where
  | create (ctx : Context) (input : TimerRecord) : Served (Registry.create ctx input)
  | update (ctx : Context) (id : Uuid) (input : TimerRecord) : Served (Registry.update ctx id input)
  | delete (ctx : Context) (id : Uuid) : Served (Registry.delete ctx id)
  | deleteAll (ctx : Context) : Served (Registry.deleteAll ctx)
  | switchModule (ctx : Context) (moduleName : String) (enable : Bool) :
      Served (Registry.switchModule ctx moduleName enable)
  | findById (ctx : Context) (id : Uuid) : Served (Registry.findById ctx id)
  | findByModuleAndKind (ctx : Context) (moduleName : String) (kind : TimerKind) :
      Served (Registry.findByModuleAndKind ctx moduleName kind)
  | page (ctx : Context) (offset limit : Nat) : Served (Registry.page ctx offset limit)
  | initTenant (ctx : Context) : Served (Registry.initTenant ctx)
  | rebuildAll : Served Registry.rebuildAll
  | event (event : TimerEvent) : Served (Sync.apply event)

/-- The states that a service reaches from an empty store, whatever its engine is at first. Between
two calls the engine may be changed at will: its calls may start to fail, or it may have lost its
jobs. -/
inductive Reached {ε : Type} [SchedulingEngine ε] : World MemoryStore ε → Prop where
  | start (engine : ε) (sources : Sources) : Reached ⟨.empty, engine, sources⟩
  | serve {world : World MemoryStore ε} {δ α : Type} {p : Procedure δ α} (before : Reached world)
      (served : Served p) : Reached (world.run p).2
  | disturb {world : World MemoryStore ε} (before : Reached world) (engine : ε) :
      Reached { world with engine }

theorem Served.keeps {δ α : Type} {p : Procedure δ α} (served : Served p) :
    p.Keeps MemoryStore.Orderly := by
  rw [MemoryStore.orderly_eq]
  have lasting := TimerRecord.lasting_inOrder
  cases served with
  | create ctx input => exact Registry.create_keeps lasting (TimerRecord.allows_inOrder ctx input)
  | update ctx id input =>
    exact Registry.update_keeps lasting (TimerRecord.allows_inOrder ctx input) id
  | delete ctx id => exact Registry.delete_keeps id
  | deleteAll ctx => exact Registry.deleteAll_keeps
  | switchModule ctx moduleName enable =>
    exact Registry.switchModule_keeps lasting moduleName enable
  | findById ctx id => exact Registry.findById_keeps id
  | findByModuleAndKind ctx moduleName kind => exact Registry.ask_keeps _ trivial
  | page ctx offset limit => exact Registry.ask_keeps _ trivial
  | initTenant ctx => exact Registry.initTenant_keeps
  | rebuildAll => exact Registry.rebuildAll_keeps
  | event event =>
    cases event with
    | moduleResource event =>
      exact Sync.resource_keeps lasting fun _ _ _ _ => TimerRecord.allows_inOrder _ _
    | entitlement event => exact Sync.entitlement_keeps lasting event

/-- In every state that a service reaches, the store is in order. -/
theorem Reached.orderly {ε : Type} [SchedulingEngine ε] {world : World MemoryStore ε}
    (reached : Reached world) :
    world.store.Orderly world.sources := by
  induction reached with
  | start engine sources => exact .empty sources
  | serve _ served ih => exact served.keeps.kept _ ih
  | disturb _ _ ih => exact ih

/-- The clock never goes back. -/
def Sources.Monotone (sources : Sources) : Prop :=
  ∀ earlier later, earlier ≤ later →
    (sources.instantAt later).before (sources.instantAt earlier) = false

/-- A record that is stored under an id as the registry would store it again: it passes the checks
as it is, with a kind, one trigger and the name of its module, and nothing is left to find out about
its trigger when it is enabled later. -/
structure TimerRecord.Valid (record : TimerRecord) (id : Uuid) : Prop where
  named : record.id = some id
  prepared : record.prepare = .ok record
  shaped : record.kind.isSome ∧ (TriggerShape.of record).isSome
  moduleNamed : ∃ name, record.moduleName = some name ∧ Text.isAllBlank name.toList = false ∧
    ∀ moduleId, record.moduleId = some moduleId → Text.isAllBlank moduleId.toList = false →
      ModuleName.ofId moduleId = .ok name
  computable :
    record.isActive = true ∨ ({ record with enabled := true } : TimerRecord).isActive = true →
    ∃ trigger, record.trigger = .ok trigger
  dated : ∃ metadata created updated, record.metadata = some metadata ∧
    metadata.createdDate = some created ∧ metadata.updatedDate = some updated ∧
    updated.before created = false

namespace TimerRecord

variable {record : TimerRecord} {id : Uuid} {sources : Sources}

/-- A record that passes the checks declares one trigger. -/
theorem isSome_shape_of_prepare (prepared : record.prepare = .ok record) :
    record.kind.isSome ∧ (TriggerShape.of record).isSome := by
  obtain ⟨kind, entry, kindGiven, declared, valid, _⟩ := prepare_eq_ok_iff.mp prepared
  refine ⟨by rw [kindGiven, Option.isSome_some], ?_⟩
  unfold RoutingEntry.validate at valid
  unfold TriggerShape.of
  rw [declared]
  split at valid
  · simp at valid
  · split at valid
    · simp at valid
    · simp at valid
    · rename_i interval none
      simp [interval, none]
    · rename_i none schedule
      simp [none, schedule]

/-- The module name of a record that passes the checks is that of its module id, where it has
one. -/
theorem exists_moduleName_of_prepare (prepared : record.prepare = .ok record) :
    ∃ name, record.moduleName = some name ∧ Text.isAllBlank name.toList = false ∧
      ∀ moduleId, record.moduleId = some moduleId → Text.isAllBlank moduleId.toList = false →
        ModuleName.ofId moduleId = .ok name := by
  obtain ⟨_, _, _, _, _, resolved, hasModule, _⟩ := prepare_eq_ok_iff.mp prepared
  unfold lacksModule at hasModule
  cases moduleName : record.moduleName with
  | none => simp [moduleName] at hasModule
  | some name =>
    rw [moduleName, Option.all_some] at hasModule
    refine ⟨name, rfl, hasModule, ?_⟩
    intro moduleId given present
    obtain ⟨derived, names, same⟩ :=
      resolveModuleName_eq_self_iff.mp resolved moduleId given present
    rw [names, Option.some.inj (moduleName.symm.trans same)]

theorem InOrder.valid (inOrder : record.InOrder sources) (named : record.id = some id)
    (monotone : sources.Monotone) : record.Valid id where
  named := named
  prepared := inOrder.prepared
  shaped := isSome_shape_of_prepare inOrder.prepared
  moduleNamed := exists_moduleName_of_prepare inOrder.prepared
  computable := by
    have schedulable := schedulable_of_prepare inOrder.prepared
    rintro (active | active)
    · exact schedulable.exists_trigger active
    · have enabled : ({ record with enabled := true } : TimerRecord).Schedulable :=
        schedulable.of_routingEntry rfl
      exact enabled.exists_trigger active
  dated := by
    obtain ⟨metadata, created, updated, given, ordered, _, createdDate, updatedDate⟩ :=
      inOrder.dated
    exact ⟨metadata, _, _, given, createdDate, updatedDate, monotone created updated ordered⟩

end TimerRecord

/-- In every state that a service reaches while its clock never goes back, every stored record is
valid, and no two records of a tenant have the same natural key. -/
theorem Reached.records_valid {ε : Type} [SchedulingEngine ε] {world : World MemoryStore ε}
    (reached : Reached world) (monotone : world.sources.Monotone) :
    (∀ tenant id record, world.store.stored tenant id = some record → record.Valid id) ∧
      ∀ tenant first second record other, world.store.stored tenant first = some record →
        world.store.stored tenant second = some other → record.naturalKey = other.naturalKey →
          first = second := by
  have orderly := reached.orderly
  constructor
  · intro tenant id record held
    exact (orderly.records held).valid (orderly.wellFormed.id_of_stored held) monotone
  · intro tenant first second record other held stored same
    exact orderly.wellFormed.id_unique held stored same

/-! ### A record that an unavailable engine has not heard of -/

/-- A service without tenants whose engine is unavailable once. -/
def strained : World MemoryStore RecordingEngine :=
  ⟨.empty, RecordingEngine.empty.failNext (.unavailable "connection refused"),
    ⟨fun _ => default, Uuid.ofBits, 0, 0⟩⟩

/-- A tenant has been provisioned, and the engine has not been asked for anything yet. -/
def settledIn : World MemoryStore RecordingEngine :=
  (strained.run (Registry.initTenant ⟨"north", none, none⟩)).2

/-- The tenant has created a timer, which was stored and not registered. -/
def unheard : World MemoryStore RecordingEngine :=
  (settledIn.run (Registry.create ⟨"north", none, none⟩ .minutely)).2

theorem reached_settledIn : Reached settledIn :=
  (Reached.start _ _).serve (.initTenant _)

/-- The timer is valid all the same. -/
theorem unheard_record_valid : (∃ record, unheard.store.stored "north" (.ofBits 1) = some record ∧
    record.Valid (.ofBits 1)) ∧ unheard.engine.jobs = [] := by
  have reached : Reached unheard := reached_settledIn.serve (.create _ _)
  have monotone : unheard.sources.Monotone := by
    have first := strained.later_run (Registry.initTenant ⟨"north", none, none⟩)
    have second := settledIn.later_run (Registry.create ⟨"north", none, none⟩ .minutely)
    have still : unheard.sources.instantAt = fun _ => default := (first.trans second).instantAt
    intro earlier later _
    rw [still]
    show (default : Instant).before default = false
    decide
  have present : (unheard.store.stored "north" (.ofBits 1)).isSome = true := by decide +kernel
  obtain ⟨record, stored⟩ := Option.isSome_iff_exists.mp present
  have valid := (reached.records_valid monotone).1 "north" (.ofBits 1) record stored
  exact ⟨⟨record, stored, valid⟩, by decide +kernel⟩

end Horarium
