/-
Module: Horarium.Proofs.EventSteps
Purpose: What carrying out a module event does, in the steps of the registry operations that it
  consists of: timers of the module are deleted, created or flipped, and an event that meets an
  unavailable engine stops there.
Trusted boundary: none
Main exports: TimerRecord.IsSystemOf, Sync.createTimers_inv, Sync.Leaves, Sync.resource_progress
-/
import Horarium.Proofs.RegistryBatches
import Horarium.Sync

namespace Horarium

variable {ε : Type} [JobEngine ε] {c : Circumstances} {world after : World MemoryStore ε}
  {ctx : Context}

/-- The context in which the events of a tenant are carried out. -/
def Sync.contextOf (tenant : String) : Context := ⟨tenant, none, none⟩

/-- The error of an event whose store did what it was asked, but whose engine did not. -/
def SyncError.IsScheduling (error : SyncError) : Prop :=
  ∃ cause, error = .registry cause ∧ cause.IsScheduling

/-- The record is a system timer of the module. -/
abbrev TimerRecord.IsSystemOf (moduleName : String) (record : TimerRecord) : Prop :=
  record.moduleName = some moduleName ∧ record.kind = some .system

/-- A system timer of the module with this id. -/
def Declared (moduleId : String) (new : Option TimerRecord) : Prop :=
  ∃ record name, new = some record ∧ ModuleName.ofId moduleId = .ok name ∧
    record.moduleName = some name ∧ record.kind = some .system

namespace Sync

/-- Only a tenant's name makes a context, that of the tenant's events. -/
theorem contextOf_of_ofTenant {tenant : String} {named : Context}
    (made : Context.ofTenant tenant = .ok named) :
    Context.isTenantName tenant = true ∧ named = contextOf tenant := by
  unfold Context.ofTenant at made
  split at made
  · rename_i valid
    exact ⟨valid, (Except.ok.inj made).symm⟩
  · simp at made

/-- A value that has to be there fails the event at once, or is followed by the rest of it. -/
theorem required_inv {β : Type} {P : World MemoryStore ε → Request → Prop} {field : String}
    {value : Option ModuleTimers} {next : ModuleTimers → Operation β} {outcome : Except SyncError β}
    (runs : World.Runs P world (required field value >>= next) outcome after) :
    (∃ e, outcome = .error e ∧ after = world) ∨
      ∃ given, value = some given ∧ World.Runs P world (next given) outcome after := by
  cases value with
  | none =>
    obtain ⟨rfl, rfl⟩ := runs.fail_inv
    exact .inl ⟨_, rfl, rfl⟩
  | some given => exact .inr ⟨given, rfl, runs⟩

end Sync

namespace Registry

/-- A creation for a module goes to the record with the natural key or to a generated id. -/
theorem Placed.generated {record : TimerRecord} {id : Uuid} {moduleId : String}
    {entry : RoutingEntry}
    (placed : Placed c world ctx.tenant (TimerRecord.ofModule moduleId entry) record id)
    (absent : world.store.stored ctx.tenant id = none) :
    c.mayGenerate world.store world.roster id := by
  cases placed with
  | known old held _ => simp [absent] at held
  | added _ _ source =>
    rcases source with given | ⟨_, generated⟩
    · simp [TimerRecord.ofModule, default] at given
    · exact generated

theorem create_progress {moduleId : String} {entry : RoutingEntry}
    {outcome : Except RegistryError TimerRecord} (sound : world.store.Sound)
    (runs : World.Runs c.Admits world (create ctx (TimerRecord.ofModule moduleId entry))
      outcome after) :
    Progress c ctx RegistryError.IsScheduling (Declared moduleId) world outcome after := by
  rcases create_stores sound runs with ⟨refused, _⟩ | ⟨record, id, saved, placed, stores⟩
  · exact .inl (.single (refused.link sound))
  · obtain ⟨name, derived, rfl⟩ := TimerRecord.prepare_ofModule stores.prepared
    have declared : Declared moduleId (some saved) :=
      ⟨saved, name, rfl, derived, stores.restates.moduleName, stores.restates.kind⟩
    exact stores.written.progress declared fun absent _ => placed.generated absent

/-- Creating the timer of an accepted entry succeeds while the engine is available. -/
theorem create_succeeds {moduleId : String} {entry : RoutingEntry}
    {outcome : Except RegistryError TimerRecord} (steady : ¬ c.outage) (sound : world.store.Sound)
    (provisioned : (world.store.table? ctx.tenant).isSome)
    (accepted : ∃ version, (TimerRecord.ofModule moduleId entry).prepare = .ok version)
    (runs : World.Runs c.Admits world (create ctx (TimerRecord.ofModule moduleId entry))
      outcome after) :
    ∃ answered, outcome = .ok answered := by
  obtain ⟨version, prepared⟩ := accepted
  rcases create_stores sound runs with ⟨_, reason⟩ | ⟨_, _, _, _, stores⟩
  · exfalso
    cases reason with
    | tableMissing missing => simp [missing] at provisioned
    | idTaken named _ => simp [TimerRecord.ofModule, default] at named
    | unprepared refused => simp [prepared] at refused
  · rcases stores.written.engine with ⟨succeeded, _⟩ | ⟨_, outage, _⟩
    · exact succeeded
    · exact absurd outage steady

end Registry

namespace Sync

/-- Creations one after the other, by induction on the entries: the first that fails is the last. -/
theorem createEach_progress {moduleId : String} {entries : List RoutingEntry}
    {outcome : Except SyncError PUnit} (sound : world.store.Sound)
    (runs : World.Runs c.Admits world (createEach ctx moduleId entries) outcome after) :
    Progress c ctx SyncError.IsScheduling (Declared moduleId) world outcome after := by
  induction entries generalizing world with
  | nil =>
    obtain ⟨rfl, rfl⟩ := runs.done_inv
    exact .inl .refl
  | cons entry entries ih =>
    unfold createEach at runs
    rcases runs.mapError_bind_inv with ⟨_, middle, first, rest⟩ | ⟨e, first, rfl⟩
    · have chain := (Registry.create_progress sound first).chain
      exact (ih (chain.sound sound) rest).prepend chain
    · exact (Registry.create_progress sound first).of_error fun stopped => ⟨e, rfl, stopped⟩

/-- Creating the timers of a module creates those of its entries and answers how many there are. -/
theorem createTimers_inv {new : ModuleTimers} {outcome : Except SyncError Nat}
    (runs : World.Runs c.Admits world (createTimers ctx new) outcome after) : ∃ inner,
      World.Runs c.Admits world (createEach ctx new.moduleId new.timers) inner after ∧
        outcome = inner.map fun _ => new.timers.length := by
  unfold createTimers at runs
  rcases runs.bind_inv with ⟨u, middle, first, rest⟩ | ⟨e, first, rfl⟩
  · obtain ⟨rfl, rfl⟩ := rest.done_inv
    exact ⟨.ok u, first, rfl⟩
  · exact ⟨.error e, first, rfl⟩

theorem createTimers_progress {new : ModuleTimers} {outcome : Except SyncError Nat}
    (sound : world.store.Sound)
    (runs : World.Runs c.Admits world (createTimers ctx new) outcome after) :
    Progress c ctx SyncError.IsScheduling (Declared new.moduleId) world outcome after := by
  obtain ⟨inner, creating, rfl⟩ := createTimers_inv runs
  have progress := createEach_progress sound creating
  cases inner with
  | ok u => exact .inl progress.chain
  | error e => exact progress.of_error fun stopped => stopped

end Sync

namespace Registry

/-- Listing the system timers of a module is refused, or answers them all. -/
theorem systemTimers_inv {β : Type} {P : World MemoryStore ε → Request → Prop} {moduleName : String}
    {next : List TimerRecord → Operation β} {outcome : Except RegistryError β}
    (sound : world.store.Sound)
    (runs : World.Runs P world (findByModuleAndKind ctx moduleName .system >>= next)
      outcome after) :
    world.store.table? ctx.tenant = none ∧ Refused world outcome after ∨
      ∃ records, world.store.Lists ctx.tenant (·.IsSystemOf moduleName) records ∧
        World.Runs P world (next records) outcome after := by
  unfold findByModuleAndKind at runs
  rcases MemoryStore.answer_findByModuleAndKind sound.wellFormed ctx.tenant moduleName .system with
    ⟨missing, answer⟩ | ⟨_, records, answer, lists⟩
  · obtain ⟨failed, rfl⟩ := runs.ask_refused answer
    exact .inl ⟨missing, ⟨_, failed⟩, rfl, rfl⟩
  · exact .inr ⟨records, lists, runs.ask_answered answer⟩

end Registry

namespace Sync

/-- Deleting the timers of a module deletes each of those that are listed, unless the tenant has no
table. -/
theorem deleteTimers_inv {moduleName : String} {outcome : Except SyncError Nat}
    (sound : world.store.Sound)
    (runs : World.Runs c.Admits world (deleteTimers ctx moduleName) outcome after) :
    ∃ inner, outcome = inner.mapError .registry ∧
      (world.store.table? ctx.tenant = none ∧ Refused world inner after ∨
        ∃ records, world.store.Lists ctx.tenant (·.IsSystemOf moduleName) records ∧
          World.Runs c.Admits world (Registry.deleteEach ctx records) inner after) := by
  unfold deleteTimers onRegistry at runs
  obtain ⟨inner, carried, rfl⟩ := runs.mapError_inv
  exact ⟨inner, rfl, Registry.systemTimers_inv sound carried⟩

theorem deleteTimers_progress {moduleName : String} {outcome : Except SyncError Nat}
    (sound : world.store.Sound)
    (runs : World.Runs c.Admits world (deleteTimers ctx moduleName) outcome after) :
    Progress c ctx SyncError.IsScheduling (· = none) world outcome after := by
  obtain ⟨inner, rfl, ⟨_, refused⟩ | ⟨records, _, deleting⟩⟩ := deleteTimers_inv sound runs
  · exact .inl (.single (refused.link sound))
  · have progress := Registry.deleteEach_progress sound deleting
    cases inner with
    | ok n => exact .inl progress.chain
    | error e => exact progress.of_error fun stopped => ⟨e, rfl, stopped⟩

/-- Leaving out what cannot be done for want of a table does nothing else. -/
theorem skipTableMissing_inv {operation : Operation Nat} {outcome : Except SyncError Nat}
    (runs : World.Runs c.Admits world (skipTableMissing operation) outcome after) :
    ∃ inner, World.Runs c.Admits world operation inner after ∧
      (outcome = inner ∧ (∀ e, inner = .error e → e.isTableMissing = false) ∨
        ∃ e, inner = .error e ∧ e.isTableMissing = true ∧ outcome = .ok 0) := by
  unfold skipTableMissing at runs
  obtain ⟨inner, middle, carried, rest⟩ := runs.attempt_bind_inv
  cases inner with
  | ok n =>
    obtain ⟨rfl, rfl⟩ := rest.done_inv
    exact ⟨.ok n, carried, .inl ⟨rfl, by simp⟩⟩
  | error e =>
    dsimp only at rest
    split at rest
    · rename_i missing
      obtain ⟨rfl, rfl⟩ := rest.done_inv
      exact ⟨.error e, carried, .inr ⟨e, rfl, missing, rfl⟩⟩
    · rename_i present
      obtain ⟨rfl, rfl⟩ := rest.fail_inv
      refine ⟨.error e, carried, .inl ⟨rfl, ?_⟩⟩
      rintro _ ⟨⟩
      simpa using present

theorem not_isScheduling_of_tableMissing {error : SyncError}
    (missing : error.isTableMissing = true) :
    ¬ error.IsScheduling := by
  rintro ⟨_, rfl, cause, rfl⟩
  simp [SyncError.isTableMissing, RegistryError.isTableMissing] at missing

theorem skipTableMissing_progress {left : Option TimerRecord → Prop} {operation : Operation Nat}
    {outcome : Except SyncError Nat}
    (runs : World.Runs c.Admits world (skipTableMissing operation) outcome after)
    (inner : ∀ {outcome}, World.Runs c.Admits world operation outcome after →
      Progress c ctx SyncError.IsScheduling left world outcome after) :
    Progress c ctx SyncError.IsScheduling left world outcome after := by
  obtain ⟨result, carried, ⟨rfl, _⟩ | ⟨e, rfl, missing, rfl⟩⟩ := skipTableMissing_inv runs
  · exact inner carried
  · exact .inl ((inner carried).chain_of_error (not_isScheduling_of_tableMissing missing))

/-- What the write that met an unavailable engine leaves stored, by the sort of event. -/
def Leaves (event : ResourceEvent) (new : Option TimerRecord) : Prop :=
  match event.change with
  | .create => ∃ value, event.newValue = some value ∧ Declared value.moduleId new
  | .update => new = none ∨ ∃ value, event.newValue = some value ∧ Declared value.moduleId new
  | .delete => new = none

/-- Upgrading a module deletes its timers and then creates those that it declares now. -/
theorem update_inv {old : Option ModuleTimers} {new : ModuleTimers} {outcome : Except SyncError Nat}
    (runs : World.Runs c.Admits world (update ctx old new) outcome after) :
    (∃ e, outcome = .error e ∧ after = world) ∨
      ∃ name deleted middle, ModuleName.ofId (old.getD new).moduleId = .ok name ∧
        World.Runs c.Admits world (deleteTimers ctx name) deleted middle ∧
        ((∃ n, deleted = .ok n) ∧ World.Runs c.Admits middle (createTimers ctx new) outcome after ∨
          ∃ e, deleted = .error e ∧ after = middle ∧
            (e.isTableMissing = true ∧ outcome = .ok 0 ∨ outcome = .error e)) := by
  unfold update at runs
  rcases runs.ofExcept_bind_inv with ⟨_, _, rfl, rfl⟩ | ⟨name, derived, attempting⟩
  · exact .inl ⟨_, rfl, rfl⟩
  obtain ⟨deleted, middle, deleting, rest⟩ := attempting.attempt_bind_inv
  refine .inr ⟨name, deleted, middle, derived, deleting, ?_⟩
  cases deleted with
  | ok n => exact .inl ⟨⟨n, rfl⟩, rest⟩
  | error e =>
    dsimp only at rest
    split at rest
    · rename_i missing
      obtain ⟨rfl, rfl⟩ := rest.done_inv
      exact .inr ⟨e, rfl, rfl, .inl ⟨missing, rfl⟩⟩
    · obtain ⟨rfl, rfl⟩ := rest.fail_inv
      exact .inr ⟨e, rfl, rfl, .inr rfl⟩

/-- An event about a module fails at once, or is carried out for the tenant that it names. -/
theorem resource_inv {event : ResourceEvent} {outcome : Except SyncError Nat}
    (runs : World.Runs c.Admits world (resource event) outcome after) :
    (∃ e, outcome = .error e ∧ after = world) ∨
      match event.change with
      | .create => ∃ value, event.newValue = some value ∧
          World.Runs c.Admits world (createTimers (contextOf event.tenant) value) outcome after
      | .update => ∃ value, event.newValue = some value ∧
          World.Runs c.Admits world (update (contextOf event.tenant) event.oldValue value)
            outcome after
      | .delete => ∃ value name, event.oldValue.or event.newValue = some value ∧
          ModuleName.ofId value.moduleId = .ok name ∧
          World.Runs c.Admits world (skipTableMissing (deleteTimers (contextOf event.tenant) name))
            outcome after := by
  unfold resource at runs
  rcases runs.ofExcept_bind_inv with ⟨_, _, rfl, rfl⟩ | ⟨named, made, carried⟩
  · exact .inl ⟨_, rfl, rfl⟩
  obtain ⟨_, rfl⟩ := contextOf_of_ofTenant made
  cases change : event.change with
  | create =>
    simp only [change] at carried
    exact required_inv carried
  | update =>
    simp only [change] at carried
    exact required_inv carried
  | delete =>
    simp only [change] at carried
    cases given : event.oldValue.or event.newValue with
    | none =>
      simp only [given] at carried
      obtain ⟨rfl, rfl⟩ := carried.fail_inv
      exact .inl ⟨_, rfl, rfl⟩
    | some value =>
      simp only [given] at carried
      rcases carried.ofExcept_bind_inv with ⟨_, _, rfl, rfl⟩ | ⟨name, derived, deleting⟩
      · exact .inl ⟨_, rfl, rfl⟩
      · exact .inr ⟨value, name, rfl, derived, deleting⟩

/-- Carrying out an event about a module progresses in settled steps and leaves behind at most what
the sort of event allows. -/
theorem resource_progress {event : ResourceEvent} {outcome : Except SyncError Nat}
    (sound : world.store.Sound) (runs : World.Runs c.Admits world (resource event) outcome after) :
    Progress c (contextOf event.tenant) SyncError.IsScheduling
      (Leaves event) world outcome after := by
  rcases resource_inv runs with ⟨e, rfl, rfl⟩ | carried
  · exact .inl .refl
  · unfold Leaves
    cases change : event.change with
    | create =>
      simp only [change] at carried ⊢
      obtain ⟨value, given, creating⟩ := carried
      exact (createTimers_progress sound creating).weaken fun new declared =>
        ⟨value, given, declared⟩
    | delete =>
      simp only [change] at carried ⊢
      obtain ⟨_, name, _, _, deleting⟩ := carried
      exact skipTableMissing_progress deleting fun inner => deleteTimers_progress sound inner
    | update =>
      simp only [change] at carried ⊢
      obtain ⟨value, given, upgrading⟩ := carried
      rcases update_inv upgrading with ⟨e, rfl, rfl⟩ | ⟨name, deleted, middle, _, deleting, ended⟩
      · exact .inl .refl
      · have deletion := deleteTimers_progress sound deleting
        rcases ended with ⟨⟨n, rfl⟩, creating⟩ | ⟨e, rfl, rfl, ⟨missing, rfl⟩ | rfl⟩
        · have chain := deletion.chain
          exact ((createTimers_progress (chain.sound sound) creating).prepend chain).weaken
            fun new declared => .inr ⟨value, given, declared⟩
        · exact .inl (deletion.chain_of_error (not_isScheduling_of_tableMissing missing))
        · exact deletion.weaken (fun new dropped => .inl dropped) |>.of_error fun stopped => stopped

/-- The event names a tenant and a module. -/
def Addressed (event : EntitlementEvent) (moduleName : String) : Prop :=
  Context.isTenantName event.tenant = true ∧ ModuleName.ofId event.moduleId = .ok moduleName

/-- An event about the use of a module fails at once for want of a name or switches the module's
system timers, where a tenant without a table counts as one without timers. -/
theorem entitlement_inv {event : EntitlementEvent} {outcome : Except SyncError Nat}
    (runs : World.Runs c.Admits world (entitlement event) outcome after) :
    (∀ name, ¬ Addressed event name) ∧ (∃ e, outcome = .error e) ∧ after = world ∨
      ∃ name switched, Addressed event name ∧
        World.Runs c.Admits world
          (Registry.switchModule (contextOf event.tenant) name event.change.enables)
            switched after ∧
        (outcome = switched.mapError .registry ∧
        (∀ e, switched = .error e → e.isTableMissing = false) ∨
          ∃ e, switched = .error e ∧ e.isTableMissing = true ∧ outcome = .ok 0) := by
  unfold entitlement at runs
  rcases runs.ofExcept_bind_inv with ⟨e, refused, failed, same⟩ | ⟨named, made, naming⟩
  · refine .inl ⟨?_, ⟨_, failed⟩, same⟩
    rintro name ⟨valid, _⟩
    simp [Context.ofTenant, valid] at refused
  obtain ⟨valid, rfl⟩ := contextOf_of_ofTenant made
  rcases naming.ofExcept_bind_inv with ⟨e, refused, failed, same⟩ | ⟨name, derived, carried⟩
  · refine .inl ⟨?_, ⟨_, failed⟩, same⟩
    rintro name ⟨_, derived⟩
    simp [derived] at refused
  obtain ⟨inner, switching, skipped⟩ := skipTableMissing_inv carried
  obtain ⟨switched, switchRuns, rfl⟩ := switching.mapError_inv
  refine .inr ⟨name, switched, ⟨valid, derived⟩, switchRuns, ?_⟩
  rcases skipped with ⟨same, present⟩ | ⟨e, failed, missing, rfl⟩
  · refine .inl ⟨same, ?_⟩
    rintro cause rfl
    exact present (.registry cause) rfl
  · cases switched with
    | ok n => simp [Except.mapError] at failed
    | error cause =>
      obtain rfl := Except.error.inj failed
      exact .inr ⟨cause, rfl, missing, rfl⟩

/-- An event about the use of a module fails for want of a name. Else all system timers of the
module have the flag after it, and everything is settled or a job is left behind. -/
theorem entitlement_outcome {event : EntitlementEvent} {outcome : Except SyncError Nat}
    (sound : world.store.Sound)
    (runs : World.Runs c.Admits world (entitlement event) outcome after) :
    (∀ name, ¬ Addressed event name) ∧ (∃ e, outcome = .error e) ∧ after = world ∨
      ∃ name, Addressed event name ∧
        Registry.Switched after.store event.tenant name event.change.enables ∧
        ((∃ n, outcome = .ok n) ∧ Link c (contextOf event.tenant) world after ∨
          (∃ e, outcome = .error e) ∧ c.outage ∧ after.store.Sound ∧
            ∃ id old new, Registry.LeftBehind (contextOf event.tenant) name id old new world
              after) := by
  rcases entitlement_inv runs with unaddressed | ⟨name, switched, addressed, switching, ended⟩
  · exact .inl unaddressed
  refine .inr ⟨name, addressed, ?_⟩
  rcases Registry.switchModule_outcome sound switching with
    ⟨unprovisioned, rfl, refused⟩ |
      ⟨flags, soundAfter, ⟨⟨n, rfl⟩, link⟩ | ⟨⟨e, rfl, cause, rfl⟩, outage, left⟩⟩
  · constructor
    · intro id record held
      have absent : world.store.stored event.tenant id = none :=
        MemoryStore.stored_of_table?_eq_none unprovisioned id
      rw [refused.store, absent] at held
      simp at held
    · rcases ended with ⟨_, present⟩ | ⟨_, _, _, rfl⟩
      · simpa [RegistryError.isTableMissing, StoreError.isTableMissing] using present _ rfl
      · exact .inl ⟨⟨0, rfl⟩, refused.link sound⟩
  · rcases ended with ⟨rfl, _⟩ | ⟨_, failed, _⟩
    · exact ⟨flags, .inl ⟨⟨n, rfl⟩, link⟩⟩
    · simp at failed
  · rcases ended with ⟨rfl, _⟩ | ⟨_, same, missing, _⟩
    · exact ⟨flags, .inr ⟨⟨_, rfl⟩, outage, soundAfter, left⟩⟩
    · simp [← Except.error.inj same, RegistryError.isTableMissing] at missing

end Sync

end Horarium
