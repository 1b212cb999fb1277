/-
Module: Horarium.Proofs.ModuleRemoval
Purpose: Removing a module after it has been installed. The two events need not name the same
  version of the module: what is removed are the system timers with the module's name, and these are
  the ones that the installation has added.
Trusted boundary: none
Main exports: Removes, Sync.resource_deletes, Sync.removal_undoes_installation
-/
import Horarium.Proofs.ModuleInstallation

namespace Horarium

/-- An event installs a module for a tenant, and another one removes for it the module of the same
name. -/
structure Sync.Undoes (moduleName : String) (installed : ModuleTimers)
    (install remove : ResourceEvent) :
    Prop where
  installs : install.change = .create
  declares : install.newValue = some installed
  named : ModuleName.ofId installed.moduleId = .ok moduleName
  removes : remove.change = .delete
  tenant : remove.tenant = install.tenant
  sameName : ∃ removed, remove.oldValue.or remove.newValue = some removed ∧
    ModuleName.ofId removed.moduleId = .ok moduleName

section Slots

variable {ε : Type} [JobEngine ε] {world middle after : World MemoryStore ε} {ctx : Context}
  {moduleId moduleName : String} {entries : List RoutingEntry} {id : Uuid} {record : TimerRecord}

/-- A version that an entry declares has the natural key of the entry, and is of the module. -/
theorem keyed_of_declared {version : TimerRecord}
    (named : ModuleName.ofId moduleId = .ok moduleName)
    (declared : version ∈ declaredVersions moduleId entries record) :
    version.IsSystemOf moduleName ∧
      ∃ entry ∈ entries, record.naturalKey = entry.keyIn moduleName := by
  obtain ⟨entry, member, prepared, key⟩ := mem_declaredVersions.mp declared
  obtain ⟨name, derived, rfl⟩ := TimerRecord.prepare_ofModule prepared
  obtain rfl := Except.ok.inj (named.symm.trans derived)
  exact ⟨⟨rfl, rfl⟩, entry, member, key.symm⟩

/-- What is stored before a module is installed is not what its entries declare. -/
theorem Vacated.undeclared {store : MemoryStore}
    (vacated : Vacated ctx.tenant moduleName entries store)
    (named : ModuleName.ofId moduleId = .ok moduleName)
    (held : store.stored ctx.tenant id = some record) :
    declaredVersions moduleId entries record = [] := by
  apply List.eq_nil_iff_forall_not_mem.mpr
  intro version declared
  obtain ⟨_, entry, member, key⟩ := keyed_of_declared named declared
  exact vacated.untaken held entry member key

/-- What the installation of a module adds is a system timer of the module. -/
theorem Creates.isSystemOf_of_added (creates : Creates ctx moduleId entries world after)
    (named : ModuleName.ofId moduleId = .ok moduleName)
    (absent : world.store.stored ctx.tenant id = none)
    (held : after.store.stored ctx.tenant id = some record) : record.IsSystemOf moduleName := by
  rcases (creates.evolves held).ends with ⟨_, same⟩ | ⟨version, now, before, last, stored⟩
  · have unchanged : after.store.stored ctx.tenant id = world.store.stored ctx.tenant id :=
      congrArg Slot.record same
    rw [held, absent] at unchanged
    simp at unchanged
  · obtain rfl : record = version.version ctx now id before :=
      Option.some.inj (held.symm.trans stored)
    exact (keyed_of_declared named (List.mem_of_getLast? last)).1

/-- The system timers of the module have been deleted with their jobs, and nothing else has changed
for the tenant. -/
structure Removes (tenant moduleName : String) (world after : World MemoryStore ε) : Prop where
  gone : ∀ {id record}, world.store.stored tenant id = some record → record.IsSystemOf moduleName →
    after.store.stored tenant id = none
  kept : ∀ {id}, (∀ record, world.store.stored tenant id = some record →
    ¬ record.IsSystemOf moduleName) → after.slot tenant id = world.slot tenant id

/-- Everything is as it was: the same tenants have tables, these hold the same records under the
same ids, and the engine holds the same jobs. -/
structure Restored (world after : World MemoryStore ε) : Prop where
  tables : ∀ tenant, (after.store.table? tenant).isSome = (world.store.table? tenant).isSome
  records : ∀ tenant id, after.store.stored tenant id = world.store.stored tenant id
  jobs : after.roster = world.roster

/-- Steps for one tenant that leave what was there before under every id restore everything. -/
theorem Restored.of_slots {c : Circumstances} (installing : Chain c ctx world middle)
    (removing : Chain c ctx middle after)
    (slots : ∀ id, after.slot ctx.tenant id = world.slot ctx.tenant id) : Restored world after := by
  have chain : Chain c ctx world after := installing.trans removing
  constructor
  case tables =>
    intro tenant
    by_cases own : tenant = ctx.tenant
    · rw [own]
      exact chain.within.provisioned
    · rw [chain.within.elsewhere tenant own]
  case records =>
    intro tenant id
    by_cases own : tenant = ctx.tenant
    · rw [own]
      exact congrArg Slot.record (slots id)
    · exact chain.within.stored_elsewhere own id
  case jobs =>
    funext key
    by_cases spelled : ∃ id : Uuid, id.toText = key
    · obtain ⟨id, rfl⟩ := spelled
      exact congrArg Slot.job (slots id)
    · exact chain.others fun id same => spelled ⟨id, same⟩

/-- What the removal of a module leaves of its installation is what was there before, under every
id. -/
theorem Creates.slot_of_removes (creates : Creates ctx moduleId entries world middle)
    (removes : Removes ctx.tenant moduleName middle after)
    (vacated : Vacated ctx.tenant moduleName entries world.store)
    (named : ModuleName.ofId moduleId = .ok moduleName) (consistent : Consistent world)
    (consistentAfter : Consistent after) (unshared : middle.store.Unshared)
    (installing : MemoryStore.Within ctx.tenant world.store middle.store)
    (removing : MemoryStore.Within ctx.tenant middle.store after.store) (id : Uuid) :
    after.slot ctx.tenant id = world.slot ctx.tenant id := by
  cases before : world.store.stored ctx.tenant id with
  | some old =>
    have spared := creates.slot_of_undeclared before (vacated.undeclared named before)
    have held : middle.store.stored ctx.tenant id = some old :=
      (congrArg Slot.record spared).trans before
    rw [← spared]
    apply removes.kept
    intro record stored
    obtain rfl := Option.some.inj (held.symm.trans stored)
    exact vacated.unowned before
  | none =>
    cases held : middle.store.stored ctx.tenant id with
    | none =>
      rw [removes.kept (by simp [held]), creates.unstored held]
    | some record =>
      have gone := removes.gone held (creates.isSystemOf_of_added named before held)
      have jobless := consistent.jobless_of_free
        (fun other apart => installing.stored_elsewhere apart id) unshared before held
      have joblessAfter := consistentAfter.jobless_of_free
        (fun other apart => (removing.stored_elsewhere apart id).symm) unshared gone held
      exact Slot.ext (gone.trans before.symm) (joblessAfter.trans jobless.symm)

end Slots

namespace Sync

section Removal

variable {ε : Type} [JobEngine ε] {c : Circumstances} {world after : World MemoryStore ε}
  {ctx : Context}
  {moduleName : String}

theorem deleteTimers_takesNoId : (deleteTimers ctx moduleName).Asks Request.TakesNoId := by
  apply Procedure.Asks.mapError
  apply (Registry.ask_takesNoId _).bind
  intro records
  exact Registry.deleteEach_takesNoId records

theorem skipTableMissing_takesNoId {operation : Operation Nat}
    (asks : operation.Asks Request.TakesNoId) :
    (skipTableMissing operation).Asks Request.TakesNoId := by
  apply asks.attempt.bind
  intro outcome
  cases outcome with
  | ok n => exact .done n
  | error e =>
    dsimp only
    split
    · exact .done 0
    · exact .fail e

/-- Deleting the timers of a module succeeds while the engine is available. -/
theorem deleteTimers_removes {outcome : Except SyncError Nat} (steady : ¬ c.outage)
    (sound : world.store.Sound) (provisioned : (world.store.table? ctx.tenant).isSome)
    (runs : World.Runs c.Admits world (deleteTimers ctx moduleName) outcome after) :
    (∃ n, outcome = .ok n) ∧ Removes ctx.tenant moduleName world after := by
  rcases deleteTimers_drops sound provisioned runs with ⟨_, _, _, outage⟩ | ⟨succeeded, drops⟩
  · exact absurd outage steady
  refine ⟨succeeded, ?_, ?_⟩
  · intro id record held owned
    exact ((drops id).1 record held owned).1
  · intro id unowned
    obtain ⟨stored, roster⟩ := (drops id).2 unowned
    exact Slot.ext stored roster

end Removal

variable {ε : Type} [SteadyEngine ε] {world middle after : World MemoryStore ε}
  {event : ResourceEvent}
  {moduleName : String} {value : ModuleTimers} {n : Nat}

/-- An event that removes a module for a tenant does nothing else. -/
theorem resource_eq_delete (valid : Context.isTenantName event.tenant = true)
    (change : event.change = .delete) (given : event.oldValue.or event.newValue = some value)
    (derived : ModuleName.ofId value.moduleId = .ok moduleName) :
    resource event = skipTableMissing (deleteTimers (contextOf event.tenant) moduleName) := by
  unfold resource
  rw [Context.ofTenant, if_pos valid, change, given]
  show (Procedure.ofExcept SyncError.ofInput (ModuleName.ofId value.moduleId) >>= _) = _
  rw [derived]
  rfl

/-- An event that removes a module takes no new id. -/
theorem resource_takesNoId (valid : Context.isTenantName event.tenant = true)
    (change : event.change = .delete) (given : event.oldValue.or event.newValue = some value)
    (derived : ModuleName.ofId value.moduleId = .ok moduleName) :
    (resource event).Asks Request.TakesNoId := by
  rw [resource_eq_delete valid change given derived]
  exact skipTableMissing_takesNoId deleteTimers_takesNoId

/-- The removal of a module is carried out. -/
theorem resource_deletes (sound : world.store.Sound) (steady : SteadyEngine.Steady world.engine)
    (valid : Context.isTenantName event.tenant = true)
    (provisioned : (world.store.table? event.tenant).isSome) (change : event.change = .delete)
    (given : event.oldValue.or event.newValue = some value)
    (derived : ModuleName.ofId value.moduleId = .ok moduleName) :
    ∃ n after, world.run (resource event) = (.ok n, after) ∧
      Removes event.tenant moduleName world after := by
  have fresh := (resource_takesNoId valid change given derived).throughout world
  have admitted := (fresh.runs.steady steady).1
  have carriedOut := resource_eq_delete valid change given derived
  rw [carriedOut] at admitted
  obtain ⟨inner, deleting, ended⟩ := skipTableMissing_inv admitted
  obtain ⟨⟨m, rfl⟩, removes⟩ := deleteTimers_removes not_false sound provisioned deleting
  rcases ended with ⟨succeeded, _⟩ | ⟨e, failed, _⟩
  · rw [← carriedOut] at succeeded removes
    exact ⟨m, _, Prod.ext succeeded rfl, removes⟩
  · simp at failed

/-- The service goes on after the removal of a module. -/
theorem resource_removes (history : History MemoryStore.Unshared world)
    (provisioned : (world.store.table? event.tenant).isSome) (change : event.change = .delete)
    (given : event.oldValue.or event.newValue = some value)
    (derived : ModuleName.ofId value.moduleId = .ok moduleName) :
    ∃ n after, world.run (resource event) = (.ok n, after) ∧
      Removes event.tenant moduleName world after ∧
      Chain .steady (contextOf event.tenant) world after ∧ History MemoryStore.Unshared after := by
  obtain ⟨sound, steady⟩ := history.sound
  have valid := history.consistent.2.named event.tenant provisioned
  obtain ⟨n, after, ended, removes⟩ :=
    resource_deletes sound steady valid provisioned change given derived
  have fresh := (resource_takesNoId valid change given derived).throughout world
  have runs := fresh.runs
  rw [ended] at runs
  obtain ⟨chain, historyAfter⟩ := resource_continues history runs
  exact ⟨n, after, ended, removes, chain, historyAfter⟩

/-- Removing a module, of whatever version, after it has been installed for a tenant that had
nothing of it restores every record and every job. -/
theorem removal_undoes_installation {installed : ModuleTimers} {install remove : ResourceEvent}
    (history : History MemoryStore.Unshared world)
    (provisioned : (world.store.table? install.tenant).isSome)
    (undoes : Undoes moduleName installed install remove)
    (vacated : Vacated install.tenant moduleName installed.timers world.store)
    (fresh : World.Throughout FreshIds world (resource install))
    (carriedOut : world.run (resource install) = (.ok n, middle)) :
    ∃ m after, middle.run (resource remove) = (.ok m, after) ∧ Restored world after := by
  have runs := fresh.runs
  rw [carriedOut] at runs
  obtain ⟨sound, steady⟩ := history.sound
  obtain ⟨chain, historyMiddle⟩ := resource_continues history runs
  obtain ⟨value, given, _, creates⟩ := resource_creates sound undoes.installs (runs.steady steady).1
  obtain rfl := Option.some.inj (undoes.declares.symm.trans given)
  obtain ⟨removed, removedGiven, removedName⟩ := undoes.sameName
  have provisionedMiddle : (middle.store.table? remove.tenant).isSome := by
    rw [undoes.tenant]
    exact chain.within.provisioned ▸ provisioned
  obtain ⟨m, after, ended, removes, chainAfter, historyAfter⟩ :=
    resource_removes historyMiddle provisionedMiddle undoes.removes removedGiven removedName
  rw [undoes.tenant] at removes chainAfter
  refine ⟨m, after, ended, .of_slots chain chainAfter ?_⟩
  exact creates.slot_of_removes removes vacated undoes.named history.consistent.2
    historyAfter.consistent.2 historyMiddle.consistent.1 chain.within chainAfter.within

/-! ### A module that is removed as another version of itself -/

/-- The module declares one timer three times, the second time with an interval of zero, and another
one. -/
def reports : ModuleTimers :=
  ⟨"reports-1.0.0",
    [everyMinutes "2", everyMinutes "0", { everyMinutes "5" with path := some "/sweep" },
    everyMinutes "3"]⟩

/-- A tenant gets the module. -/
def arrival : ResourceEvent := ⟨.create, "north", some reports, none⟩

/-- The tenant is told that a later version of the module goes. -/
def departure : ResourceEvent := ⟨.delete, "north", none, some ⟨"reports-2.0.0", []⟩⟩

/-- The tenant has nothing of the module. -/
theorem vacated_employed : Vacated "north" "reports" reports.timers employed.store := by
  have foreign :
      (employed.store.table? "north").all (·.all fun row => row.record.moduleName == some "mod" &&
      reports.timers.all fun entry => row.record.naturalKey ≠ entry.keyIn "reports") = true := by
    decide +kernel
  have apart : ∀ {id record}, employed.store.stored "north" id = some record →
      record.moduleName = some "mod" ∧
        ∀ entry ∈ reports.timers, record.naturalKey ≠ entry.keyIn "reports" := by
    intro id record held
    obtain ⟨table, row, found, kept, rfl⟩ := MemoryStore.exists_row_of_stored held
    rw [found] at foreign
    have checked := List.all_eq_true.mp foreign row (TimerTable.mem_of_row? kept)
    simpa using checked
  constructor
  · intro id record held owned
    have names := (apart held).1.symm.trans owned.1
    simp at names
  · intro id record held
    exact (apart held).2

theorem departure_restores : ∃ middle n after, employed.run (resource arrival) = (.ok 4, middle) ∧
    middle.run (resource departure) = (.ok n, after) ∧ Restored employed after := by
  have fresh : World.Throughout FreshIds employed (resource arrival) := by decide +kernel
  have provisioned : (employed.store.table? "north").isSome := by decide +kernel
  have succeeded : (employed.run (resource arrival)).1 = .ok 4 := by decide +kernel
  have undoes : Undoes "reports" reports arrival departure :=
    ⟨rfl, rfl, by decide +kernel, rfl, rfl, _, rfl, by decide +kernel⟩
  obtain ⟨n, after, carriedOut, restored⟩ :=
    removal_undoes_installation history_employed provisioned undoes
    vacated_employed fresh (Prod.ext succeeded rfl)
  exact ⟨_, n, after, Prod.ext succeeded rfl, carriedOut, restored⟩

end Sync

end Horarium
