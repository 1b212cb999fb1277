/-
Module: Horarium.Proofs.ResourceRedelivery
Purpose: Redelivery of events about modules. A delivery that the engine cuts short leaves at most
  one job out of line, and the next delivery sees to it only if it asks the engine for something
  else than what is stored. What follows is when exactly it does.
Trusted boundary: none
Main exports: declaredVersions, Sync.deleteTimers_drops, Sync.resource_redelivery_iff
-/
import Horarium.Proofs.EventSteps
import Horarium.Proofs.TenantAgreement

namespace Horarium

/-- The versions that a module declares of a stored timer, in their order. -/
def declaredVersions (moduleId : String) (entries : List RoutingEntry) (record : TimerRecord) :
    List TimerRecord :=
  entries.filterMap fun entry =>
    (TimerRecord.ofModule moduleId entry).prepare.toOption.filter (·.naturalKey = record.naturalKey)

section Declared

variable {moduleId : String} {entry : RoutingEntry} {entries : List RoutingEntry}
  {record version : TimerRecord}

theorem mem_declaredVersions : version ∈ declaredVersions moduleId entries record ↔
    ∃ entry ∈ entries, (TimerRecord.ofModule moduleId entry).prepare = .ok version ∧
      version.naturalKey = record.naturalKey := by
  unfold declaredVersions
  rw [List.mem_filterMap]
  apply exists_congr
  intro entry
  cases (TimerRecord.ofModule moduleId entry).prepare with
  | error e => simp [Except.toOption]
  | ok declared => simp [Except.toOption, Option.filter_eq_some_iff]

theorem declaredVersions_congr {other : TimerRecord} (same : record.naturalKey = other.naturalKey) :
    declaredVersions moduleId entries record = declaredVersions moduleId entries other := by
  unfold declaredVersions
  rw [same]

theorem declaredVersions_cons
    (prepared : (TimerRecord.ofModule moduleId entry).prepare = .ok version) :
    declaredVersions moduleId (entry :: entries) record =
      if version.naturalKey = record.naturalKey then
        version :: declaredVersions moduleId entries record
      else declaredVersions moduleId entries record := by
  unfold declaredVersions
  rw [List.filterMap_cons, prepared]
  by_cases same : version.naturalKey = record.naturalKey
  · simp [Except.toOption, Option.filter, same]
  · simp [Except.toOption, Option.filter, same]

end Declared

/-- Storing the versions one after the other asks the engine for what brings the job in line. An
active record needs a version that asks for something else. For an inactive one the first active
version takes over the job that is there, which then has the right trigger or needs another version
that differs. -/
def Reworked (tenant : String) (record : TimerRecord) (job : Option Job)
    (versions : List TimerRecord) :
    Prop :=
  if record.isActive then ∃ version ∈ versions, version.demand ≠ record.demand
  else ∃ first rest, versions.dropWhile (!·.isActive) = first :: rest ∧
    (InLine tenant (some first) job ∨ ∃ version ∈ rest, version.demand ≠ first.demand)

/-- The event deletes the record as a system timer of the module. -/
def Drops (event : ResourceEvent) (record : TimerRecord) : Prop :=
  event.change ≠ .create ∧ ∃ value name, event.oldValue.or event.newValue = some value ∧
    ModuleName.ofId value.moduleId = .ok name ∧ record.moduleName = some name ∧
    record.kind = some .system

/-- Carrying out the event brings the job of the stored record in line, whatever it was before: the
record is deleted with its job, or the versions declared now see to it. -/
def Mends (event : ResourceEvent) (record : TimerRecord) (job : Option Job) : Prop :=
  Drops event record ∧ (record.isActive = true ∨ InLine event.tenant none job) ∨
    ¬ Drops event record ∧ event.change ≠ .delete ∧ ∃ value, event.newValue = some value ∧
      Reworked event.tenant record job (declaredVersions value.moduleId value.timers record)

section Versions

variable {tenant : String} {ctx : Context} {id : Uuid} {record version saved : TimerRecord}
  {job : Option Job} {rest : List TimerRecord}

theorem not_reworked_nil : ¬ Reworked tenant record job [] := by
  unfold Reworked
  split
  · rintro ⟨version, member, _⟩
    simp at member
  · rintro ⟨first, rest, dropped, _⟩
    simp at dropped

/-- What the versions do depends on the record only by its demand. -/
theorem reworked_congr {other : TimerRecord} (same : record.demand = other.demand) :
    Reworked tenant record job rest ↔ Reworked tenant other job rest := by
  unfold Reworked
  rw [same, TimerRecord.isActive_eq_of_demand same]

/-- A version that asks for what the record asks for makes no difference. -/
theorem reworked_cons_of_same (same : version.demand = record.demand) :
    Reworked tenant record job (version :: rest) ↔ Reworked tenant record job rest := by
  have actives := TimerRecord.isActive_eq_of_demand same
  unfold Reworked
  cases active : record.isActive with
  | true => simp [same]
  | false => simp [actives, active]

/-- An active version takes over the job under the id of an inactive record. -/
theorem reworked_cons_of_inactive (inactive : record.isActive = false)
    (active : version.isActive = true) :
    Reworked tenant record job (version :: rest) ↔
      InLine tenant (some version) job ∨ Reworked tenant version job rest := by
  unfold Reworked
  simp [inactive, active]

/-- Where a job is out of line, storing a version leaves it to that version and to the rest to see
to it. -/
theorem inLine_or_reworked_cons (schedulable : saved.Schedulable)
    (same : saved.demand = version.demand) :
    InLine tenant (some saved) (settle ctx id (some record) (some saved) job) ∨
        Reworked tenant saved (settle ctx id (some record) (some saved) job) rest ↔
      InLine tenant (some record) job ∨ Reworked tenant record job (version :: rest) := by
  have schedulableNext : ∀ next, some saved = some next → next.Schedulable := by
    rintro next ⟨⟩
    exact schedulable
  by_cases unchanged : record.demand = saved.demand
  · have kept : settle ctx id (some record) (some saved) job = job := settle_of_demand_eq unchanged
    rw [kept, reworked_cons_of_same (same.symm.trans unchanged.symm), reworked_congr unchanged,
      inLine_congr unchanged]
  · cases active : record.isActive with
    | true =>
      have settled : InLine tenant (some saved) (settle ctx id (some record) (some saved) job) :=
        inLine_settle_of_asked schedulableNext (demandOf_ne_none_of_active active) unchanged
      have reworked : Reworked tenant record job (version :: rest) := by
        unfold Reworked
        rw [if_pos active]
        exact ⟨version, by simp, same ▸ Ne.symm unchanged⟩
      exact ⟨fun _ => .inr reworked, fun _ => .inl settled⟩
    | false =>
      have unasked : record.demand = none := TimerRecord.demand_of_inactive active
      have savedActive : saved.isActive = true := by
        by_contra inactive
        exact unchanged
          (unasked.trans (TimerRecord.demand_of_inactive (by simpa using inactive)).symm)
      have versionActive : version.isActive = true :=
        TimerRecord.isActive_eq_of_demand same ▸ savedActive
      rw [reworked_cons_of_inactive active versionActive, inLine_inactive active]
      cases job with
      | some held =>
        rw [settle_taken (show demandOf (some record) = none from unasked), inLine_congr same,
          reworked_congr same]
        simp
      | none =>
        obtain ⟨trigger, computed⟩ := schedulable.exists_trigger savedActive
        have registered :
            InLine tenant (some saved) (settle ctx id (some record) (some saved) none) := by
          rw [inLine_active savedActive]
          exact ⟨_, settle_register unchanged savedActive computed, computed⟩
        exact ⟨fun _ => .inl rfl, fun _ => .inl registered⟩

end Versions

variable {ε : Type} [JobEngine ε] {c : Circumstances} {world mid after : World MemoryStore ε}
  {ctx : Context}
  {id : Uuid} {record : TimerRecord}

namespace Registry

/-- What a creation that succeeds does to a stored timer: it becomes the next version of the timer
with its natural key, and is left alone otherwise. -/
theorem create_slot {input answered : TimerRecord} (sound : world.store.Sound)
    (held : world.store.stored ctx.tenant id = some record)
    (runs : World.Runs c.Admits world (create ctx input) (.ok answered) after) :
    after.store.Sound ∧ ∃ version, input.prepare = .ok version ∧
      (version.naturalKey = record.naturalKey ∧ (∃ saved : TimerRecord, saved.Restates version ∧
          after.store.stored ctx.tenant id = some saved ∧
          after.roster id.toText = settle ctx id (some record) (some saved)
            (world.roster id.toText)) ∨
        version.naturalKey ≠ record.naturalKey ∧ after.store.stored ctx.tenant id = some record ∧
          after.roster id.toText = world.roster id.toText) := by
  rcases create_stores sound runs with ⟨refused, _⟩ | ⟨version, place, saved, placed, stores⟩
  · simpa using refused.failed
  refine ⟨stores.written.sound, version, stores.prepared, ?_⟩
  obtain ⟨stored, roster⟩ := stores.written.slot id
  rw [held] at stored roster
  cases placed with
  | known old heldOld namesake =>
    by_cases same : version.naturalKey = record.naturalKey
    · obtain rfl : place = id := sound.wellFormed.id_unique heldOld held (namesake.trans same)
      rw [if_pos rfl] at stored roster
      exact .inl ⟨same, saved, stores.restates, stored, roster⟩
    · have apart : id ≠ place := by
        rintro rfl
        obtain rfl := Option.some.inj (held.symm.trans heldOld)
        exact same namesake.symm
      rw [if_neg apart] at stored roster
      exact .inr ⟨same, stored, roster⟩
  | added free unique source =>
    have apart : id ≠ place := by
      rintro rfl
      simp [free] at held
    rw [if_neg apart] at stored roster
    exact .inr ⟨Ne.symm (unique id record held), stored, roster⟩

/-- What deletions that succeed do to a timer: it is gone if it is among the listed ones. -/
theorem deleteEach_slot {records : List TimerRecord} {n : Nat} (id : Uuid)
    (sound : world.store.Sound)
    (runs : World.Runs c.Admits world (deleteEach ctx records) (.ok n) after) :
    (some id ∈ records.map (·.id) → after.store.stored ctx.tenant id = none ∧
        after.roster id.toText =
          settle ctx id (world.store.stored ctx.tenant id) none (world.roster id.toText)) ∧
      (some id ∉ records.map (·.id) →
        after.store.stored ctx.tenant id = world.store.stored ctx.tenant id ∧
        after.roster id.toText = world.roster id.toText) := by
  induction records generalizing world n with
  | nil =>
    obtain ⟨_, rfl⟩ := runs.done_inv
    simp
  | cons head records ih =>
    unfold deleteEach at runs
    cases named : head.id with
    | none =>
      rw [named] at runs
      simpa [named] using ih sound runs
    | some gone =>
      rw [named] at runs
      rcases runs.bind_inv with ⟨_, middle, first, rest⟩ | ⟨e, _, failed⟩
      · rcases rest.bind_inv with ⟨m, last, others, counted⟩ | ⟨e, _, failed⟩
        · obtain ⟨_, rfl⟩ := counted.done_inv
          rcases delete_written sound first with ⟨_, refused⟩ | written
          · simpa using refused.failed
          · obtain ⟨listed, unlisted⟩ := ih written.sound others
            obtain ⟨stored, roster⟩ := written.slot id
            by_cases here : id = gone
            · subst here
              rw [if_pos rfl] at stored roster
              refine ⟨fun _ => ?_, fun absent => absurd (by simp [named]) absent⟩
              -- The timer is gone now, and further deletions of it change nothing.
              rw [stored, roster, settle_of_demand_eq rfl] at listed
              rw [stored, roster] at unlisted
              by_cases again : some id ∈ records.map (·.id)
              · exact listed again
              · exact unlisted again
            · rw [if_neg here] at stored roster
              have others : some id ∈ (head :: records).map (·.id) ↔
                  some id ∈ records.map (·.id) := by
                simp [named, here]
              rw [others, ← stored, ← roster]
              exact ⟨listed, unlisted⟩
        · simp at failed
      · simp at failed

/-- A deletion of several timers fails only because the engine does, as long as the tenant has a
table. -/
theorem outage_of_deleteEach {records : List TimerRecord} {e : RegistryError}
    (sound : world.store.Sound) (provisioned : (world.store.table? ctx.tenant).isSome)
    (runs : World.Runs c.Admits world (deleteEach ctx records) (.error e) after) :
    e.IsScheduling ∧ c.outage := by
  induction records generalizing world e with
  | nil => exact absurd runs.done_inv.1 (by simp)
  | cons head records ih =>
    unfold deleteEach at runs
    cases named : head.id with
    | none =>
      rw [named] at runs
      exact ih sound provisioned runs
    | some gone =>
      rw [named] at runs
      rcases runs.bind_inv with ⟨_, middle, first, rest⟩ | ⟨cause, first, failed⟩
      · rcases delete_written sound first with ⟨missing, _⟩ | written
        · simp [missing] at provisioned
        · rcases rest.bind_inv with ⟨m, last, others, counted⟩ | ⟨cause, others, failed⟩
          · exact absurd counted.done_inv.1 (by simp)
          · obtain rfl := Except.error.inj failed
            exact ih written.sound (written.sets.provisioned ▸ provisioned) others
      · obtain rfl := Except.error.inj failed
        rcases delete_written sound first with ⟨missing, _⟩ | written
        · simp [missing] at provisioned
        · rcases written.engine with ⟨⟨_, succeeded⟩, _⟩ | ⟨⟨detail, unavailable⟩, outage, _⟩
          · simp at succeeded
          · exact ⟨⟨_, Except.error.inj unavailable⟩, outage⟩

end Registry

namespace Sync

/-- Creations that succeed bring a stored timer in line exactly if it was or the declared versions
see to it, by induction on the entries. -/
theorem createEach_slot {moduleId : String} {entries : List RoutingEntry} {u : PUnit}
    (sound : world.store.Sound) (held : world.store.stored ctx.tenant id = some record)
    (runs : World.Runs c.Admits world (createEach ctx moduleId entries) (.ok u) after) :
    InLine ctx.tenant (after.store.stored ctx.tenant id) (after.roster id.toText) ↔
      InLine ctx.tenant (some record) (world.roster id.toText) ∨
        Reworked ctx.tenant record (world.roster id.toText)
          (declaredVersions moduleId entries record) := by
  induction entries generalizing world record with
  | nil =>
    obtain ⟨_, rfl⟩ := runs.done_inv
    rw [held]
    simp [declaredVersions, not_reworked_nil]
  | cons entry entries ih =>
    unfold createEach at runs
    rcases runs.mapError_bind_inv with ⟨_, middle, first, rest⟩ | ⟨e, _, failed⟩
    · obtain ⟨soundMiddle, version, prepared, slot⟩ := Registry.create_slot sound held first
      rcases slot with ⟨same, saved, restates, stored, roster⟩ | ⟨differs, stored, roster⟩
      · rw [ih soundMiddle stored rest, roster,
          declaredVersions_congr (restates.naturalKey.trans same), declaredVersions_cons prepared,
          if_pos same]
        exact inLine_or_reworked_cons (soundMiddle.schedulable stored) restates.demand
      · rw [ih soundMiddle stored rest, roster, declaredVersions_cons prepared, if_neg differs]
    · simp at failed

theorem createTimers_slot {new : ModuleTimers} {n : Nat} (sound : world.store.Sound)
    (held : world.store.stored ctx.tenant id = some record)
    (runs : World.Runs c.Admits world (createTimers ctx new) (.ok n) after) :
    InLine ctx.tenant (after.store.stored ctx.tenant id) (after.roster id.toText) ↔
      InLine ctx.tenant (some record) (world.roster id.toText) ∨
        Reworked ctx.tenant record (world.roster id.toText)
          (declaredVersions new.moduleId new.timers record) := by
  obtain ⟨inner, creating, answered⟩ := createTimers_inv runs
  cases inner with
  | error e => simp [Except.map] at answered
  | ok u => exact createEach_slot sound held creating

/-- A deletion of the timers of a module is cut short by the engine, or drops the system timers of
the module and nothing else. -/
theorem deleteTimers_drops {name : String} {deleted : Except SyncError Nat}
    (sound : world.store.Sound) (provisioned : (world.store.table? ctx.tenant).isSome)
    (runs : World.Runs c.Admits world (deleteTimers ctx name) deleted after) :
    (∃ e, deleted = .error e ∧ e.IsScheduling ∧ c.outage) ∨
      (∃ n, deleted = .ok n) ∧ ∀ id : Uuid,
        (∀ record, world.store.stored ctx.tenant id = some record → record.IsSystemOf name →
          after.store.stored ctx.tenant id = none ∧
            after.roster id.toText = settle ctx id (some record) none (world.roster id.toText)) ∧
        ((∀ record, world.store.stored ctx.tenant id = some record → ¬ record.IsSystemOf name) →
          after.store.stored ctx.tenant id = world.store.stored ctx.tenant id ∧
            after.roster id.toText = world.roster id.toText) := by
  obtain ⟨inner, rfl, ⟨missing, _⟩ | ⟨records, lists, deleting⟩⟩ := deleteTimers_inv sound runs
  · simp [missing] at provisioned
  cases inner with
  | error e =>
    obtain ⟨stopped, outage⟩ := Registry.outage_of_deleteEach sound provisioned deleting
    exact .inl ⟨.registry e, rfl, ⟨e, rfl, stopped⟩, outage⟩
  | ok n =>
    refine .inr ⟨⟨n, rfl⟩, fun id => ?_⟩
    obtain ⟨listed, unlisted⟩ := Registry.deleteEach_slot id sound deleting
    constructor
    · intro record held asked
      have member := (lists.mem_iff record).mpr ⟨id, held, asked⟩
      rw [held] at listed
      exact listed (sound.wellFormed.id_of_stored held ▸ List.mem_map_of_mem member)
    · intro unasked
      refine unlisted fun member => ?_
      obtain ⟨record, present, named⟩ := List.mem_map.mp member
      obtain ⟨recordId, recordNamed, held, asked⟩ := lists.stored_of_mem sound.wellFormed present
      obtain rfl := Option.some.inj (recordNamed.symm.trans named)
      exact unasked record held asked

/-- What a deletion of the timers of a module that is not cut short by the engine does to a stored
timer. -/
theorem deleteTimers_slot {name : String} {deleted : Except SyncError Nat}
    (sound : world.store.Sound) (held : world.store.stored ctx.tenant id = some record)
    (runs : World.Runs c.Admits world (deleteTimers ctx name) deleted after)
    (ended : ∀ e, deleted = .error e → e.isTableMissing = true) :
    (∃ n, deleted = .ok n) ∧
      (record.IsSystemOf name ∧ after.store.stored ctx.tenant id = none ∧
          after.roster id.toText = settle ctx id (some record) none (world.roster id.toText) ∨
        ¬ record.IsSystemOf name ∧ after.store.stored ctx.tenant id = some record ∧
          after.roster id.toText = world.roster id.toText) := by
  rcases deleteTimers_drops sound (world.store.isSome_table?_of_stored held) runs with
    ⟨e, failed, stopped, _⟩ | ⟨succeeded, drops⟩
  · exact absurd stopped (not_isScheduling_of_tableMissing (ended e failed))
  · refine ⟨succeeded, ?_⟩
    obtain ⟨dropped, kept⟩ := drops id
    by_cases asked : record.IsSystemOf name
    · exact .inl ⟨asked, dropped record held asked⟩
    · rw [held] at kept
      refine .inr ⟨asked, kept ?_⟩
      rintro other ⟨⟩
      exact asked

/-- Without a record, the job that is left of a dropped one is in line exactly if it was, or the
record was active, or the job is not the tenant's. -/
theorem inLine_dropped_iff {tenant : String} {job : Option Job} :
    InLine tenant none (settle ctx id (some record) none job) ↔
      InLine tenant (some record) job ∨ record.isActive = true ∨ InLine tenant none job := by
  cases active : record.isActive with
  | true =>
    rw [settle_drop (demandOf_ne_none_of_active active) demandOf_none]
    simp [InLine]
  | false =>
    have unasked : demandOf (some record) = none := TimerRecord.demand_of_inactive active
    rw [settle_of_demand_eq unasked, inLine_inactive active]
    constructor
    · intro inLine
      exact .inr (.inr inLine)
    · rintro (rfl | impossible | inLine)
      · simp [InLine]
      · simp at impossible
      · exact inLine

/-- What an event drops follows from the value that names the module. -/
theorem drops_iff {event : ResourceEvent} {value : ModuleTimers} {name : String}
    (change : event.change ≠ .create) (given : event.oldValue.or event.newValue = some value)
    (derived : ModuleName.ofId value.moduleId = .ok name) :
    Drops event record ↔ record.moduleName = some name ∧ record.kind = some .system := by
  constructor
  · rintro ⟨_, other, otherName, otherGiven, otherDerived, asked⟩
    obtain rfl := Option.some.inj (given.symm.trans otherGiven)
    obtain rfl := Except.ok.inj (derived.symm.trans otherDerived)
    exact asked
  · intro asked
    exact ⟨change, value, name, given, derived, asked⟩

variable {event : ResourceEvent} {n : Nat}

theorem update_slot {value : ModuleTimers} (sound : world.store.Sound)
    (held : world.store.stored event.tenant id = some record) (change : event.change = .update)
    (given : event.newValue = some value)
    (runs : World.Runs Circumstances.unused.Admits world
      (update (contextOf event.tenant) event.oldValue value) (.ok n) after) :
    InLine event.tenant (after.store.stored event.tenant id) (after.roster id.toText) ↔
      InLine event.tenant (some record) (world.roster id.toText) ∨
        Mends event record (world.roster id.toText) := by
  rcases update_inv runs with ⟨e, failed, _⟩ | ⟨name, deleted, middle, derived, deleting, ended⟩
  · simp at failed
  have drops : Drops event record ↔ record.moduleName = some name ∧ record.kind = some .system := by
    apply drops_iff (by simp [change]) _ derived
    rw [given]
    cases event.oldValue <;> rfl
  have missing : ∀ e, deleted = .error e → e.isTableMissing = true := by
    rintro e rfl
    rcases ended with ⟨⟨_, succeeded⟩, _⟩ | ⟨_, same, _, ⟨missing, _⟩ | failed⟩
    · simp at succeeded
    · exact Except.error.inj same ▸ missing
    · simp at failed
  obtain ⟨⟨_, rfl⟩, slot⟩ := deleteTimers_slot sound held deleting missing
  have soundMiddle : middle.store.Sound := (deleteTimers_progress sound deleting).chain.sound sound
  rcases ended with ⟨_, creating⟩ | ⟨_, failed, _⟩
  · unfold Mends
    rw [drops]
    rcases slot with ⟨asked, gone, roster⟩ | ⟨kept, stored, roster⟩
    · have chain := (createTimers_progress soundMiddle creating).chain
      refine (chain.unstored_inLine_iff gone).trans ?_
      rw [roster]
      refine inLine_dropped_iff.trans ?_
      simp [asked, contextOf]
    · refine (createTimers_slot soundMiddle stored creating).trans ?_
      rw [roster]
      simp [kept, change, given, contextOf]
  · simp at failed

theorem delete_slot {value : ModuleTimers} {name : String} (sound : world.store.Sound)
    (held : world.store.stored event.tenant id = some record) (change : event.change = .delete)
    (given : event.oldValue.or event.newValue = some value)
    (derived : ModuleName.ofId value.moduleId = .ok name)
    (runs : World.Runs Circumstances.unused.Admits world
      (skipTableMissing (deleteTimers (contextOf event.tenant) name)) (.ok n) after) :
    InLine event.tenant (after.store.stored event.tenant id) (after.roster id.toText) ↔
      InLine event.tenant (some record) (world.roster id.toText) ∨
        Mends event record (world.roster id.toText) := by
  obtain ⟨deleted, deleting, ended⟩ := skipTableMissing_inv runs
  have missing : ∀ e, deleted = .error e → e.isTableMissing = true := by
    rintro e rfl
    rcases ended with ⟨succeeded, _⟩ | ⟨_, same, missing, _⟩
    · simp at succeeded
    · exact Except.error.inj same ▸ missing
  have drops : Drops event record ↔ record.moduleName = some name ∧ record.kind = some .system :=
    drops_iff (by simp [change]) given derived
  obtain ⟨_, slot⟩ := deleteTimers_slot sound held deleting missing
  unfold Mends
  rw [drops]
  rcases slot with ⟨asked, gone, roster⟩ | ⟨kept, stored, roster⟩
  · rw [show after.store.stored event.tenant id = none from gone, roster, inLine_dropped_iff]
    simp [asked]
  · rw [show after.store.stored event.tenant id = some record from stored, roster]
    simp [kept, change]

/-- An event that is carried out brings the job of a stored record in line exactly if it was, or the
event mends it. -/
theorem resource_slot (sound : world.store.Sound)
    (held : world.store.stored event.tenant id = some record)
    (runs : World.Runs Circumstances.unused.Admits world (resource event) (.ok n) after) :
    InLine event.tenant (after.store.stored event.tenant id) (after.roster id.toText) ↔
      InLine event.tenant (some record) (world.roster id.toText) ∨
        Mends event record (world.roster id.toText) := by
  rcases resource_inv runs with ⟨e, failed, _⟩ | carried
  · simp at failed
  cases change : event.change with
  | create =>
    simp only [change] at carried
    obtain ⟨value, given, creating⟩ := carried
    have slot := createTimers_slot sound held creating
    have kept : ¬ Drops event record := fun drops => drops.1 change
    refine slot.trans ?_
    simp [Mends, kept, given, change, contextOf]
  | update =>
    simp only [change] at carried
    obtain ⟨value, given, upgrading⟩ := carried
    exact update_slot sound held change given upgrading
  | delete =>
    simp only [change] at carried
    obtain ⟨value, name, given, derived, deleting⟩ := carried
    exact delete_slot sound held change given derived deleting

/-- Redelivery of an event that met an unavailable engine. Either the first delivery left every job
of the tenant in line, and so does the second; or it left one out of line, and the second brings it
in line exactly if a record is stored there that the event mends. -/
theorem resource_redelivery_iff {e : SyncError} (sound : world.store.Sound)
    (agrees : Agrees event.tenant world)
    (first : World.Runs Circumstances.unused.Admits world (resource event) (.error e) mid)
    (second : World.Runs Circumstances.unused.Admits mid (resource event) (.ok n) after) :
    Agrees event.tenant mid ∧ Agrees event.tenant after ∨
      ∃ id : Uuid,
        ¬ InLine event.tenant (mid.store.stored event.tenant id) (mid.roster id.toText) ∧
        (∀ other : Uuid, other ≠ id →
          InLine event.tenant (mid.store.stored event.tenant other) (mid.roster other.toText)) ∧
        Leaves event (mid.store.stored event.tenant id) ∧
        (Agrees event.tenant after ↔ ∃ record, mid.store.stored event.tenant id = some record ∧
          Mends event record (mid.roster id.toText)) := by
  rcases resource_progress sound first with chain | ⟨_, _, last, id, new, chain, leaves, stray⟩
  · have agreesMid : Agrees event.tenant mid := chain.agrees agrees
    have again := (resource_progress (chain.sound sound) second).chain
    exact .inl ⟨agreesMid, again.agrees agreesMid⟩
  · have agreesLast : Agrees event.tenant last := chain.agrees agrees
    have stored : mid.store.stored event.tenant id = new := by
      have set := stray.sets.stored id
      rwa [if_pos rfl] at set
    have elsewhere : ∀ other : Uuid, other ≠ id →
        InLine event.tenant (mid.store.stored event.tenant other) (mid.roster other.toText) :=
      fun other apart => stray.inLine agreesLast apart
    have again := (resource_progress stray.sound second).chain
    have spelled : Spelled event.tenant mid.roster := stray.roster ▸ agreesLast.spelled
    by_cases here : InLine event.tenant (mid.store.stored event.tenant id) (mid.roster id.toText)
    · have agreesMid : Agrees event.tenant mid := by
        refine ⟨fun other => ?_, spelled⟩
        by_cases same : other = id
        · exact same ▸ here
        · exact elsewhere other same
      exact .inl ⟨agreesMid, again.agrees agreesMid⟩
    · refine .inr ⟨id, here, elsewhere, stored ▸ leaves,
        (again.agrees_iff spelled elsewhere).trans ?_⟩
      cases held : mid.store.stored event.tenant id with
      | none =>
        rw [held] at here
        have apart := (again.unstored_inLine_iff held).not.mpr here
        simp [apart]
      | some record =>
        rw [held] at here
        refine (resource_slot stray.sound held second).trans ?_
        simp [here]

/-! ### An upgrade that is healed and an installation that is not -/

/-- A module with one timer, as an event of this sort about the tenant brings it. -/
def sampleEvent (change : ResourceChange) : ResourceEvent :=
  ⟨change, "north", some ⟨"mod-1.0.0", [⟨["POST"], none, some "/run", some ⟨"1", .minute⟩, none⟩]⟩,
    none⟩

/-- The world after deliveries of the event. -/
def delivered (change : ResourceChange) : Nat → World MemoryStore RecordingEngine
  | 0 => vacant.impaired
  | times + 1 => ((delivered change times).run (resource (sampleEvent change))).2

/-- Both deliveries have taken place: the first met the unavailable engine, the second was carried
out. -/
theorem delivered_twice {change : ResourceChange} (kept : change ≠ .delete) :
    World.Runs Circumstances.unused.Admits vacant.impaired (resource (sampleEvent change))
        (.error (.registry (.scheduling (.schedulingFailure (Uuid.ofBits 1).toText
          (.unavailable "connection refused"))))) (delivered change 1) ∧
      World.Runs Circumstances.unused.Admits (delivered change 1)
        (resource (sampleEvent change)) (.ok 1)
        (delivered change 2) := by
  have first : World.Throughout Flaky vacant.impaired (resource (sampleEvent change)) := by
    cases change <;> decide +kernel
  have second : World.Throughout Flaky (delivered change 1) (resource (sampleEvent change)) := by
    cases change <;> decide +kernel
  have failed : (vacant.impaired.run (resource (sampleEvent change))).1 =
      .error (.registry (.scheduling
      (.schedulingFailure (Uuid.ofBits 1).toText (.unavailable "connection refused")))) := by
    cases change
    · decide +kernel
    · decide +kernel
    · exact absurd rfl kept
  have succeeded : ((delivered change 1).run (resource (sampleEvent change))).1 = .ok 1 := by
    cases change
    · decide +kernel
    · decide +kernel
    · exact absurd rfl kept
  exact ⟨failed ▸ first.runs.unused, succeeded ▸ second.runs.unused⟩

/-- An upgrade that the engine cut short is healed by its redelivery: the timer is deleted and
created anew. -/
theorem upgrade_redelivery_heals : Agrees "north" (delivered .update 2) := by
  obtain ⟨first, second⟩ := delivered_twice (show ResourceChange.update ≠ .delete by decide)
  have sound : vacant.impaired.store.Sound := sound_vacant
  rcases resource_redelivery_iff sound agrees_vacant.impaired first second with
    ⟨_, agrees⟩ | ⟨id, _, elsewhere, _, healed⟩
  · exact agrees
  obtain ⟨record, stored, active, moduleName, kind⟩ : ∃ record,
      (delivered .update 1).store.stored "north" (.ofBits 1) = some record ∧
        record.isActive = true ∧ record.moduleName = some "mod" ∧ record.kind = some .system := by
    have present : ((delivered .update 1).store.stored "north" (.ofBits 1)).any (fun record =>
        record.isActive && record.moduleName == some "mod" && record.kind == some .system) =
          true := by
      decide +kernel
    simpa [Option.any_eq_true, and_assoc] using present
  have jobless : (delivered .update 1).roster (Uuid.ofBits 1).toText = none := by decide +kernel
  -- The timer is the only one that is out of line.
  obtain rfl : id = .ofBits 1 := by
    by_contra apart
    have inLine := elsewhere (.ofBits 1) (Ne.symm apart)
    rw [show (sampleEvent .update).tenant = "north" from rfl, stored, jobless,
      inLine_active active] at inLine
    obtain ⟨held, impossible, _⟩ := inLine
    simp at impossible
  have drops : Drops (sampleEvent .update) record :=
    ⟨by decide, _, "mod", rfl, by decide +kernel, moduleName, kind⟩
  exact healed.mpr ⟨record, stored, .inl ⟨drops, .inl active⟩⟩

/-- An installation that the engine cut short is not healed by its redelivery: the timer is stored
as it should be, so nothing is asked of the engine, and it never gets its job. -/
theorem install_redelivery_leaves_timer_without_job :
    ¬ ∀ (event : ResourceEvent) (e : SyncError) (n : Nat)
        (world mid after : World MemoryStore RecordingEngine),
      world.store.Sound → Agrees event.tenant world →
      World.Runs Circumstances.unused.Admits world (resource event) (.error e) mid →
        e.isRetryable = true →
      World.Runs Circumstances.unused.Admits mid (resource event) (.ok n) after →
      Agrees event.tenant after := by
  intro heals
  obtain ⟨first, second⟩ := delivered_twice (show ResourceChange.create ≠ .delete by decide)
  have sound : vacant.impaired.store.Sound := sound_vacant
  have agrees := heals _ _ _ _ _ _ sound agrees_vacant.impaired first (by decide) second
  have inLine := agrees.inLine (.ofBits 1)
  obtain ⟨record, stored, active⟩ : ∃ record,
      (delivered .create 2).store.stored "north" (.ofBits 1) = some record ∧
      record.isActive = true := by
    have present :
        ((delivered .create 2).store.stored "north" (.ofBits 1)).any (·.isActive) = true := by
      decide +kernel
    simpa [Option.any_eq_true] using present
  have jobless : (delivered .create 2).roster (Uuid.ofBits 1).toText = none := by decide +kernel
  rw [show (sampleEvent .create).tenant = "north" from rfl, stored, jobless,
    inLine_active active] at inLine
  obtain ⟨held, impossible, _⟩ := inLine
  simp at impossible

end Sync

end Horarium
