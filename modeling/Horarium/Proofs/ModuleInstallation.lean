/-
Module: Horarium.Proofs.ModuleInstallation
Purpose: Installing a module again. Each entry of the module goes to the record that has its natural
  key, so that a stored record goes through the versions that the entries declare of it. The second
  time every entry finds its record, no id is generated, and every record and every job ends up
  where it was, but for the date of the last change.
Trusted boundary: none
Main exports: Creates, Sync.resource_creates, Sync.reinstallation_idempotent
-/
import Horarium.Proofs.ModuleUpgrade
import Horarium.Proofs.RecordVersions

namespace Horarium

/-- The tenant has a record with the natural key of the timer that the entry declares. -/
def MemoryStore.Provides (store : MemoryStore) (tenant moduleId : String) (entry : RoutingEntry) :
    Prop :=
  ∃ version id record, (TimerRecord.ofModule moduleId entry).prepare = .ok version ∧
    store.stored tenant id = some record ∧ record.naturalKey = version.naturalKey

/-- What is stored for the tenant stays stored, under its natural key. -/
def MemoryStore.KeepsKeys (tenant : String) (before after : MemoryStore) : Prop :=
  ∀ id old, before.stored tenant id = some old →
    ∃ record, after.stored tenant id = some record ∧ record.naturalKey = old.naturalKey

theorem MemoryStore.KeepsKeys.trans {tenant : String} {store middle after : MemoryStore}
    (first : KeepsKeys tenant store middle) (second : KeepsKeys tenant middle after) :
    KeepsKeys tenant store after := by
  intro id old held
  obtain ⟨record, stored, key⟩ := first id old held
  obtain ⟨version, kept, same⟩ := second id record stored
  exact ⟨version, kept, same.trans key⟩

theorem MemoryStore.Provides.mono {tenant moduleId : String} {entry : RoutingEntry}
    {store after : MemoryStore} (provides : store.Provides tenant moduleId entry)
    (keeps : KeepsKeys tenant store after) :
    after.Provides tenant moduleId entry := by
  obtain ⟨version, id, record, prepared, held, key⟩ := provides
  obtain ⟨kept, stored, same⟩ := keeps id record held
  exact ⟨version, id, kept, prepared, stored, same.trans key⟩

/-- A tenant with a record has a table. -/
theorem MemoryStore.Provides.provisioned {tenant moduleId : String} {entry : RoutingEntry}
    {store : MemoryStore} (provides : store.Provides tenant moduleId entry) :
    (store.table? tenant).isSome := by
  obtain ⟨_, _, _, _, held, _⟩ := provides
  exact store.isSome_table?_of_stored held

theorem MemoryStore.Provides.accepted {tenant moduleId : String} {entry : RoutingEntry}
    {store : MemoryStore} (provides : store.Provides tenant moduleId entry) :
    ∃ version, (TimerRecord.ofModule moduleId entry).prepare = .ok version := by
  obtain ⟨version, _, _, prepared, _⟩ := provides
  exact ⟨version, prepared⟩

section Creates

variable {ε : Type} [JobEngine ε] {c : Circumstances}
  {world middle after again : World MemoryStore ε}
  {ctx : Context} {moduleId : String} {entry : RoutingEntry} {entries : List RoutingEntry}
  {version : TimerRecord} {place id : Uuid} {now : Instant}

/-- What there is under an id of the tenant. -/
def World.slot (world : World MemoryStore ε) (tenant : String) (id : Uuid) : Slot :=
  ⟨world.store.stored tenant id, world.roster id.toText⟩

/-- A version of a timer has been stored in the place of the timer, and nothing else has changed for
the tenant. -/
structure Moves (ctx : Context) (version : TimerRecord) (place : Uuid) (now : Instant)
    (world after : World MemoryStore ε) : Prop where
  namesake : ∀ old, world.store.stored ctx.tenant place = some old →
    old.naturalKey = version.naturalKey
  moved : after.slot ctx.tenant place = (world.slot ctx.tenant place).next ctx now place version
  others : ∀ id, id ≠ place → after.slot ctx.tenant id = world.slot ctx.tenant id

namespace Moves

variable (moves : Moves ctx version place now world after)
include moves

theorem stored : after.store.stored ctx.tenant place =
    some (version.version ctx now place (world.store.stored ctx.tenant place)) :=
  congrArg Slot.record moves.moved

theorem keeps : MemoryStore.KeepsKeys ctx.tenant world.store after.store := by
  intro id old held
  by_cases here : id = place
  · subst here
    exact ⟨_, moves.stored, (moves.namesake old held).symm⟩
  · have same : after.store.stored ctx.tenant id = world.store.stored ctx.tenant id :=
      congrArg Slot.record (moves.others id here)
    exact ⟨old, same.trans held, rfl⟩

end Moves

/-- The timers of the entries have been created: each record of the tenant has gone through the
versions that the entries declare of it. -/
structure Creates (ctx : Context) (moduleId : String) (entries : List RoutingEntry)
    (world after : World MemoryStore ε) : Prop where
  keeps : MemoryStore.KeepsKeys ctx.tenant world.store after.store
  provides : ∀ entry ∈ entries, after.store.Provides ctx.tenant moduleId entry
  unstored : ∀ {id}, after.store.stored ctx.tenant id = none →
    after.slot ctx.tenant id = world.slot ctx.tenant id
  evolves : ∀ {id record}, after.store.stored ctx.tenant id = some record →
    Slot.Evolves ctx id (declaredVersions moduleId entries record) (world.slot ctx.tenant id)
      (after.slot ctx.tenant id)

namespace Creates

theorem nil (ctx : Context) (moduleId : String) (world : World MemoryStore ε) :
    Creates ctx moduleId [] world world where
  keeps _ old held := ⟨old, held, rfl⟩
  provides := by simp
  unstored _ := rfl
  evolves _ := .nil _

/-- Where the timer of an entry has been created, those of the other entries follow. -/
theorem cons (wellFormed : after.store.WellFormed)
    (prepared : (TimerRecord.ofModule moduleId entry).prepare = .ok version)
    (moves : Moves ctx version place now world middle)
    (rest : Creates ctx moduleId entries middle after) :
    Creates ctx moduleId (entry :: entries) world after := by
  obtain ⟨final, kept, same⟩ := rest.keeps place _ moves.stored
  have key : final.naturalKey = version.naturalKey := same
  constructor
  case keeps => exact moves.keeps.trans rest.keeps
  case provides =>
    intro declaring member
    rcases List.mem_cons.mp member with rfl | later
    · exact ⟨version, place, final, prepared, kept, key⟩
    · exact rest.provides declaring later
  case unstored =>
    intro id absent
    have apart : id ≠ place := by
      rintro rfl
      simp [kept] at absent
    rw [rest.unstored absent, moves.others id apart]
  case evolves =>
    intro id record held
    rw [declaredVersions_cons prepared]
    by_cases here : id = place
    · -- The new version goes in front of those that the rest of the entries declare.
      subst here
      obtain rfl := Option.some.inj (held.symm.trans kept)
      rw [if_pos key.symm]
      apply Slot.Evolves.cons now (TimerRecord.schedulable_of_prepare prepared)
      rw [← moves.moved]
      exact rest.evolves held
    · have differs : version.naturalKey ≠ record.naturalKey := by
        intro same
        exact here (wellFormed.id_unique held kept (same.symm.trans key.symm))
      rw [if_neg differs, ← moves.others id here]
      exact rest.evolves held

/-- Where the entries have their records already, nothing new is stored. -/
theorem unstored_of_provides (wellFormed : after.store.WellFormed)
    (creates : Creates ctx moduleId entries world after)
    (provides : ∀ entry ∈ entries, world.store.Provides ctx.tenant moduleId entry)
    (absent : world.store.stored ctx.tenant id = none) :
    after.store.stored ctx.tenant id = none := by
  by_contra present
  obtain ⟨record, held⟩ := Option.ne_none_iff_exists'.mp present
  have evolves := creates.evolves held
  cases declared : declaredVersions moduleId entries record with
  | nil =>
    rw [declared] at evolves
    have same : after.store.stored ctx.tenant id = world.store.stored ctx.tenant id :=
      congrArg Slot.record evolves.eq_of_nil
    exact present (same.trans absent)
  | cons version versions =>
    -- The natural key of a declared version has been taken by another record from the start.
    have member : version ∈ declaredVersions moduleId entries record := by simp [declared]
    obtain ⟨declaring, coming, prepared, key⟩ := mem_declaredVersions.mp member
    obtain ⟨other, place, old, preparedToo, stored, namesake⟩ := provides declaring coming
    obtain rfl := Except.ok.inj (prepared.symm.trans preparedToo)
    obtain ⟨kept, keptHeld, same⟩ := creates.keeps place old stored
    obtain rfl := wellFormed.id_unique held keptHeld (key.symm.trans (same.trans namesake).symm)
    simp [absent] at stored

/-- Creating the timers of entries again takes every id through the same versions. -/
theorem evolves_again (wellFormed : again.store.WellFormed)
    (first : Creates ctx moduleId entries world after)
    (second : Creates ctx moduleId entries after again) (id : Uuid) : ∃ versions,
      Slot.Evolves ctx id versions (world.slot ctx.tenant id) (after.slot ctx.tenant id) ∧
      Slot.Evolves ctx id versions (after.slot ctx.tenant id) (again.slot ctx.tenant id) := by
  cases here : after.store.stored ctx.tenant id with
  | some record =>
    obtain ⟨later, held, key⟩ := second.keeps id record here
    refine ⟨_, first.evolves here, ?_⟩
    rw [← declaredVersions_congr key]
    exact second.evolves held
  | none =>
    have absent := second.unstored_of_provides wellFormed first.provides here
    refine ⟨[], ?_, ?_⟩
    · rw [first.unstored here]
      exact .nil _
    · rw [second.unstored absent]
      exact .nil _

/-- A record that no entry declares is left alone. -/
theorem slot_of_undeclared {record : TimerRecord}
    (creates : Creates ctx moduleId entries world after)
    (held : world.store.stored ctx.tenant id = some record)
    (undeclared : declaredVersions moduleId entries record = []) :
    after.slot ctx.tenant id = world.slot ctx.tenant id := by
  obtain ⟨kept, stored, key⟩ := creates.keeps id record held
  have evolves := creates.evolves stored
  rw [declaredVersions_congr key, undeclared] at evolves
  exact evolves.eq_of_nil

end Creates

/-- A creation that succeeds stores the next version of the record with the natural key, or a first
one under an id that is free. -/
theorem Registry.create_moves {input answered : TimerRecord} (sound : world.store.Sound)
    (runs : World.Runs c.Admits world (create ctx input) (.ok answered) after) : after.store.Sound ∧
      ∃ version place now, input.prepare = .ok version ∧
        Moves ctx version place now world after := by
  rcases create_commits sound.wellFormed runs with
    ⟨declined, _⟩ | ⟨version, place, before, saved, committed, prepared, chosen, commits, following⟩
  · obtain ⟨e, failed, _⟩ := declined.failed
    simp at failed
  have stored : world.store.stored ctx.tenant place = before := chosen.stored
  have written := (stores_of_commits sound prepared stored commits following).written
  refine ⟨written.sound, version, place, world.nextInstant, prepared, ?_, ?_, ?_⟩
  · intro old held
    cases chosen with
    | known known _ namesake =>
      obtain rfl := Option.some.inj (held.symm.trans stored)
      exact namesake.trans commits.redeclares.naturalKey
    | given | generated => simp [stored] at held
  · obtain ⟨here, settled⟩ := written.slot place
    rw [if_pos rfl, commits.version, ← stored] at here settled
    exact Slot.ext here settled
  · intro id apart
    obtain ⟨same, untouched⟩ := written.slot id
    rw [if_neg apart] at same untouched
    exact Slot.ext same untouched

namespace Sync

/-- Creations that succeed one after the other, by induction on the entries. -/
theorem createEach_creates {u : PUnit} (sound : world.store.Sound)
    (runs : World.Runs c.Admits world (createEach ctx moduleId entries) (.ok u) after) :
    after.store.Sound ∧ Creates ctx moduleId entries world after := by
  induction entries generalizing world with
  | nil =>
    obtain ⟨_, rfl⟩ := runs.done_inv
    exact ⟨sound, .nil ctx moduleId _⟩
  | cons entry entries ih =>
    unfold createEach at runs
    rcases runs.mapError_bind_inv with ⟨_, middle, first, rest⟩ | ⟨e, _, failed⟩
    · obtain ⟨soundMiddle, version, place, now, prepared, moves⟩ :=
        Registry.create_moves sound first
      obtain ⟨soundAfter, creates⟩ := ih soundMiddle rest
      exact ⟨soundAfter, creates.cons soundAfter.wellFormed prepared moves⟩
    · simp at failed

/-- Creations of entries that have their records succeed while the engine is available, by induction
on the entries. -/
theorem createEach_succeeds {outcome : Except SyncError PUnit} (steady : ¬ c.outage)
    (sound : world.store.Sound)
    (provides : ∀ entry ∈ entries, world.store.Provides ctx.tenant moduleId entry)
    (runs : World.Runs c.Admits world (createEach ctx moduleId entries) outcome after) :
    ∃ u, outcome = .ok u := by
  induction entries generalizing world with
  | nil => exact ⟨_, runs.done_inv.1⟩
  | cons entry entries ih =>
    unfold createEach at runs
    have here := provides entry List.mem_cons_self
    rcases runs.mapError_bind_inv with ⟨_, middle, first, rest⟩ | ⟨e, first, _⟩
    · obtain ⟨soundMiddle, _, _, _, _, moves⟩ := Registry.create_moves sound first
      apply ih soundMiddle _ rest
      intro other member
      exact (provides other (List.mem_cons_of_mem _ member)).mono moves.keeps
    · obtain ⟨_, succeeded⟩ :=
        Registry.create_succeeds steady sound here.provisioned here.accepted first
      simp at succeeded

end Sync

end Creates

section Again

variable {ε : Type} [SteadyEngine ε] {world : World MemoryStore ε} {ctx : Context}
  {moduleId : String} {entry : RoutingEntry} {entries : List RoutingEntry}

/-- The creation of a timer that is there takes no new id. -/
theorem Registry.create_throughout (wellFormed : world.store.WellFormed)
    (provides : world.store.Provides ctx.tenant moduleId entry) :
    World.Throughout FreshIds world (create ctx (.ofModule moduleId entry)) := by
  obtain ⟨version, id, record, prepared, held, namesake⟩ := provides
  obtain ⟨key, keyed⟩ := TimerRecord.exists_naturalKey_of_prepare prepared
  unfold create
  rw [prepared]
  change World.Throughout FreshIds world
    (Procedure.ofExcept RegistryError.ofInput version.naturalKey >>= _)
  rw [keyed]
  rcases MemoryStore.answer_findByNaturalKey wellFormed ctx.tenant key with
    ⟨missing, _⟩ | ⟨_, found, answer, present, absent⟩
  · simp [MemoryStore.stored, missing] at held
  refine ⟨trivial, ?_⟩
  have answered : (world.answer (.store (.findByNaturalKey ctx.tenant key))).1 = .ok found :=
    congrArg Prod.fst answer
  rw [answered]
  cases found with
  | none => exact absurd (namesake.trans keyed) (absent rfl id record held)
  | some existing =>
    obtain ⟨other, stored, _⟩ := present existing rfl
    have named := wellFormed.id_of_stored stored
    dsimp only [Bind.bind, Procedure.ofExcept, Procedure.bind]
    rw [named]
    exact (applyUpdate_takesNoId existing _).throughout _

namespace Sync

/-- Creating the timers of entries that have their records takes no new id, by induction on the
entries. -/
theorem createEach_throughout (sound : world.store.Sound)
    (steady : SteadyEngine.Steady world.engine)
    (provides : ∀ entry ∈ entries, world.store.Provides ctx.tenant moduleId entry) :
    World.Throughout FreshIds world (createEach ctx moduleId entries) := by
  induction entries generalizing world with
  | nil => trivial
  | cons entry entries ih =>
    unfold createEach
    apply World.Throughout.mapError_bind_of_runs
    · exact Registry.create_throughout sound.wellFormed (provides entry List.mem_cons_self)
    · intro answered middle runs
      obtain ⟨admitted, steadyMiddle⟩ := runs.steady steady
      obtain ⟨soundMiddle, _, _, _, _, moves⟩ := Registry.create_moves sound admitted
      apply ih soundMiddle steadyMiddle
      intro other member
      exact (provides other (List.mem_cons_of_mem _ member)).mono moves.keeps

end Sync

end Again

section Agreement

variable {ε : Type} [JobEngine ε] {world here there : World MemoryStore ε} {tenant : String}
  {id : Uuid}
  {record other : TimerRecord}

theorem TimerRecord.demand_of_undated (same : record.undated = other.undated) :
    record.demand = other.demand := by
  have enabled : record.undated.enabled = other.undated.enabled := by rw [same]
  have entry : record.undated.routingEntry = other.undated.routingEntry := by rw [same]
  exact demand_congr enabled entry

/-- Under an id that is free now and of a record of the tenant in another state there is no job. -/
theorem Consistent.jobless_of_free (consistent : Consistent world)
    (elsewhere : ∀ other, other ≠ tenant →
      there.store.stored other id = world.store.stored other id)
    (unsharedThere : there.store.Unshared) (absent : world.store.stored tenant id = none)
    (held : there.store.stored tenant id = some record) : world.roster id.toText = none := by
  by_contra present
  obtain ⟨job, registered⟩ := Option.ne_none_iff_exists'.mp present
  have unstored := consistent.unstored_of_job registered absent elsewhere unsharedThere
  simp [held] at unstored

/-- Under an id of a record of the tenant, stored now or in another state, there is a job only if
one is asked for. -/
theorem Consistent.idle (consistent : Consistent world) (unshared : world.store.Unshared)
    (elsewhere : ∀ other, other ≠ tenant →
      there.store.stored other id = world.store.stored other id)
    (unsharedThere : there.store.Unshared) (held : there.store.stored tenant id = some record) :
    (world.slot tenant id).Idle := by
  intro unasked
  cases stored : world.store.stored tenant id with
  | none => exact consistent.jobless_of_free elsewhere unsharedThere stored held
  | some old =>
    have unaskedOld : demandOf (some old) = none := stored ▸ unasked
    exact consistent.jobless unshared stored (TimerRecord.demand_eq_none_iff.mp unaskedOld)

/-- Versions of a record that differ in dates have the same job, if it fires for the same user. -/
theorem Consistent.job_eq_of_undated (consistent : Consistent here) (unshared : here.store.Unshared)
    (consistentThere : Consistent there) (unsharedThere : there.store.Unshared)
    (held : here.store.stored tenant id = some record)
    (stored : there.store.stored tenant id = some other) (same : record.undated = other.undated)
    (user : ∀ job, (here.slot tenant id).job = some job →
      (there.slot tenant id).FiresFor job.data.user) :
    there.roster id.toText = here.roster id.toText := by
  have demands := TimerRecord.demand_of_undated same
  cases active : record.isActive with
  | false =>
    have otherInactive : other.isActive = false :=
      TimerRecord.isActive_eq_of_demand demands ▸ active
    rw [consistent.jobless unshared held active,
      consistentThere.jobless unsharedThere stored otherInactive]
  | true =>
    have otherActive : other.isActive = true := TimerRecord.isActive_eq_of_demand demands ▸ active
    obtain ⟨job, registered⟩ :=
      Option.isSome_iff_exists.mp (consistent.covered tenant id record held active)
    obtain ⟨left, kept⟩ :=
      Option.isSome_iff_exists.mp (consistentThere.covered tenant id other stored otherActive)
    obtain ⟨own, timer, _, computed⟩ := consistent.job_of_stored unshared held registered
    obtain ⟨leftOwn, leftTimer, _, leftComputed⟩ :=
      consistentThere.job_of_stored unsharedThere stored kept
    have triggers : left.trigger = job.trigger :=
      Except.ok.inj
        (leftComputed.symm.trans (TimerRecord.trigger_eq_of_demand demands active computed))
    have users : left.data.user = job.data.user := user job registered left kept
    obtain ⟨trigger, ⟨_, _, _⟩⟩ := job
    obtain ⟨leftTrigger, ⟨_, _, _⟩⟩ := left
    simp only at own timer leftOwn leftTimer triggers users
    rw [registered, kept, own, timer, leftOwn, leftTimer, triggers, users]

end Agreement

/-- A module has been installed again. The records are as they were but for the date of their last
change, those that it does not declare altogether, and the jobs are the same. -/
structure Reinstalled {ε : Type} [JobEngine ε] (tenant : String) (declared : ModuleTimers)
    (world after : World MemoryStore ε) : Prop where
  records : ∀ id, (after.store.stored tenant id).map TimerRecord.undated =
    (world.store.stored tenant id).map TimerRecord.undated
  undeclared : ∀ id record, world.store.stored tenant id = some record →
    declaredVersions declared.moduleId declared.timers record = [] →
    after.store.stored tenant id = some record
  otherTenants : ∀ other, other ≠ tenant → after.store.table? other = world.store.table? other
  jobs : after.roster = world.roster

namespace Sync

section Creation

variable {ε : Type} [JobEngine ε] {c : Circumstances} {world after : World MemoryStore ε}
  {event : ResourceEvent} {value : ModuleTimers} {n : Nat}

/-- An event that installs a module for a tenant does nothing else. -/
theorem resource_eq_create (valid : Context.isTenantName event.tenant = true)
    (change : event.change = .create) (given : event.newValue = some value) :
    resource event = createTimers (contextOf event.tenant) value := by
  unfold resource
  rw [Context.ofTenant, if_pos valid, change, given]
  rfl

/-- An installation that is carried out creates the timers of the entries and answers how many there
are. -/
theorem resource_creates (sound : world.store.Sound) (change : event.change = .create)
    (runs : World.Runs c.Admits world (resource event) (.ok n) after) :
    ∃ value, event.newValue = some value ∧ n = value.timers.length ∧
      Creates (contextOf event.tenant) value.moduleId value.timers world after := by
  rcases resource_inv runs with ⟨e, failed, _⟩ | carried
  · simp at failed
  simp only [change] at carried
  obtain ⟨value, given, creating⟩ := carried
  obtain ⟨inner, creations, answered⟩ := createTimers_inv creating
  cases inner with
  | error e => simp [Except.map] at answered
  | ok u => exact ⟨value, given, Except.ok.inj answered, (createEach_creates sound creations).2⟩

end Creation

variable {ε : Type} [SteadyEngine ε] {world after : World MemoryStore ε} {event : ResourceEvent}
  {value : ModuleTimers} {n : Nat}

/-- Where the timers of a module have been created, the next installation is carried out without new
ids. -/
theorem resource_repeats (history : History MemoryStore.Unshared after)
    (provisioned : (after.store.table? event.tenant).isSome) (change : event.change = .create)
    (given : event.newValue = some value)
    (provides : ∀ entry ∈ value.timers, after.store.Provides event.tenant value.moduleId entry) :
    World.Throughout FreshIds after (resource event) ∧
      (after.run (resource event)).1 = .ok value.timers.length := by
  obtain ⟨sound, steady⟩ := history.sound
  have valid := history.consistent.2.named event.tenant provisioned
  rw [resource_eq_create valid change given]
  have fresh : World.Throughout FreshIds after (createTimers (contextOf event.tenant) value) :=
    (createEach_throughout sound steady provides).bind fun _ _ => trivial
  obtain ⟨inner, creations, answered⟩ := createTimers_inv (fresh.runs.steady steady).1
  obtain ⟨u, rfl⟩ := createEach_succeeds not_false sound provides creations
  exact ⟨fresh, answered⟩

end Sync

/-- Creating the timers of a module twice installs the module again. -/
theorem Creates.reinstalled {ε : Type} [SteadyEngine ε] {world after again : World MemoryStore ε}
    {ctx : Context} {value : ModuleTimers} (history : History MemoryStore.Unshared world)
    (historyAfter : History MemoryStore.Unshared after)
    (historyAgain : History MemoryStore.Unshared again)
    (within : MemoryStore.Within ctx.tenant world.store after.store)
    (chain : Chain .steady ctx after again)
    (first : Creates ctx value.moduleId value.timers world after)
    (second : Creates ctx value.moduleId value.timers after again) :
    Reinstalled ctx.tenant value after again := by
  obtain ⟨unshared, consistent⟩ := history.consistent
  obtain ⟨unsharedAfter, consistentAfter⟩ := historyAfter.consistent
  obtain ⟨unsharedAgain, consistentAgain⟩ := historyAgain.consistent
  have records : ∀ id, (again.store.stored ctx.tenant id).map TimerRecord.undated =
      (after.store.stored ctx.tenant id).map TimerRecord.undated := by
    intro id
    obtain ⟨versions, earlier, later⟩ :=
      first.evolves_again historyAgain.sound.1.wellFormed second id
    exact earlier.record_again later
  refine ⟨records, ?_, chain.within.elsewhere, funext fun key => ?_⟩
  · intro id record held undeclared
    have same : again.store.stored ctx.tenant id = after.store.stored ctx.tenant id :=
      congrArg Slot.record (second.slot_of_undeclared held undeclared)
    exact same.trans held
  by_cases spelled : ∃ id : Uuid, id.toText = key
  · obtain ⟨id, rfl⟩ := spelled
    have dated := records id
    cases held : after.store.stored ctx.tenant id with
    | none =>
      rw [held, Option.map_none, Option.map_eq_none_iff] at dated
      exact congrArg Slot.job (second.unstored dated)
    | some record =>
      rw [held, Option.map_some, Option.map_eq_some_iff] at dated
      obtain ⟨other, stored, same⟩ := dated
      obtain ⟨versions, earlier, later⟩ :=
        first.evolves_again historyAgain.sound.1.wellFormed second id
      have idle : (world.slot ctx.tenant id).Idle := consistent.idle unshared
        (fun other apart => within.stored_elsewhere apart id) unsharedAfter held
      apply consistentAfter.job_eq_of_undated unsharedAfter consistentAgain
        unsharedAgain held stored same.symm
      intro job registered
      exact earlier.firesFor_again later idle registered
  · exact chain.others fun id same => spelled ⟨id, same⟩

namespace Sync

variable {ε : Type} [SteadyEngine ε] {world after : World MemoryStore ε} {event : ResourceEvent}
  {n : Nat}

/-- An installation that has been carried out is carried out again with the same answer, and all
that it changes are dates of records that the module declares. -/
theorem reinstallation_idempotent (history : History MemoryStore.Unshared world)
    (provisioned : (world.store.table? event.tenant).isSome) (change : event.change = .create)
    (fresh : World.Throughout FreshIds world (resource event))
    (carriedOut : world.run (resource event) = (.ok n, after)) :
    ∃ value again, event.newValue = some value ∧ after.run (resource event) = (.ok n, again) ∧
      Reinstalled event.tenant value after again := by
  have runs := fresh.runs
  rw [carriedOut] at runs
  obtain ⟨sound, steady⟩ := history.sound
  obtain ⟨chain, historyAfter⟩ := resource_continues history runs
  obtain ⟨value, given, rfl, first⟩ := resource_creates sound change (runs.steady steady).1
  have provisionedAfter : (after.store.table? event.tenant).isSome :=
    chain.within.provisioned ▸ provisioned
  obtain ⟨freshAgain, succeeded⟩ :=
    resource_repeats historyAfter provisionedAfter change given first.provides
  have runsAgain := freshAgain.runs
  rw [succeeded] at runsAgain
  obtain ⟨soundAfter, steadyAfter⟩ := historyAfter.sound
  obtain ⟨chainAgain, historyAgain⟩ := resource_continues historyAfter runsAgain
  obtain ⟨valueAgain, givenAgain, _, second⟩ :=
    resource_creates soundAfter change (runsAgain.steady steadyAfter).1
  obtain rfl := Option.some.inj (given.symm.trans givenAgain)
  exact ⟨value, _, given, Prod.ext succeeded rfl,
    first.reinstalled history historyAfter historyAgain chain.within chainAgain second⟩

/-! ### A timer that is stopped and started again on the way -/

/-- The module declares one timer three times, the second time with an interval of zero. -/
def interrupted : ModuleTimers :=
  ⟨"mod-1.1.0", [everyMinutes "2", everyMinutes "0", everyMinutes "3"]⟩

/-- A tenant is told of it as if it were new. -/
def notice : ResourceEvent := ⟨.create, "north", some interrupted, none⟩

theorem interrupted_reinstalled : ∃ after again, employed.run (resource notice) = (.ok 3, after) ∧
    after.run (resource notice) = (.ok 3, again) ∧ Reinstalled "north" interrupted after again := by
  have fresh : World.Throughout FreshIds employed (resource notice) := by decide +kernel
  have provisioned : (employed.store.table? "north").isSome := by decide +kernel
  have succeeded : (employed.run (resource notice)).1 = .ok 3 := by decide +kernel
  obtain ⟨_, again, ⟨⟩, carriedOut, reinstalled⟩ :=
    reinstallation_idempotent history_employed provisioned rfl fresh (Prod.ext succeeded rfl)
  exact ⟨_, again, Prod.ext succeeded rfl, carriedOut, reinstalled⟩

end Sync

end Horarium
