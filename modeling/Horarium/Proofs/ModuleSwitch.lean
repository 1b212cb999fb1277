/-
Module: Horarium.Proofs.ModuleSwitch
Purpose: Switching a module on or off. As long as engine and store agree, exactly the system timers
  of the module that do not have the flag are given it, their jobs follow, and switching the module
  once more finds nothing to do.
Trusted boundary: none
Main exports: Switches, History.switchModule_exact
-/
import Horarium.Proofs.JobAgreement
import Horarium.Proofs.RecordValidity

namespace Horarium

/-! ### How many records a tenant has of a kind -/

namespace MemoryStore

variable {store : MemoryStore} {tenant : String} {asked : TimerRecord → Prop}
  {records others : List TimerRecord}

/-- How many of a tenant's records are asked for. -/
def recordCount (store : MemoryStore) (tenant : String) (asked : TimerRecord → Prop)
    [DecidablePred asked] : Nat :=
  ((store.table? tenant).getD []).countP fun row => decide (asked row.record)

/-- Two listings of the same records differ in their order only. -/
theorem Lists.perm (lists : store.Lists tenant asked records)
    (again : store.Lists tenant asked others) :
    records.Perm others := by
  refine (List.perm_ext_iff_of_nodup lists.nodup.of_map again.nodup.of_map).mpr fun record => ?_
  rw [lists.mem_iff, again.mem_iff]

/-- A listing has as many records as there are. -/
theorem Lists.length_eq [DecidablePred asked] (lists : store.Lists tenant asked records)
    (good : store.WellFormed) : records.length = store.recordCount tenant asked := by
  unfold recordCount
  cases held : store.table? tenant with
  | none =>
    have empty : records = [] := by
      refine List.eq_nil_iff_forall_not_mem.mpr fun record member => ?_
      obtain ⟨id, stored, _⟩ := (lists.mem_iff record).mp member
      simp [stored_of_table?_eq_none held] at stored
    rw [empty]
    rfl
  | some table =>
    have selected : store.Lists tenant asked (table.select fun row => decide (asked row.record)) :=
      lists_select good held fun row _ => decide_eq_true_iff
    rw [(lists.perm selected).length_eq, TimerTable.select, List.length_mergeSort, List.length_map,
      Option.getD_some, List.countP_eq_length_filter]

end MemoryStore

instance (moduleName : String) (enable : Bool) :
    DecidablePred (Registry.Mismatched moduleName enable) :=
  fun _ => inferInstanceAs (Decidable (_ ∧ _))

/-! ### States of a history are reached -/

section Reached

variable {ε : Type} [SteadyEngine ε] {world after : World MemoryStore ε}

theorem Reached.of_runs {δ α : Type} {P : World MemoryStore ε → Request → Prop} {p : Procedure δ α}
    {outcome : Except δ α} (reached : Reached world) (served : Served p)
    (runs : World.Runs P world p outcome after) :
    Reached after := by
  have next := reached.serve served
  rwa [runs.run_eq] at next

theorem Call.reached (call : Call world after) (reached : Reached world) : Reached after := by
  cases call with
  | write _ write =>
    cases write with
    | create input runs => exact reached.of_runs (.create _ input) runs
    | update id input runs => exact reached.of_runs (.update _ id input) runs
    | delete id runs => exact reached.of_runs (.delete _ id) runs
    | switchModule moduleName enable runs =>
      exact reached.of_runs (.switchModule _ moduleName enable) runs
  | deleteAll _ runs => exact reached.of_runs (.deleteAll _) runs
  | initTenant _ runs => exact reached.of_runs (.initTenant _) runs
  | resource event runs => exact reached.of_runs (.event (.moduleResource event)) runs
  | entitlement event runs => exact reached.of_runs (.event (.entitlement event)) runs
  | restart runs => exact (reached.disturb SteadyEngine.initial).of_runs .rebuildAll runs

/-- What a service reaches without an outage is among the states that it reaches at all. -/
theorem History.reached {allowed : MemoryStore → Prop} (history : History allowed world) :
    Reached world := by
  induction history with
  | start sources _ => exact .start _ sources
  | call _ call _ ih => exact call.reached ih

end Reached

/-! ### One switch -/

namespace Registry

variable {ctx : Context} {moduleName : String} {enable : Bool}

theorem switchModule_takesNoId (ctx : Context) (moduleName : String) (enable : Bool) :
    (switchModule ctx moduleName enable).Asks Request.TakesNoId := by
  unfold switchModule
  refine (ask_takesNoId _).bind fun found => ?_
  dsimp only
  split
  · exact .done _
  · refine .ask trivial fun now => (ask_takesNoId _).bind fun saved => ?_
    have schedules : (scheduleEach ctx saved).Asks Request.TakesNoId :=
      (scheduleEach_asks saved).mono fun _ => Request.IsEngine.takesNoId
    have drops : (unscheduleEach (found.filter (·.kind == some .system))).Asks Request.TakesNoId :=
      (unscheduleEach_asks _).mono fun _ => Request.IsEngine.takesNoId
    split
    · exact schedules.bind fun _ => .done _
    · exact drops.bind fun _ => .done _

/-- Where all system timers of the module have the flag, the store is asked once and the engine not
at all. -/
theorem switchModule_unasked {ε : Type} [SchedulingEngine ε] {world : World MemoryStore ε}
    (good : world.store.WellFormed) (provisioned : (world.store.table? ctx.tenant).isSome)
    (switched : Switched world.store ctx.tenant moduleName enable) :
    World.Runs (fun _ request => ¬ request.IsEngine) world (switchModule ctx moduleName enable)
      (.ok 0) world := by
  rcases MemoryStore.answer_findByModuleAndEnabled good ctx.tenant moduleName (!enable) with
    ⟨missing, _⟩ | ⟨_, found, answer, lists⟩
  · simp [missing] at provisioned
  have none : found.filter (·.kind == some .system) = [] := by
    refine List.filter_eq_nil_iff.mpr fun record member system => ?_
    obtain ⟨id, held, named, flag⟩ := (lists.mem_iff record).mp member
    rw [switched id record held named (by simpa using system)] at flag
    simp at flag
  unfold switchModule
  refine .of_answer (fun impossible => impossible) answer ?_
  dsimp only
  rw [none]
  exact .done world 0

variable {ε : Type} [JobEngine ε] {world after : World MemoryStore ε}
  {outcome : Except RegistryError Nat}

/-- Without an outage, a switch in a provisioned tenant replaces the mismatched records by flipped
ones, settles their jobs, and answers how many they were. -/
theorem switchModule_succeeds (sound : world.store.Sound)
    (provisioned : (world.store.table? ctx.tenant).isSome)
    (runs : World.Runs Circumstances.steady.Admits world (switchModule ctx moduleName enable)
      outcome after) :
    ∃ records, world.store.Lists ctx.tenant (Mismatched moduleName enable) records ∧
      outcome = .ok records.length ∧
      MemoryStore.Replaces ctx.tenant (flip ctx world.nextInstant enable) records world.store
        after.store ∧
      Switched after.store ctx.tenant moduleName enable ∧ Link .steady ctx world after := by
  rcases switchModule_commits sound.wellFormed runs with
    ⟨missing, _⟩ | ⟨records, lists, ⟨rfl, rfl, rfl⟩ | ⟨_, changed, replaces, following⟩⟩
  · simp [missing] at provisioned
  · have switched : Switched after.store ctx.tenant moduleName enable := by
      intro id record held named kind
      exact (flag_or_mem lists held named kind).resolve_right (by simp)
    exact ⟨[], lists, rfl, ⟨.refl _ _, by simp, fun _ _ => rfl⟩, switched, .of_idle sound rfl rfl⟩
  · have flips := flips_of_replaces sound lists replaces
      (show ({ world.ticked with store := changed } : World MemoryStore ε).store = changed from rfl)
        rfl
    obtain ⟨store, ⟨⟨n, rfl⟩, link⟩ | ⟨_, outage, _⟩⟩ := flips.switch_outcome sound lists following
    · have counted : n = records.length := by
        split at following <;> exact following.eq_of_bind_done
      have changedAfter : after.store = changed := store
      exact ⟨records, lists, congrArg Except.ok counted, changedAfter ▸ replaces,
        store ▸ flips.switched sound lists, link⟩
    · exact outage.elim

end Registry

/-- What switching a module of a tenant on or off does. -/
structure Switches {ε : Type} [JobEngine ε] (ctx : Context) (moduleName : String) (enable : Bool)
    (world after : World MemoryStore ε) : Prop where
  /-- The timers that did not have the flag have it, with who set it and when, and are otherwise as
  they were. -/
  flipped : ∀ id old, world.store.stored ctx.tenant id = some old →
    Registry.Mismatched moduleName enable old →
    ∃ metadata, old.metadata = some metadata ∧ after.store.stored ctx.tenant id = some { old with
      enabled := enable
      metadata :=
        some { metadata with updatedDate := some world.nextInstant, updatedBy := ctx.user } }
  kept : ∀ id, (∀ old, world.store.stored ctx.tenant id = some old →
    ¬ Registry.Mismatched moduleName enable old) →
    after.store.stored ctx.tenant id = world.store.stored ctx.tenant id
  elsewhere : ∀ tenant, tenant ≠ ctx.tenant → after.store.table? tenant = world.store.table? tenant
  /-- Every timer of the tenant, of this module or not, has a job exactly if it is active. -/
  jobs : ∀ id record, after.store.stored ctx.tenant id = some record →
    ((after.roster id.toText).isSome ↔ record.isActive = true)
  otherJobs : ∀ key, (∀ id old, world.store.stored ctx.tenant id = some old →
    Registry.Mismatched moduleName enable old → id.toText ≠ key) →
      after.roster key = world.roster key
  /-- Another switch to the same flag changes nothing, and asks nothing of the engine. -/
  again : ∀ caller : Context, caller.tenant = ctx.tenant →
    World.Runs (fun _ request => ¬ request.IsEngine) after
    (Registry.switchModule caller moduleName enable) (.ok 0) after

variable {ε : Type} [SteadyEngine ε] {world after : World MemoryStore ε} {ctx : Context}

/-- Jobs under keys that are not those of changed timers of the tenant are as they were. -/
theorem Settled.roster_eq (settled : Settled ctx world after) {key : String}
    (kept : ∀ id : Uuid, id.toText = key →
      after.store.stored ctx.tenant id = world.store.stored ctx.tenant id) :
    after.roster key = world.roster key := by
  by_cases spelled : ∃ id : Uuid, id.toText = key
  · obtain ⟨id, rfl⟩ := spelled
    rw [settled.jobs, kept id rfl, settle_of_demand_eq rfl]
  · exact settled.others key fun id same => spelled ⟨id, same⟩

/-- Switching a module is exact: in every state that a service reaches without an outage and without
an id that two tenants share, exactly the system timers of the module that do not have the flag are
given it. -/
theorem History.switchModule_exact (history : History MemoryStore.Unshared world)
    (provisioned : (world.store.table? ctx.tenant).isSome) (moduleName : String) (enable : Bool) :
    ∃ after, world.run (Registry.switchModule ctx moduleName enable) =
        (.ok (world.store.recordCount ctx.tenant (Registry.Mismatched moduleName enable)), after) ∧
      Switches ctx moduleName enable world after := by
  obtain ⟨sound, steady⟩ := history.sound
  obtain ⟨unshared, consistent⟩ := history.consistent
  have orderly := history.reached.orderly
  have asks := Registry.switchModule_takesNoId ctx moduleName enable
  have runs := ((asks.throughout world).runs.steady steady).1
  obtain ⟨records, lists, answered, replaces, switched, link⟩ :=
    Registry.switchModule_succeeds sound provisioned runs
  have counted := lists.length_eq sound.wellFormed
  have unsharedAfter := link.unshared unshared
  have agree := link.toSettled.consistent unshared unsharedAfter consistent
  have kept : ∀ id, (∀ old, world.store.stored ctx.tenant id = some old →
      ¬ Registry.Mismatched moduleName enable old) →
      (world.run (Registry.switchModule ctx moduleName enable)).2.store.stored ctx.tenant id =
        world.store.stored ctx.tenant id := by
    intro id matched
    apply replaces.kept
    intro record member named
    obtain ⟨other, otherNamed, held, mismatched⟩ := lists.stored_of_mem sound.wellFormed member
    obtain rfl := Option.some.inj (named.symm.trans otherNamed)
    exact matched record held mismatched
  refine ⟨_, Prod.ext (answered.trans (congrArg Except.ok counted)) rfl, {
    flipped := ?_
    kept
    elsewhere := replaces.within.elsewhere
    jobs := ?_
    otherJobs := ?_
    again := ?_ }⟩
  · intro id old held mismatched
    have member := (lists.mem_iff old).mpr ⟨id, held, mismatched⟩
    obtain ⟨_, metadata, _, _, given, _⟩ := orderly.records held
    refine ⟨metadata, given, ?_⟩
    rw [replaces.replaced old member id (sound.wellFormed.id_of_stored held), Registry.flip, given,
      Option.getD_some]
  · intro id record held
    refine ⟨fun present => ?_, agree.covered ctx.tenant id record held⟩
    obtain ⟨job, registered⟩ := Option.isSome_iff_exists.mp present
    exact (agree.job_of_stored unsharedAfter held registered).2.2.1
  · intro key apart
    refine link.toSettled.roster_eq fun id same => kept id fun old held mismatched => ?_
    exact apart id old held mismatched same
  · intro caller sameTenant
    have provisionedAfter := replaces.within.provisioned.trans provisioned
    rw [← sameTenant] at switched provisionedAfter
    exact Registry.switchModule_unasked link.sound.wellFormed provisionedAfter switched

/-! ### A module with a paused timer and one that a user made -/

/-- A timer of the module that never fires. -/
def paused : TimerRecord :=
  .ofModule "mod-1.0.0" ⟨["POST"], none, some "/pause", some ⟨"0", .minute⟩, none⟩

/-- A timer of the module that a user made. -/
def userMade : TimerRecord := { TimerRecord.minutely with kind := some .user }

/-- The tenant has got two more timers of its module. -/
def staffed : World MemoryStore LocalEngine :=
  let joined := (employed.run (Registry.create ⟨"north", none, none⟩ paused)).2
  (joined.run (Registry.create ⟨"north", none, none⟩ userMade)).2

theorem history_staffed : History MemoryStore.Unshared staffed := by
  have first :
      World.Throughout FreshIds employed (Registry.create ⟨"north", none, none⟩ paused) := by
    decide +kernel
  have joined :=
    history_employed.call (.write (by decide +kernel) (.create paused first.runs))
    (by decide +kernel)
  have second :
      World.Throughout FreshIds (employed.run (Registry.create ⟨"north", none, none⟩ paused)).2
      (Registry.create ⟨"north", none, none⟩ userMade) := by
    decide +kernel
  exact joined.call (.write (by decide +kernel) (.create userMade second.runs)) (by decide +kernel)

/-- Both timers of the module are switched off, and the user's keeps its job. -/
theorem staffed_switched_off : ∃ after,
    staffed.run (Registry.switchModule ⟨"north", none, none⟩ "mod" false) = (.ok 2, after) ∧
      after.roster (Uuid.ofBits 1).toText = none ∧ (after.roster (Uuid.ofBits 3).toText).isSome ∧
      after.run (Registry.switchModule ⟨"north", none, none⟩ "mod" false) = (.ok 0, after) := by
  have provisioned : (staffed.store.table? (⟨"north", none, none⟩ : Context).tenant).isSome := by
    decide +kernel
  have two : staffed.store.recordCount "north" (Registry.Mismatched "mod" false) = 2 := by
    decide +kernel
  have before : (staffed.roster (Uuid.ofBits 3).toText).isSome := by decide +kernel
  have own : (staffed.store.stored "north" (.ofBits 3)).all (·.kind == some .user) = true := by
    decide +kernel
  obtain ⟨old, held, mismatched⟩ : ∃ old, staffed.store.stored "north" (.ofBits 1) = some old ∧
      Registry.Mismatched "mod" false old := by
    have present : (staffed.store.stored "north" (.ofBits 1)).any
        (fun old => decide (Registry.Mismatched "mod" false old)) = true := by
      decide +kernel
    simpa [Option.any_eq_true] using present
  obtain ⟨after, switched, switches⟩ := history_staffed.switchModule_exact provisioned "mod" false
  refine ⟨after, two ▸ switched, ?_, ?_, (switches.again _ rfl).run_eq⟩
  · obtain ⟨_, _, stored⟩ := switches.flipped (.ofBits 1) old held mismatched
    have jobless := mt (switches.jobs _ _ stored).mp (by simp [TimerRecord.inactive_of_disabled])
    simpa using jobless
  · rw [switches.otherJobs _ ?_]
    · exact before
    · intro id old held mismatched same
      obtain rfl := Uuid.toText_injective same
      have user : old.kind = some .user := by
        have stored : staffed.store.stored "north" (.ofBits 3) = some old := held
        simpa [stored] using own
      simp [mismatched.2] at user

end Horarium
