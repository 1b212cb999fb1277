/-
Module: Horarium.Proofs.RegistryBatches
Purpose: What the operations of the registry do that concern many timers at once: deleting all of
  them, switching those of a module, and registering the jobs of a tenant.
Trusted boundary: none
Main exports: Pass, Registry.inTurn, Registry.Flips, Registry.Switched, Registry.LeftBehind,
  Registry.switchModule_outcome, Registry.deleteAll_progress
-/
import Horarium.Proofs.RegistrySteps

namespace Horarium

variable {ε : Type} [JobEngine ε] {c : Circumstances} {world middle after : World MemoryStore ε}
  {ctx : Context} {id : Uuid} {record : TimerRecord} {records : List TimerRecord}

/-- The jobs of several records have been settled, each from one version to the next, and no others
have changed. -/
structure Pass (ctx : Context) (before next : TimerRecord → Option TimerRecord)
    (records : List TimerRecord) (roster settled : Roster) : Prop where
  jobs : ∀ record ∈ records, ∀ id, record.id = some id →
    settled id.toText = settle ctx id (before record) (next record) (roster id.toText)
  others : ∀ key, (∀ record ∈ records, record.jobKey? ≠ some key) → settled key = roster key

namespace Pass

variable {before next : TimerRecord → Option TimerRecord} {roster passed settled : Roster}

theorem nil : Pass ctx before next [] roster roster := ⟨by simp, fun _ _ => rfl⟩

/-- The job under an id that none of the records has is as it was. -/
theorem untouched (pass : Pass ctx before next records roster settled)
    (apart : ∀ record ∈ records, record.id ≠ some id) : settled id.toText = roster id.toText := by
  apply pass.others
  intro record member key
  obtain ⟨other, named, texts⟩ := Option.map_eq_some_iff.mp key
  exact apart record member (Uuid.toText_injective texts ▸ named)

/-- So is a job under a key that no id spells. -/
theorem unspelled {key : String} (pass : Pass ctx before next records roster settled)
    (free : ∀ id : Uuid, id.toText ≠ key) : settled key = roster key := by
  apply pass.others
  intro record _ same
  obtain ⟨id, _, texts⟩ := Option.map_eq_some_iff.mp same
  exact free id texts

/-- One job after another, for records of different ids. -/
theorem cons (named : record.id = some id) (apart : record.id ∉ records.map (·.id))
    (first : passed = Function.update roster id.toText
      (settle ctx id (before record) (next record) (roster id.toText)))
    (rest : Pass ctx before next records passed settled) :
    Pass ctx before next (record :: records) roster settled := by
  have different : ∀ other ∈ records, ∀ otherId, other.id = some otherId →
      otherId.toText ≠ id.toText := by
    intro other member otherId otherNamed texts
    apply apart
    rw [named, ← Uuid.toText_injective texts, ← otherNamed]
    exact List.mem_map_of_mem member
  constructor
  · intro other member otherId otherNamed
    rcases List.mem_cons.mp member with rfl | later
    · obtain rfl := Option.some.inj (named.symm.trans otherNamed)
      have untouched : settled id.toText = passed id.toText :=
        rest.untouched fun other later otherNamed => different other later id otherNamed rfl
      rw [untouched, first, Function.update_self]
    · rw [rest.jobs other later otherId otherNamed, first,
        Function.update_of_ne (different other later otherId otherNamed)]
  · intro key free
    have unequal : key ≠ id.toText := by
      rintro rfl
      exact free record (by simp) (by simp [TimerRecord.jobKey?, named])
    rw [rest.others key fun other later => free other (List.mem_cons_of_mem _ later), first,
      Function.update_of_ne unequal]

end Pass

namespace Registry

/-- Brings the engine in line with records one after the other. -/
def inTurn {α : Type} (step : TimerRecord → Procedure TriggerError α) :
    List TimerRecord → Operation PUnit
  | [] => .done ⟨⟩
  | record :: rest => reconcile (step record) >>= fun _ => inTurn step rest

theorem scheduleEach_map (ctx : Context) (version : TimerRecord → TimerRecord)
    (records : List TimerRecord) :
    scheduleEach ctx (records.map version) =
      inTurn (fun record => Reconcile.schedule ctx (version record)) records := by
  induction records with
  | nil => rfl
  | cons record records ih =>
    rw [List.map_cons, scheduleEach, ih]
    rfl

theorem unscheduleEach_eq (records : List TimerRecord) :
    unscheduleEach records = inTurn Reconcile.unschedule records := by
  induction records with
  | nil => rfl
  | cons record records ih =>
    rw [unscheduleEach, ih]
    rfl

/-- Bringing the engine in line goes as far as the engine is available: up to a record whose job it
is asked about in vain, by induction on the records. -/
theorem inTurn_pass {α : Type} {step : TimerRecord → Procedure TriggerError α}
    {before next : TimerRecord → Option TimerRecord} {outcome : Except RegistryError PUnit}
    (named : ∀ record ∈ records, ∃ id, record.id = some id) (nodup : (records.map (·.id)).Nodup)
    (each : ∀ record ∈ records, ∀ id, record.id = some id →
      ∀ {world after : World MemoryStore ε} {outcome}, World.Runs c.Admits world (step record)
      outcome after → Reconciled c ctx id (before record) (next record) world outcome after)
    (runs : World.Runs c.Admits world (inTurn step records) outcome after) :
    after.store = world.store ∧ ∃ done rest, records = done ++ rest ∧
      Pass ctx before next done world.roster after.roster ∧
      ((∃ u, outcome = .ok u) ∧ rest = [] ∨ (∃ e, outcome = .error e ∧ e.IsScheduling) ∧ c.outage ∧
        ∃ record others, rest = record :: others ∧
          demandOf (before record) ≠ demandOf (next record)) := by
  induction records generalizing world with
  | nil =>
    obtain ⟨rfl, rfl⟩ := runs.done_inv
    exact ⟨rfl, [], [], rfl, .nil, .inl ⟨⟨_, rfl⟩, rfl⟩⟩
  | cons record records ih =>
    obtain ⟨id, recordNamed⟩ := named record (by simp)
    rw [List.map_cons, List.nodup_cons] at nodup
    rcases runs.mapError_bind_inv with ⟨a, middle, first, others⟩ | ⟨e, first, rfl⟩
    · rcases each record (by simp) id recordNamed first with ⟨_, settles⟩ | ⟨⟨detail, failed⟩, _⟩
      · obtain ⟨store, done, rest, rfl, pass, ended⟩ :=
          ih (fun other later => named other (by simp [later])) nodup.2
            (fun other later => each other (by simp [later])) others
        have apart : record.id ∉ done.map (·.id) := by
          intro member
          apply nodup.1
          rw [List.map_append]
          exact List.mem_append_left _ member
        exact ⟨store.trans settles.store, record :: done, rest, rfl,
          pass.cons recordNamed apart settles.roster, ended⟩
      · simp at failed
    · rcases each record (by simp) id recordNamed first with
        ⟨⟨a, succeeded⟩, _⟩ | ⟨⟨detail, failed⟩, outage, stalls⟩
      · simp at succeeded
      · have stopped : (RegistryError.ofTrigger e).IsScheduling := by
          rw [Except.error.inj failed]
          exact ⟨_, rfl⟩
        refine ⟨stalls.store, [], record :: records, rfl, ?_,
          .inr ⟨⟨_, rfl, stopped⟩, outage, record, records, rfl, stalls.differs⟩⟩
        rw [stalls.roster]
        exact .nil

/-- The records have been flipped together in the store, and nothing else has changed. -/
structure Flips (ctx : Context) (now : Instant) (enable : Bool) (records : List TimerRecord)
    (world after : World MemoryStore ε) : Prop where
  within : MemoryStore.Within ctx.tenant world.store after.store
  sound : after.store.Sound
  roster : after.roster = world.roster
  flipped : ∀ record ∈ records, ∀ id, record.id = some id →
    after.store.stored ctx.tenant id = some (flip ctx now enable record)
  unflipped : ∀ id, (∀ record ∈ records, record.id ≠ some id) →
    after.store.stored ctx.tenant id = world.store.stored ctx.tenant id

theorem flip_schedulable {now : Instant} {enable : Bool} (schedulable : record.Schedulable) :
    (flip ctx now enable record).Schedulable :=
  schedulable.of_routingEntry rfl

/-- Flipping stored records leaves the records sound. -/
theorem flips_of_replaces {now : Instant} {enable : Bool} {asked : TimerRecord → Prop}
    {changed : MemoryStore} {flipped : World MemoryStore ε} (sound : world.store.Sound)
    (lists : world.store.Lists ctx.tenant asked records)
    (replaces : MemoryStore.Replaces ctx.tenant (flip ctx now enable) records world.store changed)
    (store : flipped.store = changed) (roster : flipped.roster = world.roster) :
    Flips ctx now enable records world flipped where
  within := store ▸ replaces.within
  roster := roster
  flipped := store ▸ replaces.replaced
  unflipped := store ▸ replaces.kept
  sound := by
    rw [store]
    refine ⟨replaces.within.wellFormed sound.wellFormed, ?_⟩
    intro other id version held
    by_cases same : other = ctx.tenant
    · subst same
      by_cases touched : ∃ record ∈ records, record.id = some id
      · obtain ⟨record, member, named⟩ := touched
        obtain ⟨_, _, stored, _⟩ := lists.stored_of_mem sound.wellFormed member
        rw [replaces.replaced record member id named, Option.some.injEq] at held
        exact held ▸ flip_schedulable (sound.schedulable stored)
      · rw [replaces.kept id fun record member named => touched ⟨record, member, named⟩] at held
        exact sound.schedulable held
    · rw [replaces.within.stored_elsewhere same] at held
      exact sound.schedulable held

/-- After records have been flipped and the engine was brought in line with all of them, everything
is settled. -/
theorem Flips.link {now : Instant} {enable : Bool} {asked : TimerRecord → Prop}
    (flips : Flips ctx now enable records world middle) (sound : world.store.Sound)
    (lists : world.store.Lists ctx.tenant asked records) (store : after.store = middle.store)
    (pass : Pass ctx some (fun record => some (flip ctx now enable record)) records middle.roster
      after.roster) : Link c ctx world after where
  within := store ▸ flips.within
  sound := store ▸ flips.sound
  jobs id := by
    rw [store]
    by_cases touched : ∃ record ∈ records, record.id = some id
    · obtain ⟨record, member, named⟩ := touched
      obtain ⟨storedId, storedNamed, held, _⟩ := lists.stored_of_mem sound.wellFormed member
      obtain rfl := Option.some.inj (storedNamed.symm.trans named)
      rw [pass.jobs record member _ named, flips.flipped record member _ named, held, flips.roster]
    · have apart : ∀ record ∈ records, record.id ≠ some id :=
        fun record member named => touched ⟨record, member, named⟩
      rw [pass.untouched apart, flips.roster, flips.unflipped id apart, settle_of_demand_eq rfl]
  others key free := by
    rw [← flips.roster]
    exact pass.unspelled free
  generated := by
    intro id record absent present
    rw [store] at present
    by_cases touched : ∃ record ∈ records, record.id = some id
    · obtain ⟨record, member, named⟩ := touched
      obtain ⟨storedId, storedNamed, held, _⟩ := lists.stored_of_mem sound.wellFormed member
      obtain rfl := Option.some.inj (storedNamed.symm.trans named)
      rw [held] at absent
      simp at absent
    · rw [flips.unflipped id fun record member named => touched ⟨record, member, named⟩,
        absent] at present
      simp at present

/-- All system timers of the module have the flag. -/
def Switched (store : MemoryStore) (tenant moduleName : String) (enable : Bool) : Prop :=
  ∀ id record, store.stored tenant id = some record → record.moduleName = some moduleName →
    record.kind = some .system → record.enabled = enable

/-- A record that asks for something else once it is flipped has been turned off or turned on. -/
theorem flip_turns {now : Instant} {enable : Bool}
    (differs : record.demand ≠ (flip ctx now enable record).demand) :
    record.isActive = true ∧ (flip ctx now enable record).enabled = false ∨
      record.isActive = false ∧ (flip ctx now enable record).isActive = true := by
  cases active : record.isActive with
  | false =>
    refine .inr ⟨rfl, ?_⟩
    by_contra inactive
    rw [TimerRecord.demand_of_inactive active] at differs
    exact differs (TimerRecord.demand_of_inactive (by simpa using inactive)).symm
  | true =>
    refine .inl ⟨rfl, ?_⟩
    by_contra kept
    have enabled : record.enabled = true := by
      by_contra disabled
      simp [TimerRecord.inactive_of_disabled (by simpa using disabled)] at active
    have same : (flip ctx now enable record).enabled = record.enabled := by
      simpa [enabled] using kept
    exact differs (TimerRecord.demand_congr same rfl).symm

/-- A system timer of the module has been turned off or on, and its job is as it was. -/
structure LeftBehind (ctx : Context) (moduleName : String) (id : Uuid) (old new : TimerRecord)
    (world after : World MemoryStore ε) : Prop where
  before : world.store.stored ctx.tenant id = some old
  stored : after.store.stored ctx.tenant id = some new
  moduleName : new.moduleName = some moduleName
  kind : new.kind = some .system
  turned : old.isActive = true ∧ new.enabled = false ∨ old.isActive = false ∧ new.isActive = true
  roster : after.roster id.toText = world.roster id.toText

/-- The loop over the flipped records settles all jobs, or leaves one behind. -/
theorem Flips.outcome {α : Type} {step : TimerRecord → Procedure TriggerError α} {now : Instant}
    {moduleName : String} {enable : Bool} {n : Nat} {outcome : Except RegistryError Nat}
    (flips : Flips ctx now enable records world middle) (sound : world.store.Sound)
    (lists : world.store.Lists ctx.tenant (Mismatched moduleName enable) records)
    (each : ∀ record ∈ records, ∀ id, record.id = some id →
      ∀ {world after : World MemoryStore ε} {outcome},
      World.Runs c.Admits world (step record) outcome after →
      Reconciled c ctx id (some record) (some (flip ctx now enable record)) world outcome after)
    (runs : World.Runs c.Admits middle (inTurn step records >>= fun _ => .done n) outcome after) :
    after.store = middle.store ∧ ((∃ n, outcome = .ok n) ∧ Link c ctx world after ∨
      (∃ e, outcome = .error e ∧ e.IsScheduling) ∧ c.outage ∧
        ∃ id old new, LeftBehind ctx moduleName id old new world after) := by
  have named : ∀ record ∈ records, ∃ id, record.id = some id := by
    intro record member
    obtain ⟨id, named, _⟩ := lists.stored_of_mem sound.wellFormed member
    exact ⟨id, named⟩
  rcases runs.bind_inv with ⟨_, last, first, ended⟩ | ⟨e, first, rfl⟩
  · obtain ⟨rfl, rfl⟩ := ended.done_inv
    obtain ⟨store, done, rest, rfl, pass, ⟨_, rfl⟩ | ⟨⟨e, failed, _⟩, _⟩⟩ :=
      inTurn_pass named lists.nodup each first
    · rw [List.append_nil] at lists flips
      exact ⟨store, .inl ⟨⟨n, rfl⟩, flips.link sound lists store pass⟩⟩
    · simp at failed
  · obtain ⟨store, done, rest, rfl, pass,
        ⟨⟨u, succeeded⟩, _⟩ | ⟨⟨_, same, stopped⟩, outage, record, others, rfl, differs⟩⟩ :=
      inTurn_pass named lists.nodup each first
    · simp at succeeded
    · refine ⟨store, .inr ⟨⟨e, rfl, Except.error.inj same ▸ stopped⟩, outage, ?_⟩⟩
      have member : record ∈ done ++ record :: others := by simp
      obtain ⟨id, recordNamed, held, ⟨moduleName, _⟩, kind⟩ :=
        lists.stored_of_mem sound.wellFormed member
      have untouched : after.roster id.toText = middle.roster id.toText := by
        apply pass.untouched
        intro other earlier otherNamed
        have nodup := lists.nodup
        rw [List.map_append, List.map_cons, List.nodup_append] at nodup
        apply nodup.2.2 (some id) (List.mem_map.mpr ⟨other, earlier, otherNamed⟩)
          record.id (by simp)
        exact recordNamed.symm
      exact ⟨id, record, flip ctx now enable record, held,
        store ▸ flips.flipped record member id recordNamed,
        moduleName, kind, flip_turns differs, untouched.trans (congrFun flips.roster _)⟩

/-- Enabling a record brings the engine in line with it by scheduling the flipped record. -/
theorem enabling_reconciled {now : Instant} {outcome : Except TriggerError Bool}
    (disabled : record.enabled = false) (named : record.id = some id)
    (schedulable : record.Schedulable)
    (runs : World.Runs c.Admits world (Reconcile.schedule ctx (flip ctx now true record))
      outcome after) :
    Reconciled c ctx id (some record) (some (flip ctx now true record)) world outcome after := by
  have flippedNamed : (flip ctx now true record).id = some id := named
  have unasked : record.demand = none :=
    TimerRecord.demand_of_inactive (TimerRecord.inactive_of_disabled disabled)
  have scheduled := Reconcile.schedule_reconciled flippedNamed (flip_schedulable schedulable) runs
  exact scheduled.congr unasked.symm

/-- Disabling a record brings the engine in line with it by dropping the job of the record as it
was. -/
theorem disabling_reconciled {now : Instant} {outcome : Except TriggerError PUnit}
    (named : record.id = some id)
    (runs : World.Runs c.Admits world (Reconcile.unschedule record) outcome after) :
    Reconciled c ctx id (some record) (some (flip ctx now false record)) world outcome after := by
  have unasked : demandOf (some (flip ctx now false record)) = none :=
    TimerRecord.demand_of_inactive (TimerRecord.inactive_of_disabled rfl)
  have unscheduled : Reconciled c ctx id (some record) none world outcome after :=
    Reconcile.unschedule_reconciled named runs
  exact unscheduled.of_unasked unasked

/-- A system timer of the module either has the flag or is one of the mismatched ones. -/
theorem flag_or_mem {store : MemoryStore} {tenant moduleName : String} {enable : Bool}
    (lists : store.Lists tenant (Mismatched moduleName enable) records)
    (held : store.stored tenant id = some record) (named : record.moduleName = some moduleName)
    (kind : record.kind = some .system) : record.enabled = enable ∨ record ∈ records := by
  by_cases flag : record.enabled = enable
  · exact .inl flag
  · have mismatched : Mismatched moduleName enable record := ⟨⟨named, Bool.eq_not_of_ne flag⟩, kind⟩
    exact .inr ((lists.mem_iff record).mpr ⟨id, held, mismatched⟩)

/-- Once the mismatched ones are flipped, all system timers of the module have the flag. -/
theorem Flips.switched {now : Instant} {moduleName : String} {enable : Bool}
    (flips : Flips ctx now enable records world middle) (sound : world.store.Sound)
    (lists : world.store.Lists ctx.tenant (Mismatched moduleName enable) records) :
    Switched middle.store ctx.tenant moduleName enable := by
  intro id record held named kind
  by_cases touched : ∃ old ∈ records, old.id = some id
  · obtain ⟨old, member, oldNamed⟩ := touched
    rw [flips.flipped old member id oldNamed, Option.some.injEq] at held
    exact held ▸ rfl
  · rw [flips.unflipped id fun old member oldNamed => touched ⟨old, member, oldNamed⟩] at held
    rcases flag_or_mem lists held named kind with flag | member
    · exact flag
    · exact absurd ⟨record, member, sound.wellFormed.id_of_stored held⟩ touched

/-- After the mismatched ones are flipped, bringing the engine in line with them settles all jobs,
or leaves one behind. -/
theorem Flips.switch_outcome {now : Instant} {moduleName : String} {enable : Bool} {n : Nat}
    {outcome : Except RegistryError Nat} (flips : Flips ctx now enable records world middle)
    (sound : world.store.Sound)
    (lists : world.store.Lists ctx.tenant (Mismatched moduleName enable) records)
    (runs : World.Runs c.Admits middle
      (if enable then scheduleEach ctx (records.map (flip ctx now enable)) >>= fun _ => .done n
      else unscheduleEach records >>= fun _ => .done n) outcome after) :
    after.store = middle.store ∧ ((∃ n, outcome = .ok n) ∧ Link c ctx world after ∨
      (∃ e, outcome = .error e ∧ e.IsScheduling) ∧ c.outage ∧
        ∃ id old new, LeftBehind ctx moduleName id old new world after) := by
  cases enable with
  | true =>
    rw [if_pos rfl, scheduleEach_map] at runs
    refine flips.outcome sound lists ?_ runs
    intro record member id named world' after' outcome' scheduling
    obtain ⟨_, held, ⟨_, disabled⟩, _⟩ := (lists.mem_iff record).mp member
    exact enabling_reconciled (by simpa using disabled) named (sound.schedulable held) scheduling
  | false =>
    rw [if_neg Bool.false_ne_true, unscheduleEach_eq] at runs
    refine flips.outcome sound lists ?_ runs
    intro record member id named world' after' outcome' unscheduling
    exact disabling_reconciled named unscheduling

/-- Switching a module is refused for want of a table, settles the jobs of the timers that it flips,
or flips them all and leaves a job behind. -/
theorem switchModule_outcome {moduleName : String} {enable : Bool}
    {outcome : Except RegistryError Nat} (sound : world.store.Sound)
    (runs : World.Runs c.Admits world (switchModule ctx moduleName enable) outcome after) :
    world.store.table? ctx.tenant = none ∧ outcome = .error (.store (.tableMissing ctx.tenant)) ∧
        Refused world outcome after ∨
      Switched after.store ctx.tenant moduleName enable ∧ after.store.Sound ∧
        ((∃ n, outcome = .ok n) ∧ Link c ctx world after ∨
          (∃ e, outcome = .error e ∧ e.IsScheduling) ∧ c.outage ∧
            ∃ id old new, LeftBehind ctx moduleName id old new world after) := by
  rcases switchModule_commits sound.wellFormed runs with
    ⟨missing, rfl, rfl⟩ | ⟨records, lists, ⟨rfl, rfl, rfl⟩ | ⟨_, changed, replaces, following⟩⟩
  · exact .inl ⟨missing, rfl, ⟨_, rfl⟩, rfl, rfl⟩
  · have matching : Switched after.store ctx.tenant moduleName enable := by
      intro id record held named kind
      exact (flag_or_mem lists held named kind).resolve_right (by simp)
    exact .inr ⟨matching, sound, .inl ⟨⟨0, rfl⟩, .of_idle sound rfl rfl⟩⟩
  · have flips := flips_of_replaces sound lists replaces
      (show ({ world.ticked with store := changed } : World MemoryStore ε).store = changed from rfl)
        rfl
    obtain ⟨sameFlipped, outcomes⟩ := flips.switch_outcome sound lists following
    exact .inr ⟨sameFlipped ▸ flips.switched sound lists, sameFlipped ▸ flips.sound, outcomes⟩

/-- Where all system timers of the module have the flag, switching the module does nothing. -/
theorem switchModule_idle {moduleName : String} {enable : Bool} {outcome : Except RegistryError Nat}
    (sound : world.store.Sound) (switched : Switched world.store ctx.tenant moduleName enable)
    (runs : World.Runs c.Admits world (switchModule ctx moduleName enable) outcome after) :
    (outcome = .error (.store (.tableMissing ctx.tenant)) ∨ outcome = .ok 0) ∧
      after.store = world.store ∧ after.roster = world.roster := by
  rcases switchModule_commits sound.wellFormed runs with ⟨_, rfl, rfl⟩ | ⟨records, lists, flipping⟩
  · exact ⟨.inl rfl, rfl, rfl⟩
  · obtain rfl : records = [] := by
      refine List.eq_nil_iff_forall_not_mem.mpr fun record member => ?_
      obtain ⟨id, held, ⟨named, flag⟩, kind⟩ := (lists.mem_iff record).mp member
      rw [switched id record held named kind] at flag
      simp at flag
    rcases flipping with ⟨_, rfl, rfl⟩ | ⟨present, _⟩
    · exact ⟨.inr rfl, rfl, rfl⟩
    · exact absurd rfl present

/-- Listing a tenant's timers is refused, or answers them all. -/
theorem list_inv {β : Type} {P : World MemoryStore ε → Request → Prop}
    {next : List TimerRecord → Operation β} {outcome : Except RegistryError β}
    (sound : world.store.Sound)
    (runs : World.Runs P world (ask (.list ctx.tenant) >>= next) outcome after) :
    world.store.table? ctx.tenant = none ∧ Refused world outcome after ∨
      ∃ records, world.store.Lists ctx.tenant (fun _ => True) records ∧
        World.Runs P world (next records) outcome after := by
  rcases MemoryStore.answer_list sound.wellFormed ctx.tenant with
    ⟨missing, answer⟩ | ⟨_, records, answer, lists⟩
  · obtain ⟨failed, rfl⟩ := runs.ask_refused answer
    exact .inl ⟨missing, ⟨_, failed⟩, rfl, rfl⟩
  · exact .inr ⟨records, lists, runs.ask_answered answer⟩

theorem deleteAll_progress {outcome : Except RegistryError Nat} (sound : world.store.Sound)
    (runs : World.Runs c.Admits world (deleteAll ctx) outcome after) :
    Progress c ctx RegistryError.IsScheduling (· = none) world outcome after := by
  unfold deleteAll at runs
  rcases list_inv sound runs with ⟨_, refused⟩ | ⟨records, _, deleting⟩
  · exact .inl (.single (refused.link sound))
  · exact deleteEach_progress sound deleting

end Registry

end Horarium
