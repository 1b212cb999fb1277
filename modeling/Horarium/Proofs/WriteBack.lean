/-
Module: Horarium.Proofs.WriteBack
Purpose: Writing back what was read. A record that has been looked up passes the checks as it is and
  keeps its natural key, so an update with it is stored; and as both versions ask the same of the
  engine, the engine is not asked.
Trusted boundary: none
Main exports: Registry.update_self, Reached.update_of_read
-/
import Horarium.Proofs.RecordValidity

namespace Horarium

namespace TimerRecord

variable {record other : TimerRecord}

theorem Restates.isActive_eq (restates : record.Restates other) :
    record.isActive = other.isActive := by
  unfold isActive
  rw [restates.routingEntry, restates.enabled]

theorem Restates.shape_eq (restates : record.Restates other) :
    TriggerShape.of record = TriggerShape.of other := by
  unfold TriggerShape.of
  rw [restates.routingEntry]

/-- A next version of a record that says the same describes the same timer. -/
theorem restates_version (ctx : Context) (now : Instant) (id : Uuid) (record : TimerRecord) :
    (record.version ctx now id (some record)).Restates record :=
  ⟨⟨rfl, rfl, rfl, rfl⟩, rfl⟩

/-- Only who updated the record and when is another in it. -/
theorem version_self {id : Uuid} {metadata : AuditMetadata} (ctx : Context) (now : Instant)
    (named : record.id = some id) (given : record.metadata = some metadata) :
    record.version ctx now id (some record) = { record with
      metadata := some { metadata with updatedDate := some now, updatedBy := ctx.user } } := by
  simp [version, AuditMetadata.stamp, named, given]

end TimerRecord

/-- No other record of the tenant has the natural key of a stored one. -/
theorem MemoryStore.WellFormed.not_taken {store : MemoryStore} {tenant : String} {id : Uuid}
    {record : TimerRecord} {key : String} (good : store.WellFormed)
    (held : store.stored tenant id = some record) (keyed : record.naturalKey = .ok key) :
    ¬ store.Taken tenant id key := by
  rintro ⟨other, namesake, apart, stored, same⟩
  exact apart (good.id_unique stored held (same.trans keyed.symm))

/-- Nothing is asked of the engine for a version that describes the same timer, active or not. -/
theorem Reconcile.reschedule_of_restates {ctx : Context} {old new : TimerRecord}
    (restates : new.Restates old) :
    reschedule ctx old new = .done ⟨⟩ := by
  unfold reschedule
  rw [restates.isActive_eq, restates.shape_eq]
  cases old.isActive with
  | false => rfl
  | true => exact if_pos rfl

variable {ε : Type} [SchedulingEngine ε] {P : World MemoryStore ε → Request → Prop}
  {world after : World MemoryStore ε} {ctx : Context} {id : Uuid} {record : TimerRecord}

namespace Registry

/-- What is looked up is stored, and looking it up leaves no trace. -/
theorem stored_of_findById {read : World MemoryStore ε}
    (found : world.run (findById ctx id) = (.ok record, read)) :
    world.store.stored ctx.tenant id = some record ∧ read = world := by
  have runs := world.runs (findById ctx id)
  rw [found] at runs
  rcases findById_inv runs with ⟨_, failed, _⟩ | ⟨_, answering⟩
  · simp at failed
  cases held : world.store.stored ctx.tenant id with
  | none =>
    rw [held] at answering
    simpa using answering.fail_inv.1
  | some stored =>
    rw [held] at answering
    obtain ⟨same, unchanged⟩ := answering.done_inv
    exact ⟨congrArg some (Except.ok.inj same).symm, unchanged⟩

/-- Updating a stored record with itself stores it with the next instant of the clock, and asks
nothing of the engine. -/
theorem applyUpdate_self (good : world.store.WellFormed)
    (held : world.store.stored ctx.tenant id = some record) :
    ∃ changed, World.Runs (fun _ request => ¬ request.IsEngine) world
      (applyUpdate ctx record record)
        (.ok (record.version ctx world.nextInstant id (some record))) { world.ticked with
          store := changed } ∧
      MemoryStore.Sets ctx.tenant id (some (record.version ctx world.nextInstant id (some record)))
        world.store changed := by
  have restates := TimerRecord.restates_version ctx world.nextInstant id record
  have version : { record with metadata := some (.stamp ctx world.nextInstant (some record)) } =
      record.version ctx world.nextInstant id (some record) := by
    unfold TimerRecord.version
    rw [← good.id_of_stored held]
  obtain ⟨key, keyed⟩ := good.exists_naturalKey held
  have provisioned := world.store.isSome_table?_of_stored held
  have named : (record.version ctx world.nextInstant id (some record)).id = some id :=
    TimerRecord.version_id
  rcases MemoryStore.answer_save good ctx.tenant named (restates.naturalKey.trans keyed) with
    ⟨missing, _⟩ | ⟨taken, _⟩ | ⟨_, _, changed, answer, sets⟩
  · simp [missing] at provisioned
  · exact absurd taken (good.not_taken held keyed)
  have saving : World.Runs (fun _ request => ¬ request.IsEngine) world.ticked
      (ask (.save ctx.tenant (record.version ctx world.nextInstant id (some record))) >>=
        fun saved => reconcile (Reconcile.reschedule ctx record saved) >>= fun _ => .done saved)
      (.ok (record.version ctx world.nextInstant id (some record)))
      { world.ticked with store := changed } := by
    refine .of_answer (fun impossible => impossible) answer ?_
    rw [Reconcile.reschedule_of_restates restates]
    exact .done _ _
  refine ⟨changed, .ask (fun impossible => impossible) ?_, sets⟩
  rw [← version] at saving ⊢
  exact saving

/-- An update with what is stored is carried out as one of the record with itself, if the record
passes the checks as it is. -/
theorem update_self (good : world.store.WellFormed) (prepared : record.prepare = .ok record)
    (held : world.store.stored ctx.tenant id = some record)
    {outcome : Except RegistryError TimerRecord}
    (runs : World.Runs (fun _ request => ¬ request.IsEngine) world (applyUpdate ctx record record)
      outcome after) :
    World.Runs (fun _ request => ¬ request.IsEngine) world
      (update ctx id record) outcome after := by
  have answer : MemoryStore.answer (.findById ctx.tenant id) world.store =
      (.ok (some record), world.store) := by
    rcases MemoryStore.answer_findById world.store ctx.tenant id with ⟨missing, _⟩ | ⟨_, answer⟩
    · simp [MemoryStore.stored, missing] at held
    · rw [answer, held]
  unfold update
  rw [if_neg (by simp [good.id_of_stored held]), prepared]
  exact .of_answer (fun impossible => impossible) answer runs

end Registry

/-- Writing back what was read: in every state that a service reaches, a record that has been looked
up can be written back by any caller of the tenant. Nothing but who updated the record and when is
another afterwards, and nothing is asked of the engine. -/
theorem Reached.update_of_read (reached : Reached world) {reader : Context}
    {read : World MemoryStore ε}
    (found : world.run (Registry.findById reader id) = (.ok record, read))
    (sameTenant : ctx.tenant = reader.tenant) :
    read = world ∧ ∃ metadata saved changed, record.metadata = some metadata ∧
      saved = { record with metadata := some { metadata with
        updatedDate := some world.nextInstant, updatedBy := ctx.user } } ∧
      World.Runs (fun _ request => ¬ request.IsEngine) world
        (Registry.update ctx id record) (.ok saved)
        { world.ticked with store := changed } ∧
      MemoryStore.Sets ctx.tenant id (some saved) world.store changed := by
  have orderly := reached.orderly
  obtain ⟨held, unchanged⟩ := Registry.stored_of_findById found
  rw [← sameTenant] at held
  obtain ⟨prepared, metadata, _, _, given, _⟩ := orderly.records held
  obtain ⟨changed, applied, sets⟩ := Registry.applyUpdate_self orderly.wellFormed held
  rw [TimerRecord.version_self ctx world.nextInstant (orderly.wellFormed.id_of_stored held) given]
    at applied sets
  exact ⟨unchanged, metadata, _, changed, given, rfl,
    Registry.update_self orderly.wellFormed prepared held applied, sets⟩

/-- A timer without a job is written back by another user, and still has none. -/
theorem unheard_written_back : ∃ record saved after,
    unheard.run (Registry.findById ⟨"north", none, none⟩ (.ofBits 1)) = (.ok record, unheard) ∧
      unheard.run (Registry.update ⟨"north", some (.ofBits 9), none⟩ (.ofBits 1) record) =
        (.ok saved, after) ∧
      record.lastWriter = none ∧ saved.lastWriter = some (.ofBits 9) ∧
      saved.createdDate = record.createdDate ∧
      after.engine.jobs = [] := by
  have reached : Reached unheard := reached_settledIn.serve (.create _ _)
  have unwritten :
      (unheard.run (Registry.findById ⟨"north", none, none⟩ (.ofBits 1))).1.toOption.any
      (·.lastWriter == none) = true := by
    decide +kernel
  have unasked : unheard.engine.jobs = [] := by decide +kernel
  obtain ⟨⟨_ | record, read⟩, looked⟩ : ∃ ended,
      unheard.run (Registry.findById ⟨"north", none, none⟩ (.ofBits 1)) = ended := ⟨_, rfl⟩
  · simp [looked, Except.toOption] at unwritten
  have sameTenant : (⟨"north", some (.ofBits 9), none⟩ : Context).tenant =
      (⟨"north", none, none⟩ : Context).tenant := rfl
  obtain ⟨rfl, metadata, saved, changed, given, rfl, updates, _⟩ :=
    reached.update_of_read looked sameTenant
  refine ⟨record, _, _, looked, updates.run_eq, ?_, rfl, ?_, unasked⟩
  · simpa [looked, Except.toOption] using unwritten
  · simp [TimerRecord.createdDate, given]

end Horarium
