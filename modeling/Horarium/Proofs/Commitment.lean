/-
Module: Horarium.Proofs.Commitment
Purpose: What a write of the registry has put into the store by the time it first asks the engine.
  Up to there every engine is like any other: a write is declined with store and engine as they
  were, or it has stored the next version of a record and has only the engine left to follow.
Trusted boundary: none
Main exports: RegistryError.IsScheduling, World.nextInstant, World.ticked, Declined, Commits,
  Unacceptable, Chosen
-/
import Horarium.Proofs.PreparedRecord
import Horarium.Proofs.Requests
import Horarium.Proofs.Runs
import Horarium.Proofs.StoredRecords
import Horarium.Registry.Basic

namespace Horarium

/-- The error of an operation whose store did what it was asked, but whose engine did not. -/
def RegistryError.IsScheduling (error : RegistryError) : Prop := ∃ cause, error = .scheduling cause

/-- Who wrote a version and when. The creation is that of the version before, if there is one. -/
def AuditMetadata.stamp (ctx : Context) (now : Instant) : Option TimerRecord → AuditMetadata
  | none => ⟨some now, ctx.user, some now, ctx.user⟩
  | some old => { old.metadata.getD default with updatedDate := some now, updatedBy := ctx.user }

/-- The version of a record that is stored under an id, after another version or as the first
one. -/
def TimerRecord.version (ctx : Context) (now : Instant) (id : Uuid) (before : Option TimerRecord)
    (record : TimerRecord) : TimerRecord :=
  { record with id := some id, metadata := some (.stamp ctx now before) }

/-- Brings the engine in line with what has been stored, a first version or a next one. -/
def Reconcile.follow (ctx : Context) (before : Option TimerRecord) (saved : TimerRecord) :
    Procedure TriggerError PUnit :=
  match before with
  | none => schedule ctx saved >>= fun _ => .done ⟨⟩
  | some old => reschedule ctx old saved

theorem Reconcile.follow_asks_jobs (ctx : Context) (before : Option TimerRecord)
    (saved : TimerRecord) :
    (follow ctx before saved).Asks (Request.IsForJobOf (before.toList ++ [saved])) := by
  cases before with
  | none => exact (schedule_asks_job saved).bind fun _ => .done _
  | some old => exact reschedule_asks_job old saved

theorem Reconcile.follow_asks (ctx : Context) (before : Option TimerRecord) (saved : TimerRecord) :
    (follow ctx before saved).Asks Request.IsEngine :=
  (follow_asks_jobs ctx before saved).mono fun _ => Request.IsForJobOf.isEngine

/-- Records of a tenant have been replaced by other versions of them, and nothing else has
changed. -/
structure MemoryStore.Replaces (tenant : String) (version : TimerRecord → TimerRecord)
    (records : List TimerRecord) (before after : MemoryStore) : Prop where
  within : Within tenant before after
  replaced : ∀ record ∈ records, ∀ id, record.id = some id →
    after.stored tenant id = some (version record)
  kept : ∀ id, (∀ record ∈ records, record.id ≠ some id) →
    after.stored tenant id = before.stored tenant id

/-- The timers of a module that do not have the flag yet. -/
def Registry.Mismatched (moduleName : String) (enable : Bool) (record : TimerRecord) : Prop :=
  (record.moduleName = some moduleName ∧ record.enabled = !enable) ∧ record.kind = some .system

namespace TimerRecord

variable {ctx : Context} {now : Instant} {id : Uuid} {before : Option TimerRecord}
  {record : TimerRecord}

@[simp] theorem version_id : (record.version ctx now id before).id = some id := rfl

@[simp] theorem version_lastWriter : (record.version ctx now id before).lastWriter = ctx.user := by
  cases before <;> rfl

end TimerRecord

section Ticked

variable {σ ε : Type}

/-- What the clock shows when it is read next. -/
def World.nextInstant (world : World σ ε) : Instant :=
  world.sources.instantAt (world.sources.readings + 1)

/-- The id that is generated next. -/
def World.nextId (world : World σ ε) : Uuid := world.sources.idAt (world.sources.ids + 1)

/-- The world after the clock has been read. -/
def World.ticked (world : World σ ε) : World σ ε :=
  { world with sources := { world.sources with readings := world.sources.readings + 1 } }

end Ticked

section Commits

variable {ε : Type} {world after : World MemoryStore ε}

/-- The operation failed for a reason that is not the engine's. The clock may have been read, but
store and engine are as they were. -/
structure Declined {α : Type} (world : World MemoryStore ε) (outcome : Except RegistryError α)
    (after : World MemoryStore ε) : Prop where
  failed : ∃ e, outcome = .error e ∧ ¬ e.IsScheduling
  store : after.store = world.store
  engine : after.engine = world.engine

theorem Declined.of_unchanged {α : Type} {outcome : Except RegistryError α}
    (failed : ∃ e, outcome = .error e ∧ ¬ e.IsScheduling) (unchanged : after = world) :
    Declined world outcome after :=
  ⟨failed, unchanged ▸ rfl, unchanged ▸ rfl⟩

/-- The next version of a record has been stored under the id, and nothing has been asked of the
engine yet. -/
structure Commits (ctx : Context) (record : TimerRecord) (id : Uuid) (before : Option TimerRecord)
    (saved : TimerRecord) (world committed : World MemoryStore ε) : Prop where
  version : saved = record.version ctx world.nextInstant id before
  known : ∀ old, before = some old → world.store.stored ctx.tenant id = some old
  sets : MemoryStore.Sets ctx.tenant id (some saved) world.store committed.store
  engine : committed.engine = world.engine
  sources : world.ticked.sources.Later committed.sources

/-- Why a creation is declined. -/
inductive Unacceptable (store : MemoryStore) (tenant : String) (input : TimerRecord) : Prop where
  | tableMissing (missing : store.table? tenant = none)
  | idTaken {id : Uuid} (named : input.id = some id) (held : (store.stored tenant id).isSome)
  | unprepared {e : RegistryError} (refused : input.prepare = .error e)

/-- Under which id a timer is created, given what was stored there before: that of the record with
its natural key, else the one that the input carries, else a generated one. -/
inductive Chosen (P : World MemoryStore ε → Request → Prop) (world : World MemoryStore ε)
    (tenant : String) (input saved : TimerRecord) (id : Uuid) : Option TimerRecord → Prop where
  | known (old : TimerRecord) (held : world.store.stored tenant id = some old)
      (namesake : old.naturalKey = saved.naturalKey) :
      Chosen P world tenant input saved id (some old)
  | given (named : input.id = some id) (free : world.store.stored tenant id = none)
      (unique : ∀ other old, world.store.stored tenant other = some old →
        old.naturalKey ≠ saved.naturalKey) : Chosen P world tenant input saved id none
  | generated (unnamed : input.id = none) (next : id = world.nextId) (met : P world.ticked .newId)
      (unique : ∀ other old, world.store.stored tenant other = some old →
        old.naturalKey ≠ saved.naturalKey) : Chosen P world tenant input saved id none

namespace Commits

variable {ctx : Context} {record saved : TimerRecord} {id : Uuid} {before : Option TimerRecord}
  {committed : World MemoryStore ε} (commits : Commits ctx record id before saved world committed)
include commits

theorem named : saved.id = some id := by
  rw [commits.version]
  rfl

theorem enabled : saved.enabled = record.enabled := by
  rw [commits.version]
  rfl

theorem lastWriter : saved.lastWriter = ctx.user := by
  rw [commits.version, TimerRecord.version_lastWriter]

theorem redeclares : saved.Redeclares record := by
  rw [commits.version]
  exact ⟨rfl, rfl, rfl, rfl⟩

theorem restates : saved.Restates record := ⟨commits.redeclares, commits.enabled⟩

end Commits

end Commits

variable {ε : Type} [SchedulingEngine ε] {P : World MemoryStore ε → Request → Prop}
  {world after : World MemoryStore ε} {ctx : Context} {id : Uuid} {record : TimerRecord}

/-- What the store answers is what the world answers, and only the store is another one
afterwards. -/
theorem World.answer_store {request : StoreRequest} {result : Except StoreError request.Result}
    {store : MemoryStore} (answered : MemoryStore.answer request world.store = (result, store)) :
    world.answer (.store request) = (result, { world with store }) := by
  show ((MemoryStore.answer request world.store).1,
    { world with store := (MemoryStore.answer request world.store).2 }) =
      (result, { world with store })
  rw [answered]

namespace World.Runs

variable {β : Type} {request : StoreRequest} {next : request.Result → Registry.Operation β}
  {outcome : Except RegistryError β}

/-- A request that the store refuses ends the operation. -/
theorem ask_refused {e : StoreError}
    (runs : World.Runs P world (Registry.ask request >>= next) outcome after)
    (answer : MemoryStore.answer request world.store = (.error e, world.store)) :
    outcome = .error (.store e) ∧ after = world := by
  obtain ⟨_, rest⟩ := runs.ask_inv
  rw [World.answer_store answer] at rest
  exact rest.fail_inv

/-- The operation goes on with what the store answers. -/
theorem ask_answered {a : request.Result} {store : MemoryStore}
    (runs : World.Runs P world (Registry.ask request >>= next) outcome after)
    (answer : MemoryStore.answer request world.store = (.ok a, store)) :
    World.Runs P { world with store } (next a) outcome after := by
  obtain ⟨_, rest⟩ := runs.ask_inv
  rw [World.answer_store answer] at rest
  exact rest

/-- An operation is carried out if it goes on from what the store answers. -/
theorem of_answer {a : request.Result} {store : MemoryStore} (met : P world (.store request))
    (answer : MemoryStore.answer request world.store = (.ok a, store))
    (rest : World.Runs P { world with store } (next a) outcome after) :
    World.Runs P world (Registry.ask request >>= next) outcome after := by
  refine .ask met ?_
  rw [World.answer_store answer]
  exact rest

end World.Runs

namespace Registry

variable {β : Type} {input existing : TimerRecord}

/-- Looking a record up fails for want of a table, or answers what is stored. -/
theorem findById_inv {next : Option TimerRecord → Operation β} {outcome : Except RegistryError β}
    (runs : World.Runs P world (ask (.findById ctx.tenant id) >>= next) outcome after) :
    world.store.table? ctx.tenant = none ∧ outcome = .error (.store (.tableMissing ctx.tenant)) ∧
        after = world ∨
      (world.store.table? ctx.tenant).isSome ∧
        World.Runs P world (next (world.store.stored ctx.tenant id)) outcome after := by
  rcases MemoryStore.answer_findById world.store ctx.tenant id with
    ⟨missing, answer⟩ | ⟨provisioned, answer⟩
  · exact .inl ⟨missing, runs.ask_refused answer⟩
  · exact .inr ⟨provisioned, runs.ask_answered answer⟩

/-- Looking for a natural key fails for want of a table, or answers the one record that has it. -/
theorem findByNaturalKey_inv {key : String} {next : Option TimerRecord → Operation β}
    {outcome : Except RegistryError β} (good : world.store.WellFormed)
    (runs : World.Runs P world (ask (.findByNaturalKey ctx.tenant key) >>= next) outcome after) :
    world.store.table? ctx.tenant = none ∧ outcome = .error (.store (.tableMissing ctx.tenant)) ∧
        after = world ∨
      (world.store.table? ctx.tenant).isSome ∧ ∃ found : Option TimerRecord,
        (∀ record, found = some record →
          ∃ id, world.store.stored ctx.tenant id = some record ∧ record.naturalKey = .ok key) ∧
        (found = none → ∀ id record, world.store.stored ctx.tenant id = some record →
          record.naturalKey ≠ .ok key) ∧
        World.Runs P world (next found) outcome after := by
  rcases MemoryStore.answer_findByNaturalKey good ctx.tenant key with
    ⟨missing, answer⟩ | ⟨provisioned, found, answer, present, absent⟩
  · exact .inl ⟨missing, runs.ask_refused answer⟩
  · exact .inr ⟨provisioned, found, present, absent, runs.ask_answered answer⟩

/-- The check of a given id fails, or finds the id free and changes nothing. -/
theorem refuseTaken_inv {given : Option Uuid} {next : PUnit → Operation β}
    {outcome : Except RegistryError β}
    (runs : World.Runs P world (refuseTaken ctx given >>= next) outcome after) :
    ((∃ e, outcome = .error e ∧ ¬ e.IsScheduling) ∧ after = world) ∧
        (world.store.table? ctx.tenant = none ∨
          ∃ id, given = some id ∧ (world.store.stored ctx.tenant id).isSome) ∨
      (∀ id, given = some id → world.store.stored ctx.tenant id = none) ∧
        World.Runs P world (next ⟨⟩) outcome after := by
  cases given with
  | none => exact .inr ⟨by simp, runs⟩
  | some id =>
    unfold refuseTaken at runs
    simp only [bind_assoc] at runs
    rcases findById_inv runs with ⟨missing, rfl, rfl⟩ | ⟨_, decided⟩
    · exact .inl ⟨⟨⟨_, rfl, by simp [RegistryError.IsScheduling]⟩, rfl⟩, .inl missing⟩
    · cases held : world.store.stored ctx.tenant id with
      | some old =>
        rw [held] at decided
        obtain ⟨rfl, rfl⟩ := decided.fail_inv
        exact .inl ⟨⟨⟨_, rfl, by simp [RegistryError.IsScheduling]⟩, rfl⟩,
          .inr ⟨id, rfl, by simp [held]⟩⟩
      | none =>
        rw [held] at decided
        refine .inr ⟨?_, decided⟩
        rintro other ⟨⟩
        exact held

/-- A version under an id is stored, or another record of the tenant has its natural key. -/
theorem save_inv {chosen : World MemoryStore ε} {saved : TimerRecord}
    {next : TimerRecord → Operation β} {outcome : Except RegistryError β}
    (good : world.store.WellFormed) (provisioned : (world.store.table? ctx.tenant).isSome)
    (named : saved.id = some id) (keyed : ∃ key, saved.naturalKey = .ok key)
    (store : chosen.store = world.store)
    (runs : World.Runs P chosen (ask (.save ctx.tenant saved) >>= next) outcome after) :
    (∃ other old, other ≠ id ∧ world.store.stored ctx.tenant other = some old ∧
        old.naturalKey = saved.naturalKey) ∧ (∃ e, outcome = .error e ∧ ¬ e.IsScheduling) ∧
        after = chosen ∨
      ∃ changed, MemoryStore.Sets ctx.tenant id (some saved) world.store changed ∧
        World.Runs P { chosen with store := changed } (next saved) outcome after := by
  obtain ⟨key, keyed⟩ := keyed
  rcases MemoryStore.answer_save good ctx.tenant named keyed with
    ⟨missing, _⟩ | ⟨⟨other, old, apart, held, same⟩, duplicate⟩ | ⟨_, _, changed, answer, sets⟩
  · simp [missing] at provisioned
  · rw [← store] at duplicate
    obtain ⟨rfl, rfl⟩ := runs.ask_refused duplicate
    exact .inl ⟨⟨other, old, apart, held, same.trans keyed.symm⟩,
      ⟨_, rfl, by simp [RegistryError.IsScheduling]⟩, rfl⟩
  · rw [← store] at answer
    exact .inr ⟨changed, sets, runs.ask_answered answer⟩

/-- The next version of a stored record is stored, unless another record has the natural key. -/
theorem applyUpdate_inv {outcome : Except RegistryError TimerRecord} (good : world.store.WellFormed)
    (held : world.store.stored ctx.tenant id = some existing) (named : record.id = some id)
    (keyed : ∃ key, record.naturalKey = .ok key)
    (runs : World.Runs P world (applyUpdate ctx existing record) outcome after) :
    (∃ other old, other ≠ id ∧ world.store.stored ctx.tenant other = some old ∧
        old.naturalKey = record.naturalKey) ∧ Declined world outcome after ∨
      ∃ saved committed, Commits ctx record id (some existing) saved world committed ∧
        World.Runs P committed
        (reconcile (Reconcile.follow ctx (some existing) saved) >>= fun _ => .done saved) outcome
        after := by
  unfold applyUpdate at runs
  obtain ⟨_, stamped⟩ := runs.ask_inv
  have version : { record with metadata := some (.stamp ctx world.nextInstant (some existing)) } =
      record.version ctx world.nextInstant id (some existing) := by
    unfold TimerRecord.version
    rw [← named]
  have saving : World.Runs P world.ticked
      (ask (.save ctx.tenant (record.version ctx world.nextInstant id (some existing))) >>=
        fun saved =>
          reconcile (Reconcile.follow ctx (some existing) saved) >>= fun _ => .done saved)
      outcome after :=
    version ▸ stamped
  have store : world.ticked.store = world.store := rfl
  have provisioned := world.store.isSome_table?_of_stored held
  rcases save_inv good provisioned TimerRecord.version_id keyed store saving with
    ⟨taken, failed, rfl⟩ | ⟨changed, sets, following⟩
  · exact .inl ⟨taken, failed, rfl, rfl⟩
  · refine .inr ⟨_, { world.ticked with store := changed },
      ⟨rfl, ?_, sets, rfl, .refl _⟩, following⟩
    rintro old ⟨⟩
    exact held

/-- Under which id the first version of a record is stored, and the world in which it has been
chosen. -/
theorem insert_inv {outcome : Except RegistryError TimerRecord}
    (runs : World.Runs P world (insert ctx record) outcome after) :
    ∃ (id : Uuid) (chosen : World MemoryStore ε),
      (record.id = some id ∨ record.id = none ∧ id = world.nextId ∧ P world.ticked .newId) ∧
      chosen.store = world.store ∧ chosen.engine = world.engine ∧
      world.ticked.sources.Later chosen.sources ∧
      World.Runs P chosen
        (ask (.save ctx.tenant (record.version ctx world.nextInstant id none)) >>=
          fun saved => reconcile (Reconcile.follow ctx none saved) >>= fun _ => .done saved)
        outcome after := by
  have follows : ∀ saved : TimerRecord,
      (reconcile (Reconcile.follow ctx none saved) >>= fun _ => .done saved) =
        (reconcile (Reconcile.schedule ctx saved) >>=
          fun _ => .done saved : Operation TimerRecord) := by
    intro saved
    unfold reconcile Reconcile.follow
    rw [Procedure.mapError_bind, bind_assoc]
    rfl
  simp only [follows]
  unfold insert at runs
  obtain ⟨_, choosing⟩ := runs.ask_inv
  cases given : record.id with
  | some id =>
    rw [given] at choosing
    exact ⟨id, world.ticked, .inl rfl, rfl, rfl, .refl _, choosing⟩
  | none =>
    rw [given] at choosing
    obtain ⟨met, saving⟩ := choosing.ask_inv
    exact ⟨world.nextId, (world.ticked.answer .newId).2, .inr ⟨rfl, rfl, met⟩, rfl, rfl,
      ⟨rfl, Nat.le_refl _⟩, saving⟩

/-- A creation is declined for a reason that lies in its input or its tenant, or stores a version
under the id that is chosen for it. -/
theorem create_commits {outcome : Except RegistryError TimerRecord} (good : world.store.WellFormed)
    (runs : World.Runs P world (create ctx input) outcome after) :
    Declined world outcome after ∧ Unacceptable world.store ctx.tenant input ∨
      ∃ record id before saved committed, input.prepare = .ok record ∧
        Chosen P world ctx.tenant input saved id before ∧
        Commits ctx record id before saved world committed ∧
        World.Runs P committed
          (reconcile (Reconcile.follow ctx before saved) >>= fun _ => .done saved)
          outcome after := by
  unfold create at runs
  rcases refuseTaken_inv runs with ⟨⟨failed, rfl⟩, missing | ⟨id, named, held⟩⟩ | ⟨free, preparing⟩
  · exact .inl ⟨.of_unchanged failed rfl, .tableMissing missing⟩
  · exact .inl ⟨.of_unchanged failed rfl, .idTaken named held⟩
  rcases preparing.ofExcept_bind_inv with ⟨e, refused, rfl, rfl⟩ | ⟨record, prepared, keying⟩
  · obtain ⟨cause, rfl⟩ := TimerRecord.exists_validation_of_prepare refused
    exact .inl ⟨.of_unchanged ⟨_, rfl, by simp [RegistryError.IsScheduling]⟩ rfl,
      .unprepared refused⟩
  obtain ⟨key, keyed⟩ := TimerRecord.exists_naturalKey_of_prepare prepared
  rw [keyed] at keying
  have finding : World.Runs P world (ask (.findByNaturalKey ctx.tenant key) >>= _) outcome after :=
    keying
  rcases findByNaturalKey_inv good finding with
    ⟨missing, rfl, rfl⟩ | ⟨provisioned, found, present, absent, writing⟩
  · exact .inl ⟨.of_unchanged ⟨_, rfl, by simp [RegistryError.IsScheduling]⟩ rfl,
      .tableMissing missing⟩
  right
  cases found with
  | none =>
    have unique : ∀ other old, world.store.stored ctx.tenant other = some old →
        old.naturalKey ≠ record.naturalKey := by
      intro other old held
      rw [keyed]
      exact absent rfl other old held
    obtain ⟨id, chosen, source, store, engine, sources, saving⟩ := insert_inv writing
    rcases save_inv good provisioned TimerRecord.version_id ⟨key, keyed⟩ store saving with
      ⟨⟨other, old, _, held, namesake⟩, _⟩ | ⟨changed, sets, following⟩
    · exact absurd namesake (unique other old held)
    · refine ⟨record, id, none, _, { chosen with store := changed }, prepared, ?_,
        ⟨rfl, by simp, sets, engine, sources⟩, following⟩
      rw [TimerRecord.id_of_prepare prepared] at source
      rcases source with named | ⟨unnamed, next, met⟩
      · exact .given named (free id named) unique
      · exact .generated unnamed next met unique
  | some existing =>
    obtain ⟨id, held, namesake⟩ := present existing rfl
    simp only [good.id_of_stored held] at writing
    have named : ({ record with id := some id } : TimerRecord).id = some id := rfl
    rcases applyUpdate_inv good held named ⟨key, keyed⟩ writing with
      ⟨⟨other, old, apart, otherHeld, same⟩, _⟩ | ⟨saved, committed, commits, following⟩
    · have key : old.naturalKey = existing.naturalKey := same.trans (keyed.trans namesake.symm)
      exact absurd (good.id_unique otherHeld held key) apart
    · obtain ⟨rfl, known, sets, engine, sources⟩ := commits
      exact ⟨record, id, some existing, record.version ctx world.nextInstant id (some existing),
        committed, prepared, .known existing held (namesake.trans keyed.symm),
        ⟨rfl, known, sets, engine, sources⟩, following⟩

/-- An update is declined, or stores the next version of the timer under its id. -/
theorem update_commits {outcome : Except RegistryError TimerRecord} (good : world.store.WellFormed)
    (runs : World.Runs P world (update ctx id input) outcome after) :
    Declined world outcome after ∨
      ∃ record old saved committed, input.prepare = .ok record ∧
        Commits ctx record id (some old) saved world committed ∧
        World.Runs P committed
          (reconcile (Reconcile.follow ctx (some old) saved) >>= fun _ => .done saved)
          outcome after := by
  unfold update at runs
  split at runs
  · obtain ⟨rfl, rfl⟩ := runs.fail_inv
    exact .inl (.of_unchanged ⟨_, rfl, by simp [RegistryError.IsScheduling]⟩ rfl)
  rename_i matching
  have given : input.id = some id := by simpa using matching
  rcases runs.ofExcept_bind_inv with ⟨e, refused, rfl, rfl⟩ | ⟨record, prepared, finding⟩
  · obtain ⟨cause, rfl⟩ := TimerRecord.exists_validation_of_prepare refused
    exact .inl (.of_unchanged ⟨_, rfl, by simp [RegistryError.IsScheduling]⟩ rfl)
  rcases findById_inv finding with ⟨_, rfl, rfl⟩ | ⟨_, writing⟩
  · exact .inl (.of_unchanged ⟨_, rfl, by simp [RegistryError.IsScheduling]⟩ rfl)
  cases held : world.store.stored ctx.tenant id with
  | none =>
    rw [held] at writing
    obtain ⟨rfl, rfl⟩ := writing.fail_inv
    exact .inl (.of_unchanged ⟨_, rfl, by simp [RegistryError.IsScheduling]⟩ rfl)
  | some existing =>
    rw [held] at writing
    have named : record.id = some id := (TimerRecord.id_of_prepare prepared).trans given
    rcases applyUpdate_inv good held named (TimerRecord.exists_naturalKey_of_prepare prepared)
        writing with
      ⟨_, declined⟩ | ⟨saved, committed, commits, following⟩
    · exact .inl declined
    · exact .inr ⟨record, existing, saved, committed, prepared, commits, following⟩

/-- A deletion fails for want of a table, finds nothing to delete, or has the record removed and
only its job left to drop. -/
theorem delete_commits {outcome : Except RegistryError PUnit}
    (runs : World.Runs P world (delete ctx id) outcome after) :
    world.store.table? ctx.tenant = none ∧ outcome = .error (.store (.tableMissing ctx.tenant)) ∧
        after = world ∨
      world.store.stored ctx.tenant id = none ∧ outcome = .ok ⟨⟩ ∧ after = world ∨
      ∃ existing changed, world.store.stored ctx.tenant id = some existing ∧
        MemoryStore.Sets ctx.tenant id none world.store changed ∧
        World.Runs P { world with store := changed } (reconcile (Reconcile.unschedule existing))
          outcome after := by
  unfold delete at runs
  rcases findById_inv runs with refused | ⟨_, deleting⟩
  · exact .inl refused
  cases held : world.store.stored ctx.tenant id with
  | none =>
    rw [held] at deleting
    exact .inr (.inl ⟨rfl, deleting.done_inv⟩)
  | some existing =>
    rw [held] at deleting
    rcases MemoryStore.answer_delete world.store ctx.tenant id with
      ⟨missing, _⟩ | ⟨changed, answer, sets⟩
    · simp [MemoryStore.stored, missing] at held
    · exact .inr (.inr ⟨existing, changed, rfl, sets, deleting.ask_answered answer⟩)

/-- Flipping records that are listed in a table never fails: they keep their keys. -/
theorem saveAll_inv {chosen : World MemoryStore ε} {now : Instant} {enable : Bool}
    {records : List TimerRecord} {asked : TimerRecord → Prop}
    {next : List TimerRecord → Operation β} {outcome : Except RegistryError β}
    (good : chosen.store.WellFormed) (provisioned : (chosen.store.table? ctx.tenant).isSome)
    (lists : chosen.store.Lists ctx.tenant asked records)
    (runs : World.Runs P chosen
      (ask (.saveAll ctx.tenant (records.map (flip ctx now enable))) >>= next) outcome after) :
    ∃ changed, MemoryStore.Replaces ctx.tenant (flip ctx now enable) records chosen.store changed ∧
      World.Runs P { chosen with store := changed } (next (records.map (flip ctx now enable)))
        outcome after := by
  have kept : ∀ version ∈ records.map (flip ctx now enable), ∃ id old, version.id = some id ∧
      chosen.store.stored ctx.tenant id = some old ∧ version.naturalKey = old.naturalKey := by
    intro version member
    obtain ⟨record, listed, rfl⟩ := List.mem_map.mp member
    obtain ⟨id, named, held, _⟩ := lists.stored_of_mem good listed
    exact ⟨id, record, named, held, rfl⟩
  have nodup : ((records.map (flip ctx now enable)).map (·.id)).Nodup := by
    rw [List.map_map]
    exact lists.nodup
  obtain ⟨changed, answer, within, replaced, unreplaced⟩ :=
    MemoryStore.answer_saveAll good kept nodup provisioned
  refine ⟨changed, ⟨within, ?_, ?_⟩, runs.ask_answered answer⟩
  · intro record member id named
    exact replaced _ (List.mem_map_of_mem member) id named
  · intro id apart
    apply unreplaced
    intro version member
    obtain ⟨record, listed, rfl⟩ := List.mem_map.mp member
    exact apart record listed

/-- Switching a module fails for want of a table, finds nothing to flip, or has flipped the records
in the store and only their jobs left to see to. -/
theorem switchModule_commits {moduleName : String} {enable : Bool}
    {outcome : Except RegistryError Nat} (good : world.store.WellFormed)
    (runs : World.Runs P world (switchModule ctx moduleName enable) outcome after) :
    world.store.table? ctx.tenant = none ∧ outcome = .error (.store (.tableMissing ctx.tenant)) ∧
        after = world ∨
      ∃ records, world.store.Lists ctx.tenant (Mismatched moduleName enable) records ∧
        (records = [] ∧ outcome = .ok 0 ∧ after = world ∨
          records ≠ [] ∧ ∃ changed,
            MemoryStore.Replaces ctx.tenant (flip ctx world.nextInstant enable) records
              world.store changed ∧
            World.Runs P { world.ticked with store := changed }
              (if enable then
                scheduleEach ctx (records.map (flip ctx world.nextInstant enable)) >>= fun _ =>
                  .done records.length
              else unscheduleEach records >>= fun _ => .done records.length) outcome after) := by
  unfold switchModule at runs
  rcases MemoryStore.answer_findByModuleAndEnabled good ctx.tenant moduleName (!enable) with
    ⟨missing, answer⟩ | ⟨provisioned, found, answer, lists⟩
  · exact .inl ⟨missing, runs.ask_refused answer⟩
  have flipping := runs.ask_answered answer
  have mismatched : world.store.Lists ctx.tenant (Mismatched moduleName enable)
      (found.filter (·.kind == some .system)) := lists.filter (by simp)
  refine .inr ⟨_, mismatched, ?_⟩
  generalize found.filter (·.kind == some .system) = records at flipping mismatched
  cases records with
  | nil => exact .inl ⟨rfl, flipping.done_inv⟩
  | cons record records =>
    obtain ⟨_, saving⟩ := flipping.ask_inv
    have good : world.ticked.store.WellFormed := good
    obtain ⟨changed, replaces, following⟩ := saveAll_inv good provisioned mismatched saving
    refine .inr ⟨by simp, changed, replaces, ?_⟩
    rw [List.length_map] at following
    exact following

end Registry

end Horarium
