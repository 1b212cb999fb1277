/-
Module: Horarium.Proofs.ExpectedErrors
Purpose: Why operations fail while the engine is steady. A world that is fit answers every proper
  request in a fitting way: it has no other complaints than a missing table and a natural key that
  is taken, and the records that it answers with are ones that pass the checks. Procedures that make
  proper requests only, and that fail for expected reasons only as long as the answers are fitting,
  therefore fail in fit worlds for these reasons, and leave them fit.
Trusted boundary: none
Main exports: RegistryError.IsExpected, TimerRecord.Storable, TimerTable.Checked,
  MemoryStore.Checked, World.Fit, Procedure.FailsOnly, Procedure.FailsOnly.run
-/
import Horarium.Proofs.EventSteps
import Horarium.Proofs.RecordValidity

namespace Horarium

/-- The failures that lie in what was asked for, or in what is stored. `missing` tells of which
tenants the table may be missing. -/
inductive RegistryError.IsExpected (missing : String → Prop) : RegistryError → Prop where
  | validation (cause : Refusal) : IsExpected missing (.validation cause)
  | notFound (id : Uuid) : IsExpected missing (.notFound id)
  | alreadyExists (given : String) : IsExpected missing (.alreadyExists given)
  | tableMissing {tenant : String} (absent : missing tenant) :
      IsExpected missing (.store (.tableMissing tenant))
  | duplicateKey (key : String) : IsExpected missing (.store (.duplicateKey key))

/-- The failures of an event that lie in the event, or are to be expected of the registry. -/
inductive SyncError.IsExpected (missing : String → Prop) : SyncError → Prop where
  | invalidEvent (fault : EventFault) : IsExpected missing (.invalidEvent fault)
  | registry {cause : RegistryError} (expected : cause.IsExpected missing) :
      IsExpected missing (.registry cause)

/-- None of these failures is one of the service itself. -/
theorem RegistryError.IsExpected.status_lt {missing : String → Prop} {e : RegistryError}
    (expected : e.IsExpected missing) : e.status < 500 := by
  cases expected <;> simp [RegistryError.status]

/-- Of these failures only the missing table may pass. -/
theorem SyncError.IsExpected.tableMissing_of_retryable {missing : String → Prop} {e : SyncError}
    (expected : e.IsExpected missing) (passing : e.isRetryable = true) :
    ∃ tenant, missing tenant ∧ e = .registry (.store (.tableMissing tenant)) := by
  cases expected with
  | invalidEvent fault => simp [SyncError.isRetryable] at passing
  | registry expected =>
    have below := expected.status_lt
    cases expected with
    | tableMissing absent => exact ⟨_, absent, rfl⟩
    | _ => simp [SyncError.isRetryable, RegistryError.isTableMissing, StoreError.isTableMissing,
        RegistryError.status] at passing

/-- The record has an id and passes the checks as it is. -/
structure TimerRecord.Storable (record : TimerRecord) : Prop where
  named : ∃ id, record.id = some id
  prepared : record.prepare = .ok record

/-- The checks do not look at id, flag and metadata. -/
theorem TimerRecord.storable_of_redeclares {record other : TimerRecord}
    (named : ∃ id, record.id = some id) (prepared : other.prepare = .ok other)
    (redeclares : record.Redeclares other) : record.Storable :=
  ⟨named, redeclares.prepare prepared⟩

/-- Such a record can be kept in a row. -/
theorem TimerRecord.Storable.exists_row {record : TimerRecord} (storable : record.Storable) :
    ∃ row, StoredTimer.ofRecord record = .ok row := by
  obtain ⟨id, named⟩ := storable.named
  obtain ⟨key, keyed⟩ := TimerRecord.exists_naturalKey_of_prepare storable.prepared
  exact ⟨⟨id, key, record⟩, StoredTimer.ofRecord_eq_ok_iff.mpr ⟨named, keyed, rfl⟩⟩

/-! ### Requests and answers -/

namespace StoreRequest

/-- The records that the request brings. -/
def given : StoreRequest → List TimerRecord
  | save _ record => [record]
  | saveAll _ records => records
  | _ => []

/-- The records that an answer shows. -/
def shown : (request : StoreRequest) → request.Result → List TimerRecord
  | findById _ _, found => found.toList
  | findByNaturalKey _ _, found => found.toList
  | findByModuleAndKind _ _ _, records => records
  | findByModuleAndEnabled _ _ _, records => records
  | page _ _ _, listed => listed.items
  | list _, records => records
  | save _ _, saved => [saved]
  | saveAll _ _, saved => saved
  | delete _ _, _ => []
  | tenants, _ => []
  | provision _, _ => []

/-- The answer complains of a missing table or a natural key that is taken, or shows records that
pass the checks. `absent` tells which tables are missing. -/
def Fitting (absent : String → Prop) (request : StoreRequest) :
    Except StoreError request.Result → Prop
  | .error e => (∃ tenant, request.tenant? = some tenant ∧ absent tenant ∧ e = .tableMissing tenant)
      ∨ ∃ key, e = .duplicateKey key
  | .ok result => ∀ record ∈ request.shown result, record.Storable

end StoreRequest

/-- The engine refuses nothing but a registration under a key that is taken. -/
def EngineRequest.Fitting : EngineRequest → Except EngineError Bool → Prop
  | .register key _ _, answer => ∀ e, answer = .error e → e = .alreadyExists key
  | _, answer => ∃ found, answer = .ok found

namespace Request

/-- The request brings only records that pass the checks and triggers that can be planned. -/
def Proper : Request → Prop
  | .store request => ∀ record ∈ request.given, record.Storable
  | .engine request => request.Plannable
  | _ => True

/-- The answer is one of a world that is fit. -/
def Fitting (absent : String → Prop) : (request : Request) → request.Answer → Prop
  | .store request, answer => request.Fitting absent answer
  | .engine request, answer => request.Fitting answer
  | .now, _ => True
  | .newId, _ => True

end Request

/-! ### Fit worlds -/

/-- The table is well-formed, and its records pass the checks. -/
structure TimerTable.Checked (table : TimerTable) : Prop where
  wellFormed : table.WellFormed
  prepared : ∀ row ∈ table, row.record.prepare = .ok row.record

namespace TimerTable.Checked

variable {table changed : TimerTable} {row : StoredTimer}

theorem storable (checked : table.Checked) (member : row ∈ table) : row.record.Storable :=
  ⟨⟨row.id, (StoredTimer.ofRecord_eq_ok_iff.mp (checked.wellFormed.own row member)).1⟩,
    checked.prepared row member⟩

/-- Whatever is selected passes the checks. -/
theorem storable_select (checked : table.Checked) {p : StoredTimer → Bool} {record : TimerRecord}
    (member : record ∈ table.select p) : record.Storable := by
  obtain ⟨row, stored, _, rfl⟩ := TimerTable.mem_select.mp member
  exact checked.storable stored

theorem erase (checked : table.Checked) (id : Uuid) : (table.erase id).Checked where
  wellFormed := checked.wellFormed.erase id
  prepared row member := checked.prepared row (List.mem_of_mem_filter member)

theorem insert (checked : table.Checked) (own : StoredTimer.ofRecord row.record = .ok row)
    (prepared : row.record.prepare = .ok row.record) (inserted : table.insert row = .ok changed) :
    changed.Checked where
  wellFormed := checked.wellFormed.insert own inserted
  prepared other member := by
    obtain ⟨rfl, _⟩ := insert_eq_ok_iff.mp inserted
    rcases mem_put member with rfl | ⟨stored, _⟩
    · exact prepared
    · exact checked.prepared other stored

theorem insertAll {rows : List StoredTimer} (checked : table.Checked)
    (own : ∀ row ∈ rows, StoredTimer.ofRecord row.record = .ok row)
    (prepared : ∀ row ∈ rows, row.record.prepare = .ok row.record)
    (inserted : table.insertAll rows = .ok changed) : changed.Checked := by
  induction rows generalizing table with
  | nil =>
    cases inserted
    exact checked
  | cons row rows ih =>
    unfold TimerTable.insertAll at inserted
    cases first : TimerTable.insert table row with
    | error e => simp [first, bind, Except.bind] at inserted
    | ok middle =>
      simp only [first, bind, Except.bind] at inserted
      exact ih (checked.insert (own row (by simp)) (prepared row (by simp)) first)
        (fun other member => own other (by simp [member]))
        (fun other member => prepared other (by simp [member])) inserted

end TimerTable.Checked

theorem TimerTable.insertAll_singleton (table : TimerTable) (row : StoredTimer) :
    table.insertAll [row] = table.insert row := by
  cases inserted : table.insert row <;> simp [insertAll, inserted, bind, Except.bind]

/-- The only complaint about rows is that a natural key is taken. -/
theorem TimerTable.duplicateKey_of_insertAll {table : TimerTable} {rows : List StoredTimer}
    {e : StoreError} (refused : table.insertAll rows = .error e) :
    ∃ key, e = .duplicateKey key := by
  induction rows generalizing table with
  | nil => cases refused
  | cons row rows ih =>
    unfold insertAll at refused
    cases first : insert table row with
    | error cause =>
      simp only [first, bind, Except.bind, Except.error.injEq] at refused
      unfold insert at first
      split at first
      · exact ⟨_, refused.symm.trans (Except.error.inj first).symm⟩
      · cases first
    | ok middle =>
      simp only [first, bind, Except.bind] at refused
      exact ih refused

namespace MemoryStore

/-- The tables are well-formed, and their records pass the checks; `absent` holds of the tenants
without a table. -/
structure Checked (absent : String → Prop) (store : MemoryStore) : Prop where
  tables : ∀ {tenant table}, store.table? tenant = some table → table.Checked
  absent : ∀ {tenant}, store.table? tenant = none → absent tenant

variable {absent : String → Prop} {store : MemoryStore} {tenant : String}

theorem Checked.read {α : Type} (checked : store.Checked absent) (tenant : String)
    (view : TimerTable → α) :
    (store.read tenant view).2 = store ∧ match (store.read tenant view).1 with
      | .error e => absent tenant ∧ e = .tableMissing tenant
      | .ok a => ∃ table : TimerTable, table.Checked ∧ a = view table := by
  unfold MemoryStore.read
  cases held : store.table? tenant with
  | none => exact ⟨rfl, checked.absent held, rfl⟩
  | some table => exact ⟨rfl, table, checked.tables held, rfl⟩

theorem Checked.setTable {changed : TimerTable} (checked : store.Checked absent)
    (good : changed.Checked) : (store.setTable tenant changed).Checked absent where
  tables := by
    intro other table held
    rw [table?_setTable] at held
    split at held
    · obtain ⟨_, _, rfl⟩ := Option.map_eq_some_iff.mp held
      exact good
    · exact checked.tables held
  absent := by
    intro other missing
    rw [table?_setTable] at missing
    split at missing
    next same => exact checked.absent (same ▸ Option.map_eq_none_iff.mp missing)
    next => exact checked.absent missing

theorem Checked.write {α : Type} (checked : store.Checked absent) (tenant : String)
    {change : TimerTable → Except StoreError (α × TimerTable)}
    (keeps : ∀ {table a changed}, table.Checked → change table = .ok (a, changed) →
      changed.Checked) :
    (store.write tenant change).2.Checked absent ∧ match (store.write tenant change).1 with
      | .error e => absent tenant ∧ e = .tableMissing tenant ∨ ∃ table, change table = .error e
      | .ok a => ∃ table changed, change table = .ok (a, changed) := by
  unfold MemoryStore.write
  cases held : store.table? tenant with
  | none => exact ⟨checked, .inl ⟨checked.absent held, rfl⟩⟩
  | some table =>
    dsimp only
    cases done : change table with
    | error e => exact ⟨checked, .inr ⟨table, done⟩⟩
    | ok result =>
      obtain ⟨a, changed⟩ := result
      exact ⟨checked.setTable (keeps (checked.tables held) done), table, changed, done⟩

theorem Checked.provision (checked : store.Checked absent) (tenant : String) :
    (store.provision tenant).Checked absent where
  tables := by
    intro other table held
    rw [table?_provision] at held
    split at held
    · obtain rfl := Option.some.inj held
      cases before : store.table? tenant with
      | none => exact ⟨TimerTable.wellFormed_nil, by simp⟩
      | some table => exact checked.tables before
    · exact checked.tables held
  absent := by
    intro other missing
    rw [table?_provision] at missing
    split at missing
    · cases missing
    · exact checked.absent missing

/-- An answer that only reads is fitting if it shows records of the table. -/
theorem Checked.fitting_read {request : StoreRequest} (checked : store.Checked absent)
    {view : TimerTable → request.Result} (about : request.tenant? = some tenant)
    (shows : ∀ table : TimerTable, table.Checked →
      ∀ record ∈ request.shown (view table), record.Storable)
    (reads : answer request store = store.read tenant view) :
    request.Fitting absent (answer request store).1 ∧ (answer request store).2.Checked absent := by
  obtain ⟨unchanged, answered⟩ := checked.read tenant view
  rw [reads, unchanged]
  refine ⟨?_, checked⟩
  cases given : (store.read tenant view).1 with
  | error e =>
    rw [given] at answered
    exact .inl ⟨tenant, about, answered.1, answered.2⟩
  | ok a =>
    rw [given] at answered
    obtain ⟨table, good, rfl⟩ := answered
    exact shows table good

/-- So is one that writes, if the table complains of nothing but natural keys. -/
theorem Checked.fitting_write {request : StoreRequest} (checked : store.Checked absent)
    {change : TimerTable → Except StoreError (request.Result × TimerTable)}
    (about : request.tenant? = some tenant)
    (keeps : ∀ {table a changed}, table.Checked → change table = .ok (a, changed) → changed.Checked)
    (refuses : ∀ {table e}, change table = .error e → ∃ key, e = .duplicateKey key)
    (shows : ∀ {table a changed}, change table = .ok (a, changed) →
      ∀ record ∈ request.shown a, record.Storable)
    (writes : answer request store = store.write tenant change) :
    request.Fitting absent (answer request store).1 ∧ (answer request store).2.Checked absent := by
  obtain ⟨kept, answered⟩ := checked.write tenant keeps
  rw [writes]
  refine ⟨?_, kept⟩
  cases given : (store.write tenant change).1 with
  | error e =>
    rw [given] at answered
    rcases answered with ⟨missing, same⟩ | ⟨table, refused⟩
    · exact .inl ⟨tenant, about, missing, same⟩
    · exact .inr (refuses refused)
  | ok a =>
    rw [given] at answered
    obtain ⟨table, changed, done⟩ := answered
    exact shows done

/-- Rows of records that pass the checks are put in, or a natural key is taken. -/
theorem Checked.fitting_insert {request : StoreRequest} (checked : store.Checked absent)
    {records : List TimerRecord} {rows : List StoredTimer} {result : request.Result}
    (about : request.tenant? = some tenant) (storable : ∀ record ∈ records, record.Storable)
    (kept : StoredTimer.ofRecords records = .ok rows) (shows : request.shown result = records)
    (writes : MemoryStore.answer request store = store.write tenant fun table =>
      (table.insertAll rows).map (result, ·)) :
    request.Fitting absent (answer request store).1 ∧ (answer request store).2.Checked absent := by
  have own := StoredTimer.own_of_forall₂ (StoredTimer.forall₂_of_ofRecords kept)
  refine checked.fitting_write about ?_ ?_ ?_ writes
  · intro table a changed good done
    cases inserted : table.insertAll rows with
    | error e => simp [inserted, Except.map] at done
    | ok other =>
      simp only [inserted, Except.map, Except.ok.injEq, Prod.mk.injEq] at done
      obtain ⟨_, rfl⟩ := done
      exact good.insertAll (fun row member => (own row member).2)
        (fun row member => (storable _ (own row member).1).prepared) inserted
  · intro table e refused
    cases inserted : table.insertAll rows with
    | error cause =>
      simp only [inserted, Except.map, Except.error.injEq] at refused
      exact TimerTable.duplicateKey_of_insertAll (refused ▸ inserted)
    | ok other => simp [inserted, Except.map] at refused
  · intro table a changed done
    cases inserted : table.insertAll rows with
    | error e => simp [inserted, Except.map] at done
    | ok other =>
      simp only [inserted, Except.map, Except.ok.injEq, Prod.mk.injEq] at done
      obtain ⟨rfl, _⟩ := done
      rw [shows]
      exact storable

/-- A store whose tables are checked gives fitting answers to proper requests, and keeps its tables
so. -/
theorem Checked.answer (checked : store.Checked absent) {request : StoreRequest}
    (proper : (Request.store request).Proper) :
    request.Fitting absent (answer request store).1 ∧
    (MemoryStore.answer request store).2.Checked absent := by
  cases request with
  | findById tenant id =>
    refine checked.fitting_read rfl (fun table good record member => ?_) rfl
    obtain ⟨row, found, rfl⟩ := Option.map_eq_some_iff.mp (Option.mem_toList.mp member)
    exact good.storable (TimerTable.mem_of_row? found)
  | findByNaturalKey tenant key =>
    refine checked.fitting_read rfl (fun table good record member => ?_) rfl
    have listed : record ∈ table.select (·.naturalKey == key) :=
      List.mem_of_mem_head? (Option.mem_toList.mp member)
    exact good.storable_select listed
  | findByModuleAndKind tenant name kind =>
    exact checked.fitting_read rfl (fun _ good _ => good.storable_select) rfl
  | findByModuleAndEnabled tenant name enabled =>
    exact checked.fitting_read rfl (fun _ good _ => good.storable_select) rfl
  | page tenant offset limit =>
    refine checked.fitting_read rfl (fun table good record member => ?_) rfl
    exact good.storable_select (List.mem_of_mem_drop (List.mem_of_mem_take member))
  | list tenant => exact checked.fitting_read rfl (fun _ good _ => good.storable_select) rfl
  | save tenant record =>
    obtain ⟨row, kept⟩ := (proper record (List.mem_singleton_self record)).exists_row
    have together : StoredTimer.ofRecords [record] = .ok [row] := by
      simp [StoredTimer.ofRecords, kept, bind, Except.bind, pure, Except.pure]
    refine checked.fitting_insert rfl proper together rfl ?_
    simp only [MemoryStore.answer, kept, TimerTable.insertAll_singleton]
  | saveAll tenant records =>
    have storable : ∀ record ∈ records, record.Storable := proper
    obtain ⟨rows, kept⟩ := StoredTimer.exists_ofRecords fun record member =>
      (storable record member).exists_row
    refine checked.fitting_insert rfl storable kept rfl ?_
    simp only [MemoryStore.answer, kept]
  | delete tenant id =>
    have writes : MemoryStore.answer (.delete tenant id) store = store.write tenant fun table =>
      .ok ((table.row? id).isSome, table.erase id) := rfl
    refine checked.fitting_write rfl ?_ ?_ ?_ writes
    · intro table a changed good done
      obtain ⟨_, rfl⟩ := Prod.mk.inj (Except.ok.inj done)
      exact good.erase id
    · intro table e refused
      cases refused
    · intro table a changed done record member
      cases member
  | tenants =>
    refine ⟨?_, checked⟩
    intro record member
    cases member
  | provision tenant =>
    refine ⟨?_, checked.provision tenant⟩
    intro record member
    cases member

end MemoryStore

/-- A steady engine gives fitting answers to requests that can be planned. -/
theorem SteadyEngine.fitting {ε : Type} [SteadyEngine ε] {engine : ε} {request : EngineRequest}
    (steady : SteadyEngine.Steady engine) (plannable : request.Plannable) :
    request.Fitting (SchedulingEngine.answer request engine).1 := by
  have performed := congrArg Prod.fst (SteadyEngine.performs steady plannable)
  simp only at performed
  rw [performed]
  cases request with
  | register key trigger data =>
    intro e refused
    cases held : JobEngine.roster engine key with
    | none => simp [Roster.answer, held] at refused
    | some job => simpa [Roster.answer, held, eq_comm] using refused
  | replace key trigger =>
    cases held : JobEngine.roster engine key <;> simp [EngineRequest.Fitting, Roster.answer, held]
  | remove key => exact ⟨_, rfl⟩

variable {ε : Type} [SteadyEngine ε] {δ η α β : Type} {absent missing : String → Prop}

/-- The store's tables are checked, and the engine is steady. -/
structure World.Fit (absent : String → Prop) (world : World MemoryStore ε) : Prop where
  checked : world.store.Checked absent
  steady : SteadyEngine.Steady world.engine

/-- A fit world gives fitting answers to proper requests, and stays fit. -/
theorem World.Fit.answer {world : World MemoryStore ε} (fit : world.Fit absent) {request : Request}
    (proper : request.Proper) :
    request.Fitting absent (world.answer request).1 ∧ (world.answer request).2.Fit absent := by
  cases request with
  | store request =>
    obtain ⟨fitting, checked⟩ := fit.checked.answer proper
    exact ⟨fitting, checked, fit.steady⟩
  | engine request =>
    exact ⟨SteadyEngine.fitting fit.steady proper, fit.checked,
      SteadyEngine.steady_answer fit.steady⟩
  | now => exact ⟨trivial, fit.checked, fit.steady⟩
  | newId => exact ⟨trivial, fit.checked, fit.steady⟩

/-! ### Procedures -/

namespace Procedure

/-- As long as the answers are fitting, the procedure makes proper requests and fails only with such
errors. -/
inductive FailsOnly (absent : String → Prop) (expected : δ → Prop) : Procedure δ α → Prop where
  | done (a : α) : FailsOnly absent expected (.done a)
  | fail {e : δ} (right : expected e) : FailsOnly absent expected (.fail e)
  | ask {request : Request} {next : request.Answer → Procedure δ α} (proper : request.Proper)
      (rest : ∀ answer, request.Fitting absent answer → FailsOnly absent expected (next answer)) :
      FailsOnly absent expected (.ask request next)

namespace FailsOnly

variable {expected : δ → Prop} {p : Procedure δ α}

/-- Such a procedure fails with such an error in a fit world, and leaves it fit. -/
theorem run (only : p.FailsOnly absent expected) {world : World MemoryStore ε}
    (fit : world.Fit absent) :
    (∀ e, (world.run p).1 = .error e → expected e) ∧ (world.run p).2.Fit absent := by
  induction only generalizing world with
  | done a => exact ⟨fun e failed => absurd failed (by simp [World.run]), fit⟩
  | fail right =>
    refine ⟨fun e failed => ?_, fit⟩
    exact Except.error.inj failed ▸ right
  | ask proper _ ih =>
    obtain ⟨fitting, after⟩ := fit.answer proper
    exact ih _ fitting after

theorem bind {f : α → Procedure δ β} (first : p.FailsOnly absent expected)
    (rest : ∀ a, (f a).FailsOnly absent expected) : (p >>= f).FailsOnly absent expected := by
  induction first with
  | done a => exact rest a
  | fail right => exact .fail right
  | ask proper _ ih => exact .ask proper ih

theorem mapError {other : η → Prop} {f : δ → η} (inner : p.FailsOnly absent expected)
    (maps : ∀ e, expected e → other (f e)) : (p.mapError f).FailsOnly absent other := by
  induction inner with
  | done a => exact .done a
  | fail right => exact .fail (maps _ right)
  | ask proper _ ih => exact .ask proper ih

/-- What follows an attempt sees a value, or an error of the procedure. -/
theorem attempt_bind {other : η → Prop} {f : Except δ α → Procedure η β}
    (inner : p.FailsOnly absent expected) (ok : ∀ a, (f (.ok a)).FailsOnly absent other)
    (error : ∀ e, expected e → (f (.error e)).FailsOnly absent other) :
    (p.attempt >>= f).FailsOnly absent other := by
  induction inner with
  | done a => exact ok a
  | fail right => exact error _ right
  | ask proper _ ih => exact .ask proper ih

/-- What goes on with a value that is at hand goes on only if it is one. -/
theorem ofExcept_bind {f : η → δ} {result : Except η α} {next : α → Procedure δ β}
    (right : ∀ e, result = .error e → expected (f e))
    (rest : ∀ a, result = .ok a → (next a).FailsOnly absent expected) :
    (Procedure.ofExcept f result >>= next).FailsOnly absent expected := by
  cases result with
  | ok a => exact rest a rfl
  | error e => exact .fail (right e rfl)

end FailsOnly

end Procedure

namespace Reconcile

variable {ctx : Context} {record old new : TimerRecord}

theorem schedule_failsOnly (storable : record.Storable) :
    (schedule ctx record).FailsOnly absent fun _ => False := by
  obtain ⟨id, named⟩ := storable.named
  unfold schedule
  split
  · exact .done _
  · rename_i active
    obtain ⟨trigger, computed⟩ :=
      (TimerRecord.schedulable_of_prepare storable.prepared).exists_trigger (by simpa using active)
    simp only [named, computed]
    refine .ask (TimerRecord.plan_of_trigger computed _) fun answer fitting => ?_
    cases answer with
    | ok found => exact .done _
    | error e =>
      obtain rfl := fitting e rfl
      exact .done _

theorem unschedule_failsOnly (storable : record.Storable) :
    (unschedule record).FailsOnly absent fun _ => False := by
  obtain ⟨id, named⟩ := storable.named
  unfold unschedule
  split
  · exact .done _
  · simp only [TimerRecord.jobKey?, named, Option.map_some]
    refine .ask trivial fun answer fitting => ?_
    obtain ⟨found, rfl⟩ := fitting
    exact .done _

theorem replace_failsOnly (storable : record.Storable) (active : record.isActive = true) :
    (replace ctx record).FailsOnly absent fun _ => False := by
  obtain ⟨id, named⟩ := storable.named
  obtain ⟨trigger, computed⟩ :=
    (TimerRecord.schedulable_of_prepare storable.prepared).exists_trigger active
  unfold replace
  simp only [TimerRecord.jobKey?, named, Option.map_some, computed]
  refine .ask (TimerRecord.plan_of_trigger computed _) fun answer fitting => ?_
  obtain ⟨found, rfl⟩ := fitting
  cases found with
  | true => exact .done _
  | false => exact (schedule_failsOnly storable).bind fun _ => .done _

theorem reschedule_failsOnly (before : old.Storable) (storable : new.Storable) :
    (reschedule ctx old new).FailsOnly absent fun _ => False := by
  unfold reschedule
  split
  · exact .done _
  · exact unschedule_failsOnly before
  · exact (schedule_failsOnly storable).bind fun _ => .done _
  · rename_i active
    split
    · exact .done _
    · exact replace_failsOnly storable active

theorem rebuild_failsOnly {expected : δ → Prop} {records : List TimerRecord}
    (storable : ∀ record ∈ records, record.Storable) :
    (rebuild ctx records).FailsOnly absent expected := by
  induction records with
  | nil => exact .done _
  | cons record records ih =>
    have others := ih fun other member => storable other (List.mem_cons_of_mem _ member)
    refine (schedule_failsOnly (storable record List.mem_cons_self)).attempt_bind
      (fun registered => ?_) fun e impossible => impossible.elim
    refine others.bind fun count => ?_
    split <;> exact .done _

end Reconcile

namespace Registry

variable {ctx : Context}

/-- Bringing the engine in line does not fail. -/
theorem reconcile_failsOnly {step : Procedure TriggerError α} {expected : RegistryError → Prop}
    (inner : step.FailsOnly absent fun _ => False) : (reconcile step).FailsOnly absent expected :=
  inner.mapError fun _ impossible => impossible.elim

/-- A request to the store fails for expected reasons, and goes on with records that pass the
checks. -/
theorem ask_bind_failsOnly {request : StoreRequest} {next : request.Result → Operation β}
    (known : ∀ tenant, request.tenant? = some tenant → absent tenant → missing tenant)
    (proper : ∀ record ∈ request.given, record.Storable)
    (rest : ∀ result, (∀ record ∈ request.shown result, record.Storable) →
      (next result).FailsOnly absent (RegistryError.IsExpected missing)) :
    (ask request >>= next).FailsOnly absent (RegistryError.IsExpected missing) := by
  refine .ask proper fun answer fitting => ?_
  cases answer with
  | ok result => exact rest result fitting
  | error e =>
    rcases fitting with ⟨tenant, about, gone, rfl⟩ | ⟨key, rfl⟩
    · exact .fail (.tableMissing (known tenant about gone))
    · exact .fail (.duplicateKey key)

section Tenant

variable (known : absent ctx.tenant → missing ctx.tenant)
include known

/-- A request about the tenant's own table. -/
theorem ask_own_bind_failsOnly {request : StoreRequest} {next : request.Result → Operation β}
    (about : request.tenant? = some ctx.tenant) (proper : ∀ record ∈ request.given, record.Storable)
    (rest : ∀ result, (∀ record ∈ request.shown result, record.Storable) →
      (next result).FailsOnly absent (RegistryError.IsExpected missing)) :
    (ask request >>= next).FailsOnly absent (RegistryError.IsExpected missing) := by
  refine ask_bind_failsOnly (fun tenant same gone => ?_) proper rest
  obtain rfl := Option.some.inj (about.symm.trans same)
  exact known gone

/-- Storing a version of a record, and bringing the engine in line with it. -/
theorem save_failsOnly {saved : TimerRecord} {step : TimerRecord → Procedure TriggerError β}
    (storable : saved.Storable)
    (follows : ∀ version : TimerRecord, version.Storable →
      (step version).FailsOnly absent fun _ => False) :
    (ask (.save ctx.tenant saved) >>= fun version => reconcile (step version) >>= fun _ =>
      .done version).FailsOnly absent (RegistryError.IsExpected missing) := by
  refine ask_own_bind_failsOnly known rfl (fun record member => ?_) fun version shown => ?_
  · exact List.mem_singleton.mp member ▸ storable
  · exact (reconcile_failsOnly
      (follows version (shown version (List.mem_singleton_self version)))).bind fun _ => .done _

theorem applyUpdate_failsOnly {existing input : TimerRecord} (before : existing.Storable)
    (storable : input.Storable) :
    (applyUpdate ctx existing input).FailsOnly absent (RegistryError.IsExpected missing) := by
  refine .ask trivial fun now _ => save_failsOnly known ?_ fun version shown =>
    Reconcile.reschedule_failsOnly before shown
  exact TimerRecord.storable_of_redeclares storable.named storable.prepared ⟨rfl, rfl, rfl, rfl⟩

theorem insert_failsOnly {input : TimerRecord} (prepared : input.prepare = .ok input) :
    (insert ctx input).FailsOnly absent (RegistryError.IsExpected missing) := by
  have saves : ∀ (now : Instant) (id : Uuid), (ask (.save ctx.tenant { input with
      id := some id, metadata := some ⟨some now, ctx.user, some now, ctx.user⟩ }) >>= fun saved =>
      reconcile (Reconcile.schedule ctx saved) >>= fun _ => .done saved).FailsOnly absent
      (RegistryError.IsExpected missing) := fun now id =>
    save_failsOnly known
      (TimerRecord.storable_of_redeclares ⟨id, rfl⟩ prepared ⟨rfl, rfl, rfl, rfl⟩)
      fun version shown => Reconcile.schedule_failsOnly shown
  refine .ask trivial fun now _ => ?_
  cases given : input.id with
  | some id => exact saves now id
  | none => exact .ask trivial fun id _ => saves now id

theorem refuseTaken_failsOnly (given : Option Uuid) :
    (refuseTaken ctx given).FailsOnly absent (RegistryError.IsExpected missing) := by
  cases given with
  | none => exact .done _
  | some id =>
    refine ask_own_bind_failsOnly known rfl (by simp [StoreRequest.given]) fun found _ => ?_
    cases found with
    | some record => exact .fail (.alreadyExists _)
    | none => exact .done _

theorem create_failsOnly (input : TimerRecord) :
    (create ctx input).FailsOnly absent (RegistryError.IsExpected missing) := by
  refine (refuseTaken_failsOnly known input.id).bind fun _ =>
    .ofExcept_bind ?_ fun record prepared => ?_
  · intro e refused
    obtain ⟨cause, rfl⟩ := TimerRecord.exists_validation_of_prepare refused
    exact .validation cause
  refine .ofExcept_bind (fun e _ => .validation _) fun key _ => ?_
  refine ask_own_bind_failsOnly known rfl (by simp [StoreRequest.given]) fun found shown => ?_
  have again := TimerRecord.prepare_idem prepared
  cases found with
  | none => exact insert_failsOnly known again
  | some existing =>
    have before : existing.Storable := shown existing (by simp [StoreRequest.shown])
    obtain ⟨id, named⟩ := before.named
    simp only [named]
    exact applyUpdate_failsOnly known before
      (TimerRecord.storable_of_redeclares ⟨id, rfl⟩ again ⟨rfl, rfl, rfl, rfl⟩)

theorem update_failsOnly (id : Uuid) (input : TimerRecord) :
    (update ctx id input).FailsOnly absent (RegistryError.IsExpected missing) := by
  unfold update
  split
  · exact .fail (.validation _)
  rename_i matching
  refine .ofExcept_bind ?_ fun record prepared => ?_
  · intro e refused
    obtain ⟨cause, rfl⟩ := TimerRecord.exists_validation_of_prepare refused
    exact .validation cause
  refine ask_own_bind_failsOnly known rfl (by simp [StoreRequest.given]) fun found shown => ?_
  cases found with
  | none => exact .fail (.notFound id)
  | some existing =>
    have named : record.id = some id :=
      (TimerRecord.id_of_prepare prepared).trans (by simpa using matching)
    exact applyUpdate_failsOnly known (shown existing (by simp [StoreRequest.shown]))
      ⟨⟨id, named⟩, TimerRecord.prepare_idem prepared⟩

theorem delete_failsOnly (id : Uuid) :
    (delete ctx id).FailsOnly absent (RegistryError.IsExpected missing) := by
  refine ask_own_bind_failsOnly known rfl (by simp [StoreRequest.given]) fun found shown => ?_
  cases found with
  | none => exact .done _
  | some existing =>
    refine ask_own_bind_failsOnly known rfl (by simp [StoreRequest.given]) fun _ _ => ?_
    exact reconcile_failsOnly
      (Reconcile.unschedule_failsOnly (shown existing (by simp [StoreRequest.shown])))

theorem deleteEach_failsOnly (records : List TimerRecord) :
    (deleteEach ctx records).FailsOnly absent (RegistryError.IsExpected missing) := by
  induction records with
  | nil => exact .done _
  | cons record records ih =>
    unfold deleteEach
    split
    · exact ih
    · exact (delete_failsOnly known _).bind fun _ => ih.bind fun _ => .done _

theorem deleteAll_failsOnly : (deleteAll ctx).FailsOnly absent (RegistryError.IsExpected missing) :=
  ask_own_bind_failsOnly known rfl (by simp [StoreRequest.given]) fun records _ =>
    deleteEach_failsOnly known records

omit known in
theorem scheduleEach_failsOnly {expected : RegistryError → Prop} {records : List TimerRecord}
    (storable : ∀ record ∈ records, record.Storable) :
    (scheduleEach ctx records).FailsOnly absent expected := by
  induction records with
  | nil => exact .done _
  | cons record records ih =>
    have others := ih fun other member => storable other (List.mem_cons_of_mem _ member)
    exact (reconcile_failsOnly
      (Reconcile.schedule_failsOnly (storable record List.mem_cons_self))).bind fun _ => others

omit known in
theorem unscheduleEach_failsOnly {expected : RegistryError → Prop} {records : List TimerRecord}
    (storable : ∀ record ∈ records, record.Storable) :
    (unscheduleEach records).FailsOnly absent expected := by
  induction records with
  | nil => exact .done _
  | cons record records ih =>
    have others := ih fun other member => storable other (List.mem_cons_of_mem _ member)
    exact (reconcile_failsOnly
      (Reconcile.unschedule_failsOnly (storable record List.mem_cons_self))).bind fun _ => others

theorem switchModule_failsOnly (moduleName : String) (enable : Bool) :
    (switchModule ctx moduleName enable).FailsOnly absent (RegistryError.IsExpected missing) := by
  refine ask_own_bind_failsOnly known rfl (by simp [StoreRequest.given]) fun found shown => ?_
  dsimp only
  have listed : ∀ record ∈ found.filter (·.kind == some .system), record.Storable :=
    fun record member => shown record (List.mem_of_mem_filter member)
  generalize found.filter (·.kind == some .system) = mismatched at listed
  split
  · exact .done _
  refine .ask trivial fun now _ => ?_
  refine ask_own_bind_failsOnly known rfl (fun record member => ?_) fun saved flipped => ?_
  · obtain ⟨old, stored, rfl⟩ := List.mem_map.mp member
    obtain ⟨named, prepared⟩ := listed old stored
    exact TimerRecord.storable_of_redeclares named prepared ⟨rfl, rfl, rfl, rfl⟩
  · split
    · exact (scheduleEach_failsOnly flipped).bind fun _ => .done _
    · exact (unscheduleEach_failsOnly listed).bind fun _ => .done _

theorem findById_failsOnly (id : Uuid) :
    (findById ctx id).FailsOnly absent (RegistryError.IsExpected missing) := by
  refine ask_own_bind_failsOnly known rfl (by simp [StoreRequest.given]) fun found _ => ?_
  cases found with
  | none => exact .fail (.notFound id)
  | some record => exact .done record

/-- A reading of the tenant's table. -/
theorem ask_own_failsOnly {request : StoreRequest} (about : request.tenant? = some ctx.tenant)
    (nothing : request.given = []) :
    (ask request).FailsOnly absent (RegistryError.IsExpected missing) := by
  have whole := ask_own_bind_failsOnly known about (by simp [nothing]) fun result _ => .done result
  rwa [show (ask request >>= fun result => .done result) = ask request from Procedure.bind_done _]
    at whole

theorem initTenant_failsOnly :
    (initTenant ctx).FailsOnly absent (RegistryError.IsExpected missing) := by
  refine ask_own_bind_failsOnly known rfl (by simp [StoreRequest.given]) fun _ _ => ?_
  exact ask_own_bind_failsOnly known rfl (by simp [StoreRequest.given]) fun records shown =>
    Reconcile.rebuild_failsOnly shown

end Tenant

theorem rebuildTenants_failsOnly (known : ∀ tenant, absent tenant → missing tenant)
    (names : List String) :
    (rebuildTenants names).FailsOnly absent (RegistryError.IsExpected missing) := by
  induction names with
  | nil => exact .done _
  | cons name names ih =>
    unfold rebuildTenants
    split
    · exact ih
    · refine ask_bind_failsOnly (fun tenant _ => known tenant) (by simp [StoreRequest.given])
        fun records shown => ?_
      exact (Reconcile.rebuild_failsOnly shown).bind fun _ => ih.bind fun _ => .done _

theorem rebuildAll_failsOnly (known : ∀ tenant, absent tenant → missing tenant) :
    rebuildAll.FailsOnly absent (RegistryError.IsExpected missing) :=
  ask_bind_failsOnly (fun tenant _ => known tenant) (by simp [StoreRequest.given]) fun names _ =>
    rebuildTenants_failsOnly known names

end Registry

namespace Sync

variable {ctx : Context}

/-- A value that has to be there is at hand, or the event is invalid. -/
theorem required_bind_failsOnly {field : String} {value : Option ModuleTimers}
    {next : ModuleTimers → Operation β}
    (rest : ∀ given, value = some given →
      (next given).FailsOnly absent (SyncError.IsExpected missing)) :
    (required field value >>= next).FailsOnly absent (SyncError.IsExpected missing) := by
  cases value with
  | none => exact .fail (.invalidEvent _)
  | some given => exact rest given rfl

theorem onRegistry_failsOnly {operation : Registry.Operation α}
    (inner : operation.FailsOnly absent (RegistryError.IsExpected missing)) :
    (onRegistry operation).FailsOnly absent (SyncError.IsExpected missing) :=
  inner.mapError fun _ expected => .registry expected

theorem skipTableMissing_failsOnly {operation : Operation Nat}
    (inner : operation.FailsOnly absent (SyncError.IsExpected missing)) :
    (skipTableMissing operation).FailsOnly absent (SyncError.IsExpected missing) := by
  refine inner.attempt_bind (fun n => .done n) fun e expected => ?_
  dsimp only
  split
  · exact .done _
  · exact .fail expected

section Tenant

variable (known : absent ctx.tenant → missing ctx.tenant)
include known

theorem createTimers_failsOnly (m : ModuleTimers) :
    (createTimers ctx m).FailsOnly absent (SyncError.IsExpected missing) := by
  have each : ∀ entries : List RoutingEntry,
      (createEach ctx m.moduleId entries).FailsOnly absent (SyncError.IsExpected missing) := by
    intro entries
    induction entries with
    | nil => exact .done _
    | cons entry entries ih =>
      exact (onRegistry_failsOnly (Registry.create_failsOnly known _)).bind fun _ => ih
  exact (each m.timers).bind fun _ => .done _

theorem deleteTimers_failsOnly (moduleName : String) :
    (deleteTimers ctx moduleName).FailsOnly absent (SyncError.IsExpected missing) := by
  refine onRegistry_failsOnly ?_
  exact (Registry.ask_own_failsOnly known rfl rfl).bind fun records =>
    Registry.deleteEach_failsOnly known records

theorem update_failsOnly (old : Option ModuleTimers) (new : ModuleTimers) :
    (update ctx old new).FailsOnly absent (SyncError.IsExpected missing) := by
  refine .ofExcept_bind (fun e _ => .invalidEvent _) fun name _ => ?_
  refine (deleteTimers_failsOnly known name).attempt_bind
    (fun _ => createTimers_failsOnly known new) fun e expected => ?_
  dsimp only
  split
  · exact .done _
  · exact .fail expected

end Tenant

theorem resource_failsOnly {event : ResourceEvent}
    (known : absent event.tenant → missing event.tenant) :
    (resource event).FailsOnly absent (SyncError.IsExpected missing) := by
  refine .ofExcept_bind (fun e _ => .invalidEvent _) fun ctx made => ?_
  obtain ⟨_, rfl⟩ := contextOf_of_ofTenant made
  split
  · exact required_bind_failsOnly fun new _ => createTimers_failsOnly known new
  · exact required_bind_failsOnly fun new _ => update_failsOnly known event.oldValue new
  · split
    · exact .fail (.invalidEvent _)
    · exact .ofExcept_bind (fun e _ => .invalidEvent _) fun name _ =>
        skipTableMissing_failsOnly (deleteTimers_failsOnly known name)

theorem entitlement_failsOnly {event : EntitlementEvent}
    (known : absent event.tenant → missing event.tenant) :
    (entitlement event).FailsOnly absent (SyncError.IsExpected missing) := by
  refine .ofExcept_bind (fun e _ => .invalidEvent _) fun ctx made => ?_
  obtain ⟨_, rfl⟩ := contextOf_of_ofTenant made
  exact .ofExcept_bind (fun e _ => .invalidEvent _) fun name _ =>
    skipTableMissing_failsOnly (onRegistry_failsOnly (Registry.switchModule_failsOnly known name _))

theorem apply_failsOnly {event : TimerEvent} (known : absent event.tenant → missing event.tenant) :
    (apply event).FailsOnly absent (SyncError.IsExpected missing) := by
  cases event with
  | moduleResource event => exact resource_failsOnly known
  | entitlement event => exact entitlement_failsOnly known

end Sync

end Horarium
