/-
Module: Horarium.Proofs.KeyedTables
Purpose: Histories of the store in memory. Whatever it has been asked for since it was empty, every
  tenant has one table, the rows are found by their keys, no two rows share one, and a batch is
  nothing but its records saved one after the other, done as a whole or not at all.
Trusted boundary: none
Main exports: MemoryStore.Tidy, MemoryStore.after, MemoryStore.KeyedTable, MemoryStore.Keyed,
  MemoryStore.after_keyed
-/
import Horarium.Proofs.StoredRecords

namespace Horarium

/-- A row whose natural key is that of a row under another id is refused. -/
theorem TimerTable.insert_of_clash {table : TimerTable} {row : StoredTimer}
    (clash : ∃ old ∈ table, old.id ≠ row.id ∧ old.naturalKey = row.naturalKey) :
    table.insert row = .error (.duplicateKey row.naturalKey) := by
  obtain ⟨old, member, apart, same⟩ := clash
  have found : (table.any fun old => old.id != row.id && old.naturalKey == row.naturalKey) = true :=
    List.any_eq_true.mpr ⟨old, member, by simp [apart, same]⟩
  rw [insert, if_pos found]

namespace MemoryStore

variable {store : MemoryStore} {tenant : String} {table : TimerTable}

/-! ### Steps -/

/-- What the store answers to a request and what becomes of it: nothing, unless the table that the
request is about gets other rows, or its tenant gets a table. -/
inductive Answers (store : MemoryStore) (request : StoreRequest) :
    Except StoreError request.Result → MemoryStore → Prop where
  | refused (error : StoreError) : Answers store request (.error error) store
  | kept (result : request.Result) : Answers store request (.ok result) store
  | rewritten {tenant : String} {table changed : TimerTable} (result : request.Result)
      (about : request.tenant? = some tenant) (held : store.table? tenant = some table)
      (good : table.WellFormed → changed.WellFormed) :
      Answers store request (.ok result) (store.setTable tenant changed)
  | founded {tenant : String} (result : request.Result) (about : request.tenant? = some tenant)
      (missing : store.table? tenant = none) :
      Answers store request (.ok result) (store.provision tenant)

theorem answers_read {request : StoreRequest} (store : MemoryStore) (tenant : String)
    (view : TimerTable → request.Result) :
    store.Answers request (store.read tenant view).1 (store.read tenant view).2 := by
  unfold read
  cases store.table? tenant with
  | none => exact .refused _
  | some table => exact .kept _

theorem answers_write {request : StoreRequest} (store : MemoryStore)
    (about : request.tenant? = some tenant)
    {change : TimerTable → Except StoreError (request.Result × TimerTable)}
    (good : ∀ {table result changed}, change table = .ok (result, changed) → table.WellFormed →
      changed.WellFormed) :
    store.Answers request (store.write tenant change).1 (store.write tenant change).2 := by
  unfold write
  cases held : store.table? tenant with
  | none => exact .refused _
  | some table =>
    dsimp only
    cases done : change table with
    | error e => exact .refused e
    | ok changed => exact .rewritten changed.1 about held (good done)

theorem answers (store : MemoryStore) (request : StoreRequest) :
    store.Answers request (answer request store).1 (answer request store).2 := by
  cases request with
  | findById | findByNaturalKey | findByModuleAndKind | findByModuleAndEnabled | page | list =>
    exact answers_read store _ _
  | tenants => exact .kept _
  | delete tenant id =>
    refine answers_write store rfl fun done good => ?_
    cases done
    exact good.erase id
  | save tenant record =>
    cases own : StoredTimer.ofRecord record with
    | error e =>
      simp only [answer, own]
      exact .refused e
    | ok row =>
      simp only [answer, own]
      refine answers_write store rfl fun {table result changed} done good => ?_
      cases inserted : table.insert row with
      | error e => simp [inserted, Except.map] at done
      | ok other =>
        simp only [inserted, Except.map, Except.ok.injEq, Prod.mk.injEq] at done
        have kept := (StoredTimer.ofRecord_eq_ok_iff.mp own).2.2
        exact done.2 ▸ good.insert (kept.symm ▸ own) inserted
  | saveAll tenant records =>
    cases own : StoredTimer.ofRecords records with
    | error e =>
      simp only [answer, own]
      exact .refused e
    | ok rows =>
      simp only [answer, own]
      refine answers_write store rfl fun {table result changed} done good => ?_
      cases inserted : table.insertAll rows with
      | error e => simp [inserted, Except.map] at done
      | ok other =>
        simp only [inserted, Except.map, Except.ok.injEq, Prod.mk.injEq] at done
        have rowsOwn := StoredTimer.own_of_forall₂ (StoredTimer.forall₂_of_ofRecords own)
        exact done.2 ▸ good.insertAll (fun row member => (rowsOwn row member).2) inserted
  | provision tenant =>
    cases held : store.table? tenant with
    | none => exact .founded _ rfl held
    | some table =>
      simp only [answer, provision, held]
      exact .kept _

namespace Answers

variable {request : StoreRequest} {result : Except StoreError request.Result} {after : MemoryStore}

/-- A request that fails changes nothing. -/
theorem unchanged {error : StoreError} (answers : store.Answers request (.error error) after) :
    after = store := by
  cases answers
  rfl

/-- A request leaves the tables alone that it is not about. -/
theorem elsewhere {other : String} (answers : store.Answers request result after)
    (apart : request.tenant? ≠ some other) : after.table? other = store.table? other := by
  cases answers with
  | refused | kept => rfl
  | @rewritten tenant _ _ _ about =>
    have elsewhere : tenant ≠ other := fun same => apart (same ▸ about)
    rw [table?_setTable, if_neg elsewhere]
  | @founded tenant _ about =>
    have elsewhere : tenant ≠ other := fun same => apart (same ▸ about)
    rw [table?_provision, if_neg elsewhere]

end Answers

/-! ### Histories -/

/-- Every tenant that has a table has one, and every table is in good order. -/
structure Tidy (store : MemoryStore) : Prop where
  tenants : (store.tables.map (·.1)).Nodup
  wellFormed : store.WellFormed

theorem tenants_setTable (store : MemoryStore) (tenant : String) (table : TimerTable) :
    (store.setTable tenant table).tables.map (·.1) = store.tables.map (·.1) := by
  unfold setTable
  rw [List.map_map]
  refine List.map_congr_left fun entry _ => ?_
  dsimp only [Function.comp]
  split <;> rfl

theorem tables_provision (missing : store.table? tenant = none) :
    (store.provision tenant).tables = store.tables ++ [(tenant, [])] := by
  simp [provision, missing]

theorem notMem_tenants (missing : store.table? tenant = none) :
    tenant ∉ store.tables.map (·.1) := by
  intro member
  obtain ⟨entry, held, rfl⟩ := List.mem_map.mp member
  exact absurd (List.lookup_eq_none_iff.mp missing entry held) (by simp)

/-- Where every tenant has one table, each is found under its tenant. -/
theorem Tidy.table?_of_mem (tidy : store.Tidy) (member : (tenant, table) ∈ store.tables) :
    store.table? tenant = some table := by
  cases found : store.table? tenant with
  | none => exact absurd (List.mem_map.mpr ⟨_, member, rfl⟩) (notMem_tenants found)
  | some other =>
    have same := List.inj_on_of_nodup_map tidy.tenants (mem_tables_of_table? found) member rfl
    rw [(Prod.mk.inj same).2]

theorem Tidy.empty : Tidy .empty :=
  ⟨List.nodup_nil, fun _ _ held => by cases held⟩

/-- A request leaves the tables in good order. -/
theorem Tidy.answers {after : MemoryStore} {request : StoreRequest}
    {result : Except StoreError request.Result} (tidy : store.Tidy)
    (answers : store.Answers request result after) : after.Tidy := by
  cases answers with
  | refused | kept => exact tidy
  | rewritten _ _ held good =>
    exact ⟨tenants_setTable store _ _ ▸ tidy.tenants,
      (within_setTable held good).wellFormed tidy.wellFormed⟩
  | @founded tenant _ _ missing =>
    refine ⟨?_, tidy.wellFormed.provision tenant⟩
    rw [tables_provision missing, List.map_append, List.nodup_append]
    refine ⟨tidy.tenants, by simp, ?_⟩
    rintro name member _ added rfl
    obtain rfl := List.mem_singleton.mp added
    exact notMem_tenants missing member

/-- The store after requests, one after the other, whatever is answered. -/
def after (store : MemoryStore) (requests : List StoreRequest) : MemoryStore :=
  requests.foldl (fun store request => (answer request store).2) store

theorem Tidy.after (tidy : store.Tidy) (requests : List StoreRequest) :
    (store.after requests).Tidy := by
  induction requests generalizing store with
  | nil => exact tidy
  | cons request requests ih => exact ih (tidy.answers (store.answers request))

/-! ### Batches -/

/-- The answer to a request for other rows in the place of a table: they take it, or the store is as
it was. -/
def rewritten {α : Type} (store : MemoryStore) (tenant : String) (result : α) :
    Except StoreError TimerTable → Except StoreError α × MemoryStore
  | .error e => (.error e, store)
  | .ok changed => (.ok result, store.setTable tenant changed)

theorem answer_save_of_table? (held : store.table? tenant = some table) (record : TimerRecord) :
    answer (.save tenant record) store =
      store.rewritten tenant record ((StoredTimer.ofRecord record).bind table.insert) := by
  cases own : StoredTimer.ofRecord record with
  | error e => simp [answer, own, rewritten, Except.bind]
  | ok row =>
    cases inserted : table.insert row <;>
      simp [answer, own, write, held, inserted, rewritten, Except.bind, Except.map]

theorem answer_saveAll_of_table? (held : store.table? tenant = some table)
    (records : List TimerRecord) :
    answer (.saveAll tenant records) store =
      store.rewritten tenant records ((StoredTimer.ofRecords records).bind table.insertAll) := by
  cases own : StoredTimer.ofRecords records with
  | error e => simp [answer, own, rewritten, Except.bind]
  | ok rows =>
    cases inserted : table.insertAll rows <;>
      simp [answer, own, write, held, inserted, rewritten, Except.bind, Except.map]

/-- Saving records one after the other: the store after the last, unless a save fails. -/
def saveEach (tenant : String) : List TimerRecord → MemoryStore → Option MemoryStore
  | [], store => some store
  | record :: records, store =>
    match answer (.save tenant record) store with
    | (.ok _, after) => saveEach tenant records after
    | (.error _, _) => none

theorem setTable_setTable (store : MemoryStore) (tenant : String) (first second : TimerTable) :
    (store.setTable tenant first).setTable tenant second = store.setTable tenant second := by
  unfold setTable
  rw [List.map_map]
  congr 1
  refine List.map_congr_left fun entry _ => ?_
  dsimp only [Function.comp]
  split <;> simp_all

/-- Setting the table that a tenant has changes nothing, where no tenant has a second one. -/
theorem Tidy.setTable_self (tidy : store.Tidy) (held : store.table? tenant = some table) :
    store.setTable tenant table = store := by
  obtain ⟨tables⟩ := store
  unfold setTable
  congr 1
  refine (List.map_congr_left fun entry member => ?_).trans (List.map_id tables)
  obtain ⟨name, old⟩ := entry
  dsimp only [id]
  split
  next here =>
    subst here
    rw [Option.some.inj ((tidy.table?_of_mem member).symm.trans held)]
  next => rfl

/-- Whether the checks of all records come first or take turns with those of the table makes no
difference to what comes of it where nothing fails. -/
theorem toOption_insertAll_cons (table : TimerTable) (record : TimerRecord)
    (records : List TimerRecord) :
    ((StoredTimer.ofRecords (record :: records)).bind table.insertAll).toOption =
      ((StoredTimer.ofRecord record).bind table.insert).toOption.bind fun changed =>
        ((StoredTimer.ofRecords records).bind changed.insertAll).toOption := by
  rw [StoredTimer.ofRecords]
  cases StoredTimer.ofRecord record with
  | error e => rfl
  | ok row =>
    cases StoredTimer.ofRecords records with
    | error e => cases inserted : table.insert row <;>
        simp [Except.bind, bind, Except.toOption, inserted]
    | ok rows =>
      cases inserted : table.insert row <;>
        simp [Except.bind, bind, pure, Except.pure, TimerTable.insertAll, Except.toOption, inserted]

/-- Saving one after the other comes down to inserting the rows one after the other. -/
theorem Tidy.saveEach_eq (tidy : store.Tidy) (held : store.table? tenant = some table)
    (records : List TimerRecord) :
    saveEach tenant records store =
      ((StoredTimer.ofRecords records).bind table.insertAll).toOption.map
        (store.setTable tenant) := by
  induction records generalizing store table with
  | nil =>
    show some store = some (store.setTable tenant table)
    rw [tidy.setTable_self held]
  | cons record records ih =>
    have saves := answer_save_of_table? held record
    rw [toOption_insertAll_cons, saveEach]
    cases done : (StoredTimer.ofRecord record).bind table.insert with
    | error e =>
      rw [saves, done]
      rfl
    | ok changed =>
      have next := tidy.answers (store.answers (.save tenant record))
      rw [saves, done, rewritten] at next
      rw [saves, done, rewritten]
      have found : (store.setTable tenant changed).table? tenant = some changed := by
        rw [table?_setTable, if_pos rfl, held, Option.map_some]
      have last : (store.setTable tenant changed).setTable tenant = store.setTable tenant :=
        funext (setTable_setTable store tenant changed)
      dsimp only
      rw [ih next found, last]
      rfl

/-! ### What is kept -/

/-- The table of a tenant, kept by its keys. -/
structure KeyedTable (store : MemoryStore) (tenant : String) (table : TimerTable) : Prop where
  wellFormed : table.WellFormed
  findById : ∀ row ∈ table, answer (.findById tenant row.id) store = (.ok (some row.record), store)
  findById_none : ∀ id, (∀ row ∈ table, row.id ≠ id) →
    answer (.findById tenant id) store = (.ok none, store)
  findByNaturalKey : ∀ row ∈ table,
    answer (.findByNaturalKey tenant row.naturalKey) store = (.ok (some row.record), store)
  findByNaturalKey_none : ∀ key, (∀ row ∈ table, row.naturalKey ≠ key) →
    answer (.findByNaturalKey tenant key) store = (.ok none, store)
  save_clash : ∀ {record id key}, record.id = some id → record.naturalKey = .ok key →
    (∃ row ∈ table, row.id ≠ id ∧ row.naturalKey = key) →
    answer (.save tenant record) store = (.error (.duplicateKey key), store)
  save : ∀ {record id key}, record.id = some id → record.naturalKey = .ok key →
    (¬ ∃ row ∈ table, row.id ≠ id ∧ row.naturalKey = key) →
    answer (.save tenant record) store =
      (.ok record, store.setTable tenant (table.put ⟨id, key, record⟩))
  saveAll : ∀ {records after}, saveEach tenant records store = some after →
    answer (.saveAll tenant records) store = (.ok records, after)
  saveAll_none : ∀ {records}, saveEach tenant records store = none →
    ∃ error, answer (.saveAll tenant records) store = (.error error, store)

/-- A store kept by its keys. Each of its tables is, and no request changes a table that it is not
about, or any where it fails. -/
structure Keyed (store : MemoryStore) : Prop where
  tables : ∀ {tenant table}, (tenant, table) ∈ store.tables → store.KeyedTable tenant table
  tenants : (store.tables.map (·.1)).Nodup
  refused : ∀ {request error}, (answer request store).1 = .error error →
    (answer request store).2 = store
  apart : ∀ {request other}, request.tenant? ≠ some other →
    (answer request store).2.table? other = store.table? other
  provision : ∀ {tenant table}, store.table? tenant = some table →
    answer (.provision tenant) store = (.ok ⟨⟩, store)

theorem Tidy.keyedTable (tidy : store.Tidy) (held : store.table? tenant = some table) :
    store.KeyedTable tenant table where
  wellFormed := tidy.wellFormed tenant table held
  findById row member := by
    have found := (tidy.wellFormed tenant table held).row?_eq_some_iff.mpr ⟨member, rfl⟩
    simp [answer, read, held, found]
  findById_none id apart := by
    have missing : table.row? id = none := List.find?_eq_none.mpr (by simpa using apart)
    simp [answer, read, held, missing]
  findByNaturalKey row member := by
    have good := tidy.wellFormed
    obtain ⟨missing, _⟩ | ⟨_, found, answered, right, wrong⟩ :=
      answer_findByNaturalKey good tenant row.naturalKey
    · exact absurd (missing.symm.trans held) (by simp)
    · have stored := good.stored_of_mem held member
      have own := (StoredTimer.ofRecord_eq_ok_iff.mp ((good tenant table held).own row member)).2.1
      cases found with
      | none => exact absurd own (wrong rfl row.id row.record stored)
      | some record =>
        obtain ⟨id, kept, named⟩ := right record rfl
        obtain rfl := good.id_unique kept stored (named.trans own.symm)
        rw [answered, Option.some.inj (kept.symm.trans stored)]
  findByNaturalKey_none key apart := by
    have nothing : table.select (·.naturalKey == key) = [] := by
      refine List.eq_nil_iff_forall_not_mem.mpr fun record member => ?_
      obtain ⟨row, kept, same, _⟩ := TimerTable.mem_select.mp member
      exact apart row kept (beq_iff_eq.mp same)
    simp [answer, read, held, nothing]
  save_clash {record id key} named keyed clash := by
    have own : StoredTimer.ofRecord record = .ok ⟨id, key, record⟩ :=
      StoredTimer.ofRecord_eq_ok_iff.mpr ⟨named, keyed, rfl⟩
    rw [answer_save_of_table? held, own, Except.bind, TimerTable.insert_of_clash clash]
    rfl
  save {record id key} named keyed free := by
    have own : StoredTimer.ofRecord record = .ok ⟨id, key, record⟩ :=
      StoredTimer.ofRecord_eq_ok_iff.mpr ⟨named, keyed, rfl⟩
    have unique : ∀ old ∈ table, old.naturalKey = key → old.id = id := by
      intro old member same
      by_contra apart
      exact free ⟨old, member, apart, same⟩
    rw [answer_save_of_table? held, own, Except.bind, TimerTable.insert_eq_ok_iff.mpr ⟨rfl, unique⟩]
    rfl
  saveAll {records after} each := by
    rw [tidy.saveEach_eq held] at each
    rw [answer_saveAll_of_table? held]
    cases done : (StoredTimer.ofRecords records).bind table.insertAll with
    | error e => simp [done, Except.toOption] at each
    | ok changed =>
      simp only [done, Except.toOption, Option.map_some, Option.some.injEq] at each
      rw [rewritten, each]
  saveAll_none {records} each := by
    rw [tidy.saveEach_eq held] at each
    rw [answer_saveAll_of_table? held]
    cases done : (StoredTimer.ofRecords records).bind table.insertAll with
    | error e => exact ⟨e, rfl⟩
    | ok changed => simp [done, Except.toOption] at each

/-- Whatever the store has been asked for, it is kept by its keys. -/
theorem after_keyed (requests : List StoreRequest) : (MemoryStore.empty.after requests).Keyed := by
  have tidy := Tidy.empty.after requests
  exact {
    tables := fun member => tidy.keyedTable (tidy.table?_of_mem member)
    tenants := tidy.tenants
    refused := fun {request error} failed => Answers.unchanged (failed ▸ answers _ request)
    apart := fun {request other} apart => (answers _ request).elsewhere apart
    provision := fun held => by simp [answer, provision, held] }

/-- A record under an id with a path to call. -/
def pathTimer (id : Nat) (path : String) : TimerRecord :=
  { (default : TimerRecord) with
    id := some (.ofBits id), kind := some .user, moduleName := some "mod-a",
    routingEntry := some ⟨["POST"], none, some path, none, none⟩ }

/-- Within a batch a natural key may be taken only after the record that had it has given it up. -/
example :
    let store := MemoryStore.empty.after [.provision "north", .save "north" (pathTimer 1 "/a")]
    let saves (records : List TimerRecord) : Bool :=
      (answer (.saveAll "north" records) store).1.toOption.isSome
    saves [pathTimer 1 "/b", pathTimer 2 "/a"] = true ∧
      saves [pathTimer 2 "/a", pathTimer 1 "/b"] = false := by
  decide +kernel

end MemoryStore

end Horarium
