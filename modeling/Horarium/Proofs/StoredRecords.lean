/-
Module: Horarium.Proofs.StoredRecords
Purpose: The store in memory, seen through the records that it keeps: what each request answers and
  which records it changes, for stores whose tables are in good order.
Trusted boundary: none
Main exports: MemoryStore.stored, MemoryStore.WellFormed, MemoryStore.Within, MemoryStore.Sets,
  MemoryStore.Within.stored_elsewhere, MemoryStore.WellFormed.id_of_stored, MemoryStore.Lists
-/
import Horarium.Proofs.TimerTable

namespace Horarium

/-- The tenant whose table the request is about. -/
def StoreRequest.tenant? : StoreRequest → Option String
  | findById tenant _ | findByNaturalKey tenant _ | findByModuleAndKind tenant _ _
  | findByModuleAndEnabled tenant _ _ | page tenant _ _ | list tenant | save tenant _
  | saveAll tenant _ | delete tenant _ | provision tenant => some tenant
  | tenants => none

namespace MemoryStore

/-- The record that a tenant's table keeps under an id. -/
def stored (store : MemoryStore) (tenant : String) (id : Uuid) : Option TimerRecord :=
  (store.table? tenant).bind fun table => (table.row? id).map (·.record)

/-- Every table is well-formed. -/
def WellFormed (store : MemoryStore) : Prop :=
  ∀ tenant table, store.table? tenant = some table → table.WellFormed

/-- The stores differ at most in the records of one tenant. -/
structure Within (tenant : String) (before after : MemoryStore) : Prop where
  elsewhere : ∀ other, other ≠ tenant → after.table? other = before.table? other
  provisioned : (after.table? tenant).isSome = (before.table? tenant).isSome
  wellFormed : before.WellFormed → after.WellFormed

/-- The stores differ at most in the record that one tenant has under one id. -/
structure Sets (tenant : String) (id : Uuid) (record : Option TimerRecord)
    (before after : MemoryStore) : Prop extends Within tenant before after where
  stored : ∀ other, after.stored tenant other = if other = id then record
    else before.stored tenant other

variable {store after : MemoryStore} {tenant : String} {table : TimerTable} {id : Uuid}
  {record : TimerRecord}

theorem mem_tables_of_table? (held : store.table? tenant = some table) :
    (tenant, table) ∈ store.tables := by
  obtain ⟨earlier, later, same, _⟩ := List.lookup_eq_some_iff.mp held
  rw [same]
  simp

theorem stored_of_table? (held : store.table? tenant = some table) (id : Uuid) :
    store.stored tenant id = (table.row? id).map (·.record) := by
  simp [stored, held]

theorem exists_row_of_stored (held : store.stored tenant id = some record) :
    ∃ table row, store.table? tenant = some table ∧ table.row? id = some row ∧
      row.record = record := by
  cases found : store.table? tenant with
  | none => simp [stored, found] at held
  | some table =>
    rw [stored_of_table? found, Option.map_eq_some_iff] at held
    obtain ⟨row, kept, same⟩ := held
    exact ⟨table, row, rfl, kept, same⟩

theorem stored_of_table?_eq_none (missing : store.table? tenant = none) (id : Uuid) :
    store.stored tenant id = none := by
  simp [stored, missing]

theorem isSome_table?_of_stored (store : MemoryStore)
    (held : store.stored tenant id = some record) :
    (store.table? tenant).isSome := by
  obtain ⟨_, _, found, _⟩ := exists_row_of_stored held
  rw [found, Option.isSome_some]

/-- Whether no tenant has the id can be looked up table by table. -/
theorem stored_eq_none_iff (store : MemoryStore) (id : Uuid) :
    (∀ tenant, store.stored tenant id = none) ↔
      ∀ entry ∈ store.tables, store.stored entry.1 id = none := by
  constructor
  · intro free entry _
    exact free entry.1
  · intro free tenant
    cases found : store.table? tenant with
    | none => exact stored_of_table?_eq_none found id
    | some table => exact free (tenant, table) (mem_tables_of_table? found)

theorem Within.refl (tenant : String) (store : MemoryStore) : Within tenant store store :=
  ⟨fun _ _ => rfl, rfl, id⟩

theorem Within.trans {last : MemoryStore} (first : Within tenant store after)
    (second : Within tenant after last) : Within tenant store last where
  elsewhere other apart := (second.elsewhere other apart).trans (first.elsewhere other apart)
  provisioned := second.provisioned.trans first.provisioned
  wellFormed good := second.wellFormed (first.wellFormed good)

theorem Sets.unchanged {held : Option TimerRecord} (stored : store.stored tenant id = held) :
    Sets tenant id held store store where
  toWithin := .refl tenant store
  stored other := by
    split
    · rename_i same
      rw [same, stored]
    · rfl

/-- The records of other tenants are as they were. -/
theorem Within.stored_elsewhere (within : Within tenant store after) {other : String}
    (apart : other ≠ tenant) (id : Uuid) : after.stored other id = store.stored other id := by
  simp [MemoryStore.stored, within.elsewhere other apart]

namespace WellFormed

variable (good : store.WellFormed)
include good

theorem exists_row (held : store.stored tenant id = some record) :
    ∃ table row, store.table? tenant = some table ∧ row ∈ table ∧ row.id = id ∧
      row.record = record ∧
      StoredTimer.ofRecord record = .ok row := by
  obtain ⟨table, row, found, kept, rfl⟩ := exists_row_of_stored held
  have member := TimerTable.mem_of_row? kept
  exact ⟨table, row, found, member, TimerTable.id_of_row? kept, rfl,
    (good tenant table found).own row member⟩

theorem stored_of_mem (held : store.table? tenant = some table) {row : StoredTimer}
    (member : row ∈ table) : store.stored tenant row.id = some row.record := by
  rw [stored_of_table? held, (good tenant table held).row?_eq_some_iff.mpr ⟨member, rfl⟩]
  rfl

/-- A stored record carries the id that it is stored under. -/
theorem id_of_stored (held : store.stored tenant id = some record) : record.id = some id := by
  obtain ⟨table, row, _, _, rfl, _, own⟩ := good.exists_row held
  exact (StoredTimer.ofRecord_eq_ok_iff.mp own).1

theorem exists_naturalKey (held : store.stored tenant id = some record) :
    ∃ key, record.naturalKey = .ok key := by
  obtain ⟨table, row, _, _, _, _, own⟩ := good.exists_row held
  exact ⟨row.naturalKey, (StoredTimer.ofRecord_eq_ok_iff.mp own).2.1⟩

/-- A natural key tells which of a tenant's records it is. -/
theorem id_unique {other : Uuid} {namesake : TimerRecord}
    (held : store.stored tenant id = some record)
    (stored : store.stored tenant other = some namesake)
    (same : record.naturalKey = namesake.naturalKey) : id = other := by
  obtain ⟨table, row, found, member, rfl, _, own⟩ := good.exists_row held
  obtain ⟨_, row', found', member', rfl, _, own'⟩ := good.exists_row stored
  obtain rfl := Option.some.inj (found.symm.trans found')
  have keys : row.naturalKey = row'.naturalKey := by
    have left := (StoredTimer.ofRecord_eq_ok_iff.mp own).2.1
    have right := (StoredTimer.ofRecord_eq_ok_iff.mp own').2.1
    rw [same] at left
    exact Except.ok.inj (left.symm.trans right)
  rw [(good tenant table found).naturalKeys row member row' member' keys]

theorem mem_select_iff (held : store.table? tenant = some table) {p : StoredTimer → Bool}
    {q : TimerRecord → Prop} (reads : ∀ row ∈ table, p row = true ↔ q row.record) :
    record ∈ table.select p ↔ ∃ id, store.stored tenant id = some record ∧ q record := by
  rw [TimerTable.mem_select]
  constructor
  · rintro ⟨row, member, kept, rfl⟩
    exact ⟨row.id, good.stored_of_mem held member, (reads row member).mp kept⟩
  · rintro ⟨id, kept, asked⟩
    obtain ⟨table', row, found, member, _, rfl, _⟩ := good.exists_row kept
    obtain rfl := Option.some.inj (held.symm.trans found)
    exact ⟨row, member, (reads row member).mpr asked, rfl⟩

end WellFormed

theorem within_setTable (held : store.table? tenant = some table) {changed : TimerTable}
    (good : table.WellFormed → changed.WellFormed) :
    Within tenant store (store.setTable tenant changed) where
  elsewhere other apart := by rw [table?_setTable, if_neg (Ne.symm apart)]
  provisioned := by rw [table?_setTable, if_pos rfl, held]; rfl
  wellFormed all := by
    intro other found held'
    rw [table?_setTable] at held'
    split at held'
    · rw [held, Option.map_some, Option.some.injEq] at held'
      subst held'
      exact good (all tenant table held)
    · exact all other found held'

theorem stored_setTable (held : store.table? tenant = some table) (changed : TimerTable)
    (id : Uuid) :
    (store.setTable tenant changed).stored tenant id = (changed.row? id).map (·.record) := by
  unfold MemoryStore.stored
  rw [table?_setTable, if_pos rfl, held]
  rfl

/-- Another record of the tenant has the natural key. -/
def Taken (store : MemoryStore) (tenant : String) (id : Uuid) (key : String) : Prop :=
  ∃ other record, other ≠ id ∧ store.stored tenant other = some record ∧ record.naturalKey = .ok key

/-- Whether a key is taken can be looked up in the rows of the table. -/
theorem taken_iff (good : store.WellFormed) (held : store.table? tenant = some table)
    {key : String} :
    store.Taken tenant id key ↔ ∃ old ∈ table, old.naturalKey = key ∧ old.id ≠ id := by
  constructor
  · rintro ⟨other, namesake, apart, kept, same⟩
    obtain ⟨table', row, found, member, rfl, _, rowOwn⟩ := good.exists_row kept
    obtain rfl := Option.some.inj (held.symm.trans found)
    have rowKey := (StoredTimer.ofRecord_eq_ok_iff.mp rowOwn).2.1
    exact ⟨row, member, Except.ok.inj (rowKey.symm.trans same), apart⟩
  · rintro ⟨old, member, same, apart⟩
    have oldKey := (StoredTimer.ofRecord_eq_ok_iff.mp ((good tenant table held).own old member)).2.1
    exact ⟨old.id, old.record, apart, good.stored_of_mem held member, same ▸ oldKey⟩

/-- Saving a record that has its keys fails only for want of a table or because another record has
the natural key, and then changes nothing. -/
theorem answer_save (good : store.WellFormed) (tenant : String) (named : record.id = some id)
    {key : String} (keyed : record.naturalKey = .ok key) :
    (store.table? tenant = none ∧
        answer (.save tenant record) store = (.error (.tableMissing tenant), store)) ∨
      (store.Taken tenant id key ∧
        answer (.save tenant record) store = (.error (.duplicateKey key), store)) ∨
      ¬ store.Taken tenant id key ∧ (store.table? tenant).isSome ∧
        ∃ after, answer (.save tenant record) store = (.ok record, after) ∧
          Sets tenant id (some record) store after := by
  have own : StoredTimer.ofRecord record = .ok ⟨id, key, record⟩ :=
    StoredTimer.ofRecord_eq_ok_iff.mpr ⟨named, keyed, rfl⟩
  cases held : store.table? tenant with
  | none => exact .inl ⟨rfl, by simp [answer, own, write, held]⟩
  | some table =>
    right
    cases inserted : table.insert ⟨id, key, record⟩ with
    | error e =>
      left
      have clash : ∃ old ∈ table, old.naturalKey = key ∧ old.id ≠ id := by
        by_contra free
        have unique : ∀ old ∈ table, old.naturalKey = key → old.id = id := by
          intro old member same
          by_contra apart
          exact free ⟨old, member, same, apart⟩
        have fits : table.insert ⟨id, key, record⟩ = .ok (table.put ⟨id, key, record⟩) :=
          TimerTable.insert_eq_ok_iff.mpr ⟨rfl, unique⟩
        rw [inserted] at fits
        exact absurd fits (by simp)
      refine ⟨(taken_iff good held).mpr clash, ?_⟩
      have fault : e = .duplicateKey key := by
        unfold TimerTable.insert at inserted
        split at inserted
        · simpa using inserted.symm
        · simp at inserted
      simp [answer, own, write, held, inserted, fault, Except.map]
    | ok changed =>
      right
      obtain ⟨rfl, unique⟩ := TimerTable.insert_eq_ok_iff.mp inserted
      refine ⟨?_, rfl, store.setTable tenant (table.put ⟨id, key, record⟩), ?_, ?_⟩
      · intro taken
        obtain ⟨old, member, same, apart⟩ := (taken_iff good held).mp taken
        exact apart (unique old member same)
      · simp [answer, own, write, held, inserted, Except.map]
      · refine ⟨within_setTable held fun goodTable => goodTable.insert own inserted,
          fun other => ?_⟩
        rw [stored_setTable held, TimerTable.row?_put, stored_of_table? held]
        by_cases same : other = id
        · simp [same]
        · rw [if_neg (Ne.symm same), if_neg same]

/-- Deleting succeeds in every table. -/
theorem answer_delete (store : MemoryStore) (tenant : String) (id : Uuid) :
    (store.table? tenant = none ∧
        answer (.delete tenant id) store = (.error (.tableMissing tenant), store)) ∨
      ∃ after, answer (.delete tenant id) store = (.ok (store.stored tenant id).isSome, after) ∧
        Sets tenant id none store after := by
  cases held : store.table? tenant with
  | none => exact .inl ⟨rfl, by simp [answer, write, held]⟩
  | some table =>
    refine .inr ⟨store.setTable tenant (table.erase id), ?_, ?_⟩
    · simp [answer, write, held, stored]
    · refine ⟨within_setTable held fun goodTable => goodTable.erase id, fun other => ?_⟩
      rw [stored_setTable held, TimerTable.row?_erase, stored_of_table? held]
      by_cases same : other = id <;> simp [same]

/-- What a listing of a tenant's records holds: those that are asked for, each once. -/
structure Lists (store : MemoryStore) (tenant : String) (asked : TimerRecord → Prop)
    (records : List TimerRecord) : Prop where
  mem_iff : ∀ record, record ∈ records ↔ ∃ id, store.stored tenant id = some record ∧ asked record
  nodup : (records.map (·.id)).Nodup

/-- A listed record is stored under its id. -/
theorem Lists.stored_of_mem {asked : TimerRecord → Prop} {records : List TimerRecord}
    (lists : store.Lists tenant asked records) (good : store.WellFormed) {record : TimerRecord}
    (member : record ∈ records) :
    ∃ id, record.id = some id ∧ store.stored tenant id = some record ∧ asked record := by
  obtain ⟨id, held, asked⟩ := (lists.mem_iff record).mp member
  exact ⟨id, good.id_of_stored held, held, asked⟩

/-- A part of a listing lists those that are asked for in addition. -/
theorem Lists.filter {asked more : TimerRecord → Prop} {records : List TimerRecord}
    (lists : store.Lists tenant asked records) {p : TimerRecord → Bool}
    (reads : ∀ record, p record = true ↔ more record) :
    store.Lists tenant (fun record => asked record ∧ more record) (records.filter p) where
  mem_iff record := by
    rw [List.mem_filter, lists.mem_iff, reads]
    constructor
    · rintro ⟨⟨id, held, first⟩, second⟩
      exact ⟨id, held, first, second⟩
    · rintro ⟨id, held, first, second⟩
      exact ⟨⟨id, held, first⟩, second⟩
  nodup := lists.nodup.sublist (List.filter_sublist.map _)

theorem lists_select (good : store.WellFormed) (held : store.table? tenant = some table)
    {p : StoredTimer → Bool} {asked : TimerRecord → Prop}
    (reads : ∀ row ∈ table, p row = true ↔ asked row.record) :
    store.Lists tenant asked (table.select p) :=
  ⟨fun _ => good.mem_select_iff held reads, (good tenant table held).nodup_select p⟩

theorem answer_findById (store : MemoryStore) (tenant : String) (id : Uuid) :
    (store.table? tenant = none ∧
        answer (.findById tenant id) store = (.error (.tableMissing tenant), store)) ∨
      (store.table? tenant).isSome ∧
        answer (.findById tenant id) store = (.ok (store.stored tenant id), store) := by
  cases held : store.table? tenant with
  | none => exact .inl ⟨rfl, by simp [answer, read, held]⟩
  | some table => exact .inr ⟨rfl, by simp [answer, read, held, stored]⟩

theorem answer_findByNaturalKey (good : store.WellFormed) (tenant key : String) :
    (store.table? tenant = none ∧
        answer (.findByNaturalKey tenant key) store = (.error (.tableMissing tenant), store)) ∨
      (store.table? tenant).isSome ∧ ∃ found,
        answer (.findByNaturalKey tenant key) store = (.ok found, store) ∧
          (∀ record, found = some record →
            ∃ id, store.stored tenant id = some record ∧ record.naturalKey = .ok key) ∧
          (found = none → ∀ id record, store.stored tenant id = some record →
            record.naturalKey ≠ .ok key) := by
  cases held : store.table? tenant with
  | none => exact .inl ⟨rfl, by simp [answer, read, held]⟩
  | some table =>
    have lists :
        store.Lists tenant (·.naturalKey = .ok key) (table.select (·.naturalKey == key)) := by
      refine lists_select good held fun row member => ?_
      have own := (StoredTimer.ofRecord_eq_ok_iff.mp ((good tenant table held).own row member)).2.1
      rw [own, beq_iff_eq, Except.ok.injEq]
    refine .inr ⟨rfl, (table.select (·.naturalKey == key)).head?,
      by simp [answer, read, held], ?_, ?_⟩
    · intro record first
      exact (lists.mem_iff record).mp (List.mem_of_mem_head? first)
    · intro empty id record kept same
      have member := (lists.mem_iff record).mpr ⟨id, kept, same⟩
      rw [List.head?_eq_none_iff] at empty
      simp [empty] at member

theorem answer_findByModuleAndKind (good : store.WellFormed) (tenant moduleName : String)
    (kind : TimerKind) :
    (store.table? tenant = none ∧
        answer (.findByModuleAndKind tenant moduleName kind) store =
          (.error (.tableMissing tenant), store)) ∨
      (store.table? tenant).isSome ∧ ∃ records,
        answer (.findByModuleAndKind tenant moduleName kind) store = (.ok records, store) ∧
          store.Lists tenant (fun record => record.moduleName = some moduleName ∧
            record.kind = some kind) records := by
  cases held : store.table? tenant with
  | none => exact .inl ⟨rfl, by simp [answer, read, held]⟩
  | some table =>
    refine .inr ⟨rfl, _, by simp [answer, read, held]; rfl, lists_select good held fun row _ => ?_⟩
    simp

theorem answer_findByModuleAndEnabled (good : store.WellFormed) (tenant moduleName : String)
    (enabled : Bool) :
    (store.table? tenant = none ∧
        answer (.findByModuleAndEnabled tenant moduleName enabled) store =
          (.error (.tableMissing tenant), store)) ∨
      (store.table? tenant).isSome ∧ ∃ records,
        answer (.findByModuleAndEnabled tenant moduleName enabled) store = (.ok records, store) ∧
          store.Lists tenant (fun record => record.moduleName = some moduleName ∧
            record.enabled = enabled) records := by
  cases held : store.table? tenant with
  | none => exact .inl ⟨rfl, by simp [answer, read, held]⟩
  | some table =>
    refine .inr ⟨rfl, _, by simp [answer, read, held]; rfl, lists_select good held fun row _ => ?_⟩
    simp

theorem answer_list (good : store.WellFormed) (tenant : String) :
    (store.table? tenant = none ∧
        answer (.list tenant) store = (.error (.tableMissing tenant), store)) ∨
      (store.table? tenant).isSome ∧ ∃ records,
        answer (.list tenant) store = (.ok records, store) ∧
          store.Lists tenant (fun _ => True) records := by
  cases held : store.table? tenant with
  | none => exact .inl ⟨rfl, by simp [answer, read, held]⟩
  | some table =>
    refine .inr ⟨rfl, _, by simp [answer, read, held]; rfl, lists_select good held fun row _ => ?_⟩
    simp

theorem mem_tenantNames (store : MemoryStore) (tenant : String) :
    tenant ∈ store.tenantNames ↔ (store.table? tenant).isSome := by
  unfold tenantNames table?
  rw [List.mem_mergeSort]
  induction store.tables with
  | nil => simp
  | cons entry tables ih =>
    obtain ⟨name, table⟩ := entry
    rw [List.map_cons, List.mem_cons, ih, List.lookup_cons]
    by_cases same : tenant = name
    · simp [same]
    · have apart : (tenant == name) = false := beq_eq_false_iff_ne.mpr same
      simp [same, apart]

theorem stored_provision (store : MemoryStore) (tenant other : String) (id : Uuid) :
    (store.provision tenant).stored other id = store.stored other id := by
  unfold stored
  rw [table?_provision]
  split
  · rename_i same
    subst same
    cases store.table? tenant with
    | none => rfl
    | some table => rfl
  · rfl

theorem WellFormed.provision (good : store.WellFormed) (tenant : String) :
    (store.provision tenant).WellFormed := by
  intro other table held
  rw [table?_provision] at held
  split at held
  · cases found : store.table? tenant with
    | none =>
      rw [found, Option.getD_none, Option.some.injEq] at held
      exact held ▸ TimerTable.wellFormed_nil
    | some old =>
      rw [found, Option.getD_some, Option.some.injEq] at held
      exact held ▸ good tenant old found
  · exact good other table held

/-- Saving new versions of stored records together succeeds, if they keep their keys. -/
theorem answer_saveAll (good : store.WellFormed) {records : List TimerRecord}
    (kept : ∀ record ∈ records, ∃ id old, record.id = some id ∧ store.stored tenant id = some old ∧
      record.naturalKey = old.naturalKey)
    (nodup : (records.map (·.id)).Nodup) (provisioned : (store.table? tenant).isSome) :
    ∃ after, answer (.saveAll tenant records) store = (.ok records, after) ∧
      Within tenant store after ∧
      (∀ record ∈ records, ∀ id, record.id = some id → after.stored tenant id = some record) ∧
      ∀ id, (∀ record ∈ records, record.id ≠ some id) →
        after.stored tenant id = store.stored tenant id := by
  obtain ⟨table, held⟩ := Option.isSome_iff_exists.mp provisioned
  have each : ∀ record ∈ records, ∃ row, StoredTimer.ofRecord record = .ok row := by
    intro record member
    obtain ⟨id, old, named, found, sameKey⟩ := kept record member
    obtain ⟨key, keyed⟩ := good.exists_naturalKey found
    exact ⟨⟨id, key, record⟩, StoredTimer.ofRecord_eq_ok_iff.mpr ⟨named, sameKey.trans keyed, rfl⟩⟩
  obtain ⟨rows, converted⟩ := StoredTimer.exists_ofRecords each
  have pairs := StoredTimer.forall₂_of_ofRecords converted
  have own := StoredTimer.own_of_forall₂ pairs
  have ids : (rows.map (·.id)).Nodup := by
    rw [StoredTimer.map_id_of_forall₂ pairs] at nodup
    exact List.Nodup.of_map _ nodup
  have keys : ∀ row ∈ rows, ∃ old ∈ table, old.id = row.id ∧ old.naturalKey = row.naturalKey := by
    intro row member
    obtain ⟨rowNamed, rowKeyed, _⟩ := StoredTimer.ofRecord_eq_ok_iff.mp (own row member).2
    obtain ⟨id, old, named, found, sameKey⟩ := kept row.record (own row member).1
    obtain ⟨table', source, held', sourceMember, rfl, _, sourceOwn⟩ := good.exists_row found
    obtain rfl := Option.some.inj (held.symm.trans held')
    refine ⟨source, sourceMember, Option.some.inj (named.symm.trans rowNamed), ?_⟩
    rw [(StoredTimer.ofRecord_eq_ok_iff.mp sourceOwn).2.1, rowKeyed] at sameKey
    exact (Except.ok.inj sameKey).symm
  obtain ⟨changed, inserted⟩ := TimerTable.exists_insertAll_of_keys (good tenant table held)
    (fun row member => (own row member).2) keys
  refine ⟨store.setTable tenant changed,
    by simp [answer, converted, write, held, inserted, Except.map],
    within_setTable held fun goodTable =>
      goodTable.insertAll (fun row member => (own row member).2) inserted, ?_, ?_⟩
  · intro record member id named
    rw [← StoredTimer.map_record_of_forall₂ pairs] at member
    obtain ⟨row, rowMember, rfl⟩ := List.mem_map.mp member
    have rowNamed := (StoredTimer.ofRecord_eq_ok_iff.mp (own row rowMember).2).1
    obtain rfl := Option.some.inj (rowNamed.symm.trans named)
    rw [stored_setTable held, TimerTable.row?_insertAll_of_mem inserted ids rowMember]
    rfl
  · intro id apart
    rw [stored_setTable held, stored_of_table? held,
      TimerTable.row?_insertAll_of_notMem inserted]
    intro member
    obtain ⟨row, rowMember, rfl⟩ := List.mem_map.mp member
    exact apart row.record (own row rowMember).1
      (StoredTimer.ofRecord_eq_ok_iff.mp (own row rowMember).2).1

end MemoryStore

end Horarium
