/-
Module: Horarium.Store.Memory
Purpose: A store that keeps its tables in memory. A table maps ids to records and holds every
  natural key at most once; listings come in the order of creation, records without a creation date
  first, and by id where the dates agree.
Trusted boundary: human-reviewed definitions
Main exports: StoredTimer, TimerTable, TimerTable.row?, MemoryStore, MemoryStore.empty,
  MemoryStore.table?, MemoryStore.answer
-/
import Horarium.Store.Basic

namespace Horarium

/-- A stored record with the keys it is found by. -/
structure StoredTimer where
  id : Uuid
  naturalKey : String
  record : TimerRecord
deriving DecidableEq

/-- The table of a tenant. -/
abbrev TimerTable : Type := List StoredTimer

namespace StoredTimer

/-- The row of a record: it needs an id and a natural key. -/
def ofRecord (record : TimerRecord) : Except StoreError StoredTimer :=
  match record.id with
  | none => .error .missingId
  | some id => match record.naturalKey with
    | .error cause => .error (.invalid cause)
    | .ok naturalKey => .ok ⟨id, naturalKey, record⟩

/-- The rows of records, the first fault in their order. -/
def ofRecords : List TimerRecord → Except StoreError (List StoredTimer)
  | [] => .ok []
  | record :: rest => do
    let row ← ofRecord record
    let rows ← ofRecords rest
    return row :: rows

end StoredTimer

namespace TimerTable

/-- The row under an id. -/
def row? (table : TimerTable) (id : Uuid) : Option StoredTimer := table.find? (·.id = id)

/-- The table with a row in the place of the one that has its id. -/
def overwrite (table : TimerTable) (row : StoredTimer) : TimerTable :=
  table.map fun old => if old.id = row.id then row else old

/-- The table with a row in the place of the one that has its id, or at the end. -/
def put (table : TimerTable) (row : StoredTimer) : TimerTable :=
  if (row? table row.id).isSome then overwrite table row else table ++ [row]

/-- The table with a row, unless a row of another id has its natural key. -/
def insert (table : TimerTable) (row : StoredTimer) : Except StoreError TimerTable :=
  if table.any fun old => old.id != row.id && old.naturalKey == row.naturalKey then
    .error (.duplicateKey row.naturalKey)
  else .ok (table.put row)

/-- The table with several rows, one after the other. -/
def insertAll : TimerTable → List StoredTimer → Except StoreError TimerTable
  | table, [] => .ok table
  | table, row :: rows => do
    let table ← table.insert row
    insertAll table rows

/-- The table without the row under an id. -/
def erase (table : TimerTable) (id : Uuid) : TimerTable := table.filter (·.id != id)

theorem row?_cons (row : StoredTimer) (table : TimerTable) (id : Uuid) :
    row? (row :: table) id = if row.id = id then some row else row? table id := by
  by_cases h : row.id = id <;> simp [row?, h]

theorem row?_concat (table : TimerTable) (row : StoredTimer) (id : Uuid) :
    row? (table ++ [row]) id = (row? table id).or (if row.id = id then some row else none) := by
  induction table with
  | nil => rw [List.nil_append, row?_cons]; rfl
  | cons old table ih =>
    rw [List.cons_append, row?_cons, row?_cons, ih]
    split <;> rfl

theorem row?_overwrite (table : TimerTable) (row : StoredTimer) (id : Uuid) :
    row? (overwrite table row) id =
      if row.id = id then (row? table id).map fun _ => row else row? table id := by
  induction table with
  | nil => by_cases h : row.id = id <;> simp [overwrite, row?]
  | cons old table ih =>
    have step : overwrite (old :: table) row =
      (if old.id = row.id then row else old) :: overwrite table row := rfl
    rw [step, row?_cons, row?_cons, ih]
    by_cases found : row.id = id
    · subst found
      by_cases same : old.id = row.id <;> simp [same]
    · by_cases same : old.id = row.id <;> simp [same, found]

/-- The row that is put is found under its id, and the rows of other ids are as they were. -/
theorem row?_put (table : TimerTable) (row : StoredTimer) (id : Uuid) :
    row? (put table row) id = if row.id = id then some row else row? table id := by
  unfold put
  split
  · rename_i taken
    rw [row?_overwrite]
    by_cases found : row.id = id
    · obtain ⟨old, held⟩ := Option.isSome_iff_exists.mp taken
      rw [found] at held
      simp [found, held]
    · simp [found]
  · rename_i free
    rw [row?_concat]
    by_cases found : row.id = id
    · have absent : row? table id = none := by
        rw [← found]
        exact Option.not_isSome_iff_eq_none.mp free
      simp [found, absent]
    · simp [found]

/-- What is erased is not found, and the rows of other ids are as they were. -/
theorem row?_erase (table : TimerTable) (id other : Uuid) :
    row? (erase table id) other = if other = id then none else row? table other := by
  induction table with
  | nil => simp [erase, row?]
  | cons row table ih =>
    have step : erase (row :: table) id =
      if row.id = id then erase table id else row :: erase table id := by
        by_cases h : row.id = id <;> simp [erase, h]
    rw [step]
    by_cases same : row.id = id <;> by_cases wanted : other = id <;> simp_all [row?_cons, eq_comm]

/-- Whether an optional value comes before another; nothing comes before everything. -/
def optionBefore {α : Type} (before : α → α → Bool) : Option α → Option α → Bool
  | none, some _ => true
  | some a, some b => before a b
  | _, none => false

/-- Whether a record comes before another in listings. -/
def before (a b : TimerRecord) : Bool :=
  optionBefore Instant.before a.createdDate b.createdDate
    || (!optionBefore Instant.before b.createdDate a.createdDate
      && optionBefore Uuid.before a.id b.id)

/-- The records of the rows that satisfy `p`, in the order of listings. -/
def select (table : TimerTable) (p : StoredTimer → Bool) : List TimerRecord :=
  ((table.filter p).map (·.record)).mergeSort fun a b => !before b a

end TimerTable

/-- A store in memory: the tables of the tenants that have been provisioned. -/
structure MemoryStore where
  tables : List (String × TimerTable)

namespace MemoryStore

/-- The store without any table. -/
def empty : MemoryStore := ⟨[]⟩

/-- The table of a tenant. -/
def table? (store : MemoryStore) (tenant : String) : Option TimerTable := store.tables.lookup tenant

/-- The store with another table for a tenant that has one. -/
def setTable (store : MemoryStore) (tenant : String) (table : TimerTable) : MemoryStore :=
  ⟨store.tables.map fun (name, old) => if name = tenant then (name, table) else (name, old)⟩

/-- Setting a table changes what is found for its tenant alone. -/
theorem table?_setTable (store : MemoryStore) (tenant : String) (table : TimerTable)
    (other : String) :
    (store.setTable tenant table).table? other =
      if tenant = other then (store.table? tenant).map fun _ => table else store.table? other := by
  obtain ⟨tables⟩ := store
  unfold setTable table?
  induction tables with
  | nil => simp
  | cons entry tables ih =>
    obtain ⟨name, old⟩ := entry
    rw [List.map_cons, List.lookup_cons, List.lookup_cons, ih]
    cases here : other == name with
    | true =>
      obtain rfl : other = name := by simpa using here
      by_cases found : other = tenant
      · simp [found]
      · simp [found, Ne.symm found]
    | false =>
      have apart : other ≠ name := by simpa using here
      by_cases found : tenant = other
      · subst found
        simp [here, Ne.symm apart]
      · by_cases same : name = tenant
        · subst same
          simp [found, here, List.lookup_cons]
        · simp [found, same, here, List.lookup_cons]

/-- The tenants that have a table, sorted. -/
def tenantNames (store : MemoryStore) : List String :=
  (store.tables.map (·.1)).mergeSort fun a b => a ≤ b

/-- The store with a table for the tenant, a new one only if there is none. -/
def provision (store : MemoryStore) (tenant : String) : MemoryStore :=
  if (store.table? tenant).isSome then store else ⟨store.tables ++ [(tenant, [])]⟩

/-- Provisioning gives a tenant an empty table where it has none, and changes nothing else. -/
theorem table?_provision (store : MemoryStore) (tenant other : String) :
    (store.provision tenant).table? other =
      if tenant = other then some ((store.table? tenant).getD []) else store.table? other := by
  obtain ⟨tables⟩ := store
  unfold provision
  split
  · rename_i taken
    obtain ⟨table, held⟩ := Option.isSome_iff_exists.mp taken
    by_cases found : tenant = other
    · rw [← found, if_pos rfl, held]
      rfl
    · rw [if_neg found]
  · rename_i free
    have absent := Option.not_isSome_iff_eq_none.mp free
    unfold table? at absent ⊢
    simp only at absent ⊢
    rw [List.lookup_append]
    by_cases found : tenant = other
    · rw [← found, if_pos rfl, absent]
      simp
    · have apart : (other == tenant) = false := beq_eq_false_iff_ne.mpr (Ne.symm found)
      rw [if_neg found, List.lookup_cons, apart]
      exact Option.or_none

/-- An answer that only reads the table of a tenant. -/
def read {α : Type} (store : MemoryStore) (tenant : String) (view : TimerTable → α) :
    Except StoreError α × MemoryStore :=
  match store.table? tenant with
  | none => (.error (.tableMissing tenant), store)
  | some table => (.ok (view table), store)

/-- An answer that changes the table of a tenant, if the change goes through. -/
def write {α : Type} (store : MemoryStore) (tenant : String)
    (change : TimerTable → Except StoreError (α × TimerTable)) :
    Except StoreError α × MemoryStore :=
  match store.table? tenant with
  | none => (.error (.tableMissing tenant), store)
  | some table => match change table with
    | .error e => (.error e, store)
    | .ok (a, table) => (.ok a, store.setTable tenant table)

/-- One request. Records that lack a key are refused before the table is looked for. -/
def answer : (request : StoreRequest) → MemoryStore → Except StoreError request.Result × MemoryStore
  | .findById tenant id, store => store.read tenant fun table => (table.row? id).map (·.record)
  | .findByNaturalKey tenant key, store =>
    store.read tenant fun table => (table.select (·.naturalKey == key)).head?
  | .findByModuleAndKind tenant name kind, store =>
    store.read tenant fun table =>
      table.select fun row => row.record.moduleName == some name && row.record.kind == some kind
  | .findByModuleAndEnabled tenant name enabled, store =>
    store.read tenant fun table =>
      table.select fun row => row.record.moduleName == some name && row.record.enabled == enabled
  | .page tenant offset limit, store =>
    store.read tenant fun table =>
      let all := table.select fun _ => true
      ⟨(all.drop offset).take limit, all.length⟩
  | .list tenant, store => store.read tenant fun table => table.select fun _ => true
  | .save tenant record, store =>
    match StoredTimer.ofRecord record with
    | .error e => (.error e, store)
    | .ok row => store.write tenant fun table => (table.insert row).map (record, ·)
  | .saveAll tenant records, store =>
    match StoredTimer.ofRecords records with
    | .error e => (.error e, store)
    | .ok rows => store.write tenant fun table => (table.insertAll rows).map (records, ·)
  | .delete tenant id, store =>
    store.write tenant fun table => .ok ((table.row? id).isSome, table.erase id)
  | .tenants, store => (.ok store.tenantNames, store)
  | .provision tenant, store => (.ok ⟨⟩, store.provision tenant)

instance : TimerStore MemoryStore := ⟨answer⟩

/-- The records of every tenant, tenants and records in their order. -/
def contents (store : MemoryStore) : List (String × List TimerRecord) :=
  store.tenantNames.map fun tenant =>
    (tenant, ((store.table? tenant).getD []).select fun _ => true)

end MemoryStore

end Horarium
