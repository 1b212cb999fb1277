/-
Module: Horarium.Store.Schema
Purpose: The timers of all tenants in one database, each tenant's in the table of the tenant's
  schema. The database is whatever answers requests with schemas in the place of tenants. Which
  requests are made to it and how its answers are told is decided here.
Trusted boundary: the database is a parameter
Main exports: StoreError.toldTo, SchemaStore, SchemaStore.relay, SchemaStore.answer
-/
import Horarium.Store.Database

namespace Horarium

/-- What a tenant is told of a failure: the schema that has no table is the tenant's. -/
def StoreError.toldTo (tenant : String) : StoreError → StoreError
  | .tableMissing _ => .tableMissing tenant
  | e => e

/-- A store that keeps its tables in a database. -/
structure SchemaStore (δ : Type) where
  database : δ

namespace SchemaStore

variable {δ : Type} [TimerStore δ]

/-- A request that is made to the database for a tenant. -/
def relay (store : SchemaStore δ) (tenant : String) (request : StoreRequest) :
    Except StoreError request.Result × SchemaStore δ :=
  let (result, database) := TimerStore.answer request store.database
  (result.mapError (.toldTo tenant), ⟨database⟩)

/-- One request. Records that cannot be rows are refused before the database is asked; its tenants
are those whose names can be read off its schemas. -/
def answer :
    (request : StoreRequest) → SchemaStore δ → Except StoreError request.Result × SchemaStore δ
  | .findById tenant id, store => store.relay tenant (.findById (schemaName tenant) id)
  | .findByNaturalKey tenant key, store =>
    store.relay tenant (.findByNaturalKey (schemaName tenant) key)
  | .findByModuleAndKind tenant name kind, store =>
    store.relay tenant (.findByModuleAndKind (schemaName tenant) name kind)
  | .findByModuleAndEnabled tenant name enabled, store =>
    store.relay tenant (.findByModuleAndEnabled (schemaName tenant) name enabled)
  | .page tenant offset limit, store => store.relay tenant (.page (schemaName tenant) offset limit)
  | .list tenant, store => store.relay tenant (.list (schemaName tenant))
  | .save tenant record, store =>
    match StoredTimer.ofRecord record with
    | .error e => (.error e, store)
    | .ok _ =>
      let (result, after) := store.relay tenant (.save (schemaName tenant) record)
      (result.map fun _ => record, after)
  | .saveAll tenant records, store =>
    match StoredTimer.ofRecords records with
    | .error e => (.error e, store)
    | .ok _ =>
      let (result, after) := store.relay tenant (.saveAll (schemaName tenant) records)
      (result.map fun _ => records, after)
  | .delete tenant id, store => store.relay tenant (.delete (schemaName tenant) id)
  | .tenants, store =>
    let (schemas, database) := TimerStore.answer .tenants store.database
    (schemas.map (List.filterMap tenantOfSchema?), ⟨database⟩)
  | .provision tenant, store => store.relay tenant (.provision (schemaName tenant))

instance : TimerStore (SchemaStore δ) := ⟨answer⟩

end SchemaStore

end Horarium
