/-
Module: Horarium.Store.Database
Purpose: The database store, as far as it decides before it reaches its database: which schema
  belongs to a tenant, which connection settings are usable, and which records can be rows. Without
  a database behind it, all else fails.
Trusted boundary: human-reviewed definitions; no database is reached
Main exports: schemaSuffix, schemaName, tenantOfSchema?, DetachedStore, DetachedStore.connect
-/
import Horarium.Store.Memory
import Horarium.Text.LetterCase

namespace Horarium

/-- What every schema name ends in. -/
def schemaSuffix : String := "_tock"

/-- The schema that holds a tenant's timers. -/
def schemaName (tenant : String) : String := Text.lower tenant ++ schemaSuffix

/-- The tenant of a schema, if the schema is one of this store's. -/
def tenantOfSchema? (schema : String) : Option String :=
  let cs := schema.toList
  let n := cs.length - schemaSuffix.length
  if cs.drop n = schemaSuffix.toList ∧ 0 < n then some (String.ofList (cs.take n)) else none

/-- The modes in which a connection may be encrypted. -/
def sslModes : List String := ["disable", "allow", "prefer", "require", "verify-ca", "verify-full"]

/-- Whether a text names an encryption mode, in any case of its letters. -/
def isSslMode (text : String) : Bool :=
  sslModes.contains (String.ofList (text.toList.map Char.toLower))

/-- A database store whose database cannot be reached. -/
structure DetachedStore where

namespace DetachedStore

/-- The failure of whatever needs the database. -/
def unreachable : StoreError := .database "no connection"

/-- The failure to connect in an encryption mode. A mode that does not exist is refused before the
database is asked for. -/
def connect (sslMode : String) : StoreError :=
  if isSslMode sslMode then unreachable else .database s!"unknown encryption mode {sslMode}"

/-- One request. Records that cannot be rows are refused before the database is asked for. -/
def refusal : StoreRequest → StoreError
  | .save _ record => match StoredTimer.ofRecord record with
    | .error e => e
    | .ok _ => unreachable
  | .saveAll _ records => match StoredTimer.ofRecords records with
    | .error e => e
    | .ok _ => unreachable
  | _ => unreachable

instance : TimerStore DetachedStore := ⟨fun request store => (.error (refusal request), store)⟩

end DetachedStore

end Horarium
