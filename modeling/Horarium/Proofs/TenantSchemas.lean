/-
Module: Horarium.Proofs.TenantSchemas
Purpose: Which tenants have a schema of their own in a database. Schemas are named in small letters:
  tenants whose names differ only in the case of letters share a schema and with it all their
  timers, and a rebuild knows them by the name in small letters alone. Tenants of other names are
  kept apart, as any two tenants are in memory.
Trusted boundary: none; what is assumed of the database stands in the hypotheses
Main exports: TimerStore.Separates, SchemaStore.Houses, SchemaStore.Revisits,
  SchemaStore.schemas_shared_iff
-/
import Horarium.Proofs.Callbacks
import Horarium.Proofs.KeyedTables
import Horarium.Proofs.RebuildVisits
import Horarium.Store.Schema

namespace Horarium

/-! ### Names in small letters -/

/-- The names have the same letters, large or small. -/
def SameButForCase (name other : String) : Prop :=
  name.toList.map Char.toLower = other.toList.map Char.toLower

/-- The name has no capital letter. -/
def InSmallLetters (name : String) : Prop := ∀ c ∈ name.toList, c.isUpper = false

instance (name other : String) : Decidable (SameButForCase name other) :=
  inferInstanceAs (Decidable (_ = _))

instance (name : String) : Decidable (InSmallLetters name) := List.decidableBAll _ name.toList

namespace Text

/-- Of the characters below 128 only the letters from A to Z have another lower case. -/
theorem mapCase_of_lt : ∀ n : Fin 128,
    mapCase lowerRuns lowerExpansions (Char.ofNat n) = [(Char.ofNat n).toLower] := by
  decide +kernel

theorem lowerAfter_of_lt {cs : List Char} (low : ∀ c ∈ cs, c.toNat < 128) (before : List Char) :
    lowerAfter before cs = cs.map Char.toLower := by
  induction cs generalizing before with
  | nil => rfl
  | cons c cs ih =>
    obtain ⟨first, rest⟩ := List.forall_mem_cons.mp low
    have other : c ≠ 'Σ' := by
      rintro rfl
      exact absurd first (by decide)
    have image := mapCase_of_lt ⟨c.toNat, first⟩
    rw [Char.ofNat_toNat] at image
    rw [lowerAfter, if_neg other, image, ih rest, List.map_cons, List.singleton_append]

end Text

namespace Context

theorem toNat_of_isTenantChar {c : Char} (fit : isTenantChar c = true) : c.toNat < 128 := by
  simp only [isTenantChar, Bool.or_eq_true, decide_eq_true_eq] at fit
  rcases fit with letter | rfl
  · have bounds := Text.toNat_of_isAlphanum letter
    omega
  · decide

theorem isTenantChar_toLower {c : Char} (fit : isTenantChar c = true) :
    isTenantChar c.toLower = true := by
  cases capital : c.isUpper with
  | true => simp [isTenantChar, Char.isAlphanum, Char.isAlpha, capital]
  | false => rwa [Char.toLower_eq_of_not_isUpper (by simp [capital])]

variable {name other : String}

theorem isTenantName_iff :
    isTenantName name = true ↔ name ≠ "" ∧ ∀ c ∈ name.toList, isTenantChar c = true := by
  simp [isTenantName]

/-- A tenant's name in lower case has small letters for the capital ones, and all else as it is. -/
theorem toList_lower (fit : isTenantName name = true) :
    (Text.lower name).toList = name.toList.map Char.toLower := by
  rw [Text.lower, String.toList_ofList]
  exact Text.lowerAfter_of_lt
    (fun c member => toNat_of_isTenantChar ((isTenantName_iff.mp fit).2 c member)) []

/-- A tenant's name in lower case may name a tenant as well. -/
theorem isTenantName_lower (fit : isTenantName name = true) :
    isTenantName (Text.lower name) = true := by
  obtain ⟨filled, letters⟩ := isTenantName_iff.mp fit
  refine isTenantName_iff.mpr ⟨fun empty => filled ?_, fun c member => ?_⟩
  · simpa [empty] using (toList_lower fit).symm
  · rw [toList_lower fit] at member
    obtain ⟨capital, listed, rfl⟩ := List.mem_map.mp member
    exact isTenantChar_toLower (letters capital listed)

theorem lower_eq_iff (fit : isTenantName name = true) (otherFit : isTenantName other = true) :
    Text.lower name = Text.lower other ↔ SameButForCase name other := by
  rw [← String.toList_inj, toList_lower fit, toList_lower otherFit, SameButForCase]

/-- A name is its own lower case just if it has no capital letter. -/
theorem lower_eq_self_iff (fit : isTenantName name = true) :
    Text.lower name = name ↔ InSmallLetters name := by
  have unchanged : name.toList.map Char.toLower = name.toList ↔
      ∀ c ∈ name.toList, c.toLower = c := by
    conv_lhs => rw [← List.map_id' name.toList, List.map_map]
    exact List.map_inj_left
  rw [← String.toList_inj, toList_lower fit, unchanged]
  refine forall₂_congr fun c _ => ⟨fun same => ?_, fun small => ?_⟩
  · rw [← same, Char.isUpper_toLower_eq_false]
  · exact Char.toLower_eq_of_not_isUpper (by simp [small])

theorem inSmallLetters_lower (fit : isTenantName name = true) :
    InSmallLetters (Text.lower name) := by
  intro c member
  rw [toList_lower fit] at member
  obtain ⟨capital, _, rfl⟩ := List.mem_map.mp member
  exact Char.isUpper_toLower_eq_false capital

theorem lower_lower (fit : isTenantName name = true) :
    Text.lower (Text.lower name) = Text.lower name :=
  (lower_eq_self_iff (isTenantName_lower fit)).mpr (inSmallLetters_lower fit)

end Context

/-! ### Schemas and the names read off them -/

open Context

variable {name other : String}

/-- The tenant of a schema is what stands before the ending, unless nothing does. -/
theorem tenantOfSchema?_eq_some_iff {schema tenant : String} :
    tenantOfSchema? schema = some tenant ↔ tenant ≠ "" ∧ schema = tenant ++ schemaSuffix := by
  constructor
  · intro named
    simp only [tenantOfSchema?, Option.ite_none_right_eq_some, Option.some.injEq] at named
    obtain ⟨⟨ends, filled⟩, rfl⟩ := named
    refine ⟨fun empty => ?_, ?_⟩
    · have nothing := congrArg String.length empty
      simp only [String.length_ofList, List.length_take, String.length_empty] at nothing
      omega
    · rw [← String.toList_inj, String.toList_append, String.toList_ofList, ← ends,
        List.take_append_drop]
  · rintro ⟨filled, rfl⟩
    have positive : 0 < tenant.toList.length := List.length_pos_iff.mpr (by simpa using filled)
    have before : (tenant ++ schemaSuffix).toList.length - schemaSuffix.length =
        tenant.toList.length := by
      rw [String.toList_append, List.length_append, String.length_toList, String.length_toList,
        Nat.add_sub_cancel]
    simp only [tenantOfSchema?, before]
    simp [positive]

theorem tenantOfSchema?_schemaName (fit : isTenantName name = true) :
    tenantOfSchema? (schemaName name) = some (Text.lower name) :=
  tenantOfSchema?_eq_some_iff.mpr ⟨(isTenantName_iff.mp (isTenantName_lower fit)).1, rfl⟩

theorem schemaName_eq_iff (fit : isTenantName name = true) (otherFit : isTenantName other = true) :
    schemaName name = schemaName other ↔ SameButForCase name other := by
  rw [schemaName, schemaName, String.append_left_inj, lower_eq_iff fit otherFit]

theorem schemaName_lower (fit : isTenantName name = true) :
    schemaName (Text.lower name) = schemaName name := by
  rw [schemaName, schemaName, lower_lower fit]

/-! ### Tenants that are kept apart -/

/-- No request about the one tenant makes a difference to an answer about the other. -/
def TimerStore.Separates (σ : Type) [TimerStore σ] (tenant other : String) : Prop :=
  ∀ (store : σ) (request question : StoreRequest), request.tenant? = some tenant →
    question.tenant? = some other →
    (TimerStore.answer question (TimerStore.answer request store).2).1 =
      (TimerStore.answer question store).1

/-- A tenant may be without a table, and has one once it has been provisioned. -/
def TimerStore.Provisions (σ : Type) [TimerStore σ] (tenant : String) : Prop :=
  ∃ store : σ, (TimerStore.answer (.list tenant) store).1 = .error (.tableMissing tenant) ∧
    (TimerStore.answer (.list tenant) (TimerStore.answer (.provision tenant) store).2).1 = .ok []

namespace MemoryStore

/-- What is answered about a tenant is read off the tenant's table. -/
theorem answer_congr {question : StoreRequest} {tenant : String} {store after : MemoryStore}
    (about : question.tenant? = some tenant) (same : after.table? tenant = store.table? tenant) :
    (answer question after).1 = (answer question store).1 := by
  have reads {α : Type} (view : TimerTable → α) :
      (after.read tenant view).1 = (store.read tenant view).1 := by
    unfold read
    rw [same]
    cases store.table? tenant <;> rfl
  have writes {α : Type} (change : TimerTable → Except StoreError (α × TimerTable)) :
      (after.write tenant change).1 = (store.write tenant change).1 := by
    unfold write
    rw [same]
    cases store.table? tenant with
    | none => rfl
    | some table => cases done : change table <;> simp only [done]
  cases question with
  | tenants => simp [StoreRequest.tenant?] at about
  | provision => rfl
  | save owner record =>
    obtain rfl : owner = tenant := Option.some.inj about
    cases own : StoredTimer.ofRecord record with
    | error e => simp only [answer, own]
    | ok row => simp only [answer, own, writes]
  | saveAll owner records =>
    obtain rfl : owner = tenant := Option.some.inj about
    cases own : StoredTimer.ofRecords records with
    | error e => simp only [answer, own]
    | ok rows => simp only [answer, own, writes]
  | delete owner id =>
    obtain rfl : owner = tenant := Option.some.inj about
    exact writes _
  | _ =>
    obtain rfl := Option.some.inj about
    exact reads _

theorem isSome_table?_provision (store : MemoryStore) (tenant other : String) :
    ((store.provision tenant).table? other).isSome ↔
      tenant = other ∨ (store.table? other).isSome := by
  rw [table?_provision]
  by_cases same : tenant = other <;> simp [same]

theorem provisions (tenant : String) : TimerStore.Provisions MemoryStore tenant := by
  have founded : (MemoryStore.empty.provision tenant).table? tenant = some [] := by
    rw [table?_provision, if_pos rfl]
    rfl
  refine ⟨.empty, rfl, ?_⟩
  show ((MemoryStore.empty.provision tenant).read tenant fun table => table.select fun _ =>
    true).1 = .ok []
  simp [read, founded, TimerTable.select]

end MemoryStore

theorem TimerStore.Provisions.not_separates {σ : Type} [TimerStore σ] {tenant : String}
    (provisions : TimerStore.Provisions σ tenant) : ¬ TimerStore.Separates σ tenant tenant := by
  intro separates
  obtain ⟨store, missing, founded⟩ := provisions
  have same := separates store (.provision tenant) (.list tenant) rfl rfl
  rw [founded, missing] at same
  cases same

/-- In memory every tenant has a table of its own. -/
theorem MemoryStore.separates_iff {tenant other : String} :
    TimerStore.Separates MemoryStore tenant other ↔ tenant ≠ other := by
  constructor
  · rintro separates rfl
    exact (provisions tenant).not_separates separates
  · intro apart store request question about asked
    refine answer_congr asked ((answers store request).elsewhere fun same => apart ?_)
    exact Option.some.inj (about.symm.trans same)

namespace SchemaStore

/-- The request with the tenant's schema in the place of the tenant. -/
def inSchema : StoreRequest → StoreRequest
  | .findById tenant id => .findById (schemaName tenant) id
  | .findByNaturalKey tenant key => .findByNaturalKey (schemaName tenant) key
  | .findByModuleAndKind tenant name kind => .findByModuleAndKind (schemaName tenant) name kind
  | .findByModuleAndEnabled tenant name enabled =>
    .findByModuleAndEnabled (schemaName tenant) name enabled
  | .page tenant offset limit => .page (schemaName tenant) offset limit
  | .list tenant => .list (schemaName tenant)
  | .save tenant record => .save (schemaName tenant) record
  | .saveAll tenant records => .saveAll (schemaName tenant) records
  | .delete tenant id => .delete (schemaName tenant) id
  | .tenants => .tenants
  | .provision tenant => .provision (schemaName tenant)

theorem tenant?_inSchema (request : StoreRequest) :
    (inSchema request).tenant? = request.tenant?.map schemaName := by
  cases request <;> rfl

variable {δ : Type} [TimerStore δ]

/-- A request is refused before the database hears of it, or leaves the database as the request to
the schema does. -/
theorem answer_database (request : StoreRequest) (store : SchemaStore δ) :
    (answer request store).2 = store ∨
      (answer request store).2 = ⟨(TimerStore.answer (inSchema request) store.database).2⟩ := by
  cases request with
  | save tenant record =>
    cases own : StoredTimer.ofRecord record with
    | error e => exact .inl (by simp only [answer, own])
    | ok row => exact .inr (by simp only [answer, own, relay, inSchema])
  | saveAll tenant records =>
    cases own : StoredTimer.ofRecords records with
    | error e => exact .inl (by simp only [answer, own])
    | ok rows => exact .inr (by simp only [answer, own, relay, inSchema])
  | _ => exact .inr rfl

/-- Databases that answer the same for the schema make the same answer to the tenant. -/
theorem answer_congr {question : StoreRequest} {store after : SchemaStore δ}
    (same : (TimerStore.answer (inSchema question) after.database).1 =
      (TimerStore.answer (inSchema question) store.database).1) :
    (answer question after).1 = (answer question store).1 := by
  cases question with
  | save tenant record =>
    cases own : StoredTimer.ofRecord record with
    | error e => simp only [answer, own]
    | ok row =>
      simp only [answer, own, relay]
      exact congrArg
        (fun result => (result.mapError (StoreError.toldTo tenant)).map fun _ => record) same
  | saveAll tenant records =>
    cases own : StoredTimer.ofRecords records with
    | error e => simp only [answer, own]
    | ok rows =>
      simp only [answer, own, relay]
      exact congrArg
        (fun result => (result.mapError (StoreError.toldTo tenant)).map fun _ => records) same
  | tenants => exact congrArg (Except.map (List.filterMap tenantOfSchema?)) same
  | _ => exact congrArg (Except.mapError _) same

/-- A database that keeps two schemas apart keeps their tenants apart. -/
theorem separates_of_schemas {tenant other : String}
    (apart : TimerStore.Separates δ (schemaName tenant) (schemaName other)) :
    TimerStore.Separates (SchemaStore δ) tenant other := by
  intro store request question about asked
  have aboutSchema : (inSchema request).tenant? = some (schemaName tenant) := by
    rw [tenant?_inSchema, about]; rfl
  have askedSchema : (inSchema question).tenant? = some (schemaName other) := by
    rw [tenant?_inSchema, asked]; rfl
  show (answer question (answer request store).2).1 = (answer question store).1
  rcases answer_database request store with unheard | heard
  · rw [unheard]
  · rw [heard]
    exact answer_congr (apart store.database _ _ aboutSchema askedSchema)

/-- Tenants of one schema are not kept apart: to provision the one is to provision the other. -/
theorem not_separates_of_schemaName_eq {tenant other : String}
    (provisions : TimerStore.Provisions δ (schemaName other))
    (same : schemaName tenant = schemaName other) :
    ¬ TimerStore.Separates (SchemaStore δ) tenant other := by
  intro separates
  obtain ⟨database, missing, founded⟩ := provisions
  have shared : (TimerStore.answer (.list (schemaName other))
      (TimerStore.answer (.provision (schemaName tenant)) database).2).1 = .ok [] := by
        rw [same, founded]
  have unchanged : (answer (.list other) (answer (.provision tenant) ⟨database⟩).2).1 =
      (answer (.list other) ⟨database⟩).1 :=
        separates ⟨database⟩ (.provision tenant) (.list other) rfl rfl
  simp only [answer, relay, shared, missing] at unchanged
  cases unchanged

/-- What a tenant saves, the tenant of the same letters deletes. -/
example :
    let founded := (answer (.provision "North") (⟨.empty⟩ : SchemaStore MemoryStore)).2
    let saved := (answer (.save "North" (MemoryStore.pathTimer 1 "/run")) founded).2
    (answer (.delete "north" (.ofBits 1)) saved).1.toOption = some true := by
  decide +kernel

/-! ### Tenants that a rebuild finds -/

/-- The database has tables in the schemas of these tenants and in no others, and it answers when it
is asked for its schemas and for what they hold. -/
structure Houses (database : δ) (tenants : List String) : Prop where
  named : ∀ tenant ∈ tenants, isTenantName tenant = true
  schemas : ∃ schemas, TimerStore.answer .tenants database = (.ok schemas, database) ∧
    ∀ schema, schema ∈ schemas ↔ ∃ tenant ∈ tenants, schemaName tenant = schema
  listed : ∀ tenant ∈ tenants, TimerStore.Lists database (schemaName tenant)

variable {ε : Type} [SchedulingEngine ε] {database : δ} {tenants : List String}
  {world : World (SchemaStore δ) ε}

/-- A rebuild lists the timers of each tenant under the name that is read off the tenant's schema,
which is the tenant's own name just if that has no capital letter, and registers jobs under these
names only. -/
structure Revisits (world : World (SchemaStore δ) ε) (tenants : List String) : Prop where
  visited : ∀ name, name ∈ world.listings Registry.rebuildAll ↔
    ∃ tenant ∈ tenants, tenantOfSchema? (schemaName tenant) = some name
  own : ∀ tenant ∈ tenants, tenant ∈ world.listings Registry.rebuildAll ↔ InSmallLetters tenant
  jobs : ∀ exchange ∈ world.exchanges Registry.rebuildAll,
    exchange.request.JobsWithin (world.listings Registry.rebuildAll)

theorem lists_of_schema {tenant : String} (listed : TimerStore.Lists database (schemaName tenant)) :
    TimerStore.Lists (SchemaStore.mk database) tenant := by
  obtain ⟨records, answered⟩ := listed
  refine ⟨records, ?_⟩
  show relay ⟨database⟩ tenant (.list (schemaName tenant)) = _
  rw [relay, answered]
  rfl

namespace Houses

/-- The names that are read off the schemas are those of the tenants in small letters. -/
theorem mem_names_iff (houses : Houses database tenants) {schemas : List String}
    (complete : ∀ schema, schema ∈ schemas ↔ ∃ tenant ∈ tenants, schemaName tenant = schema)
    (name : String) :
    name ∈ schemas.filterMap tenantOfSchema? ↔ ∃ tenant ∈ tenants, Text.lower tenant = name := by
  rw [List.mem_filterMap]
  constructor
  · rintro ⟨schema, held, named⟩
    obtain ⟨tenant, member, rfl⟩ := (complete schema).mp held
    rw [tenantOfSchema?_schemaName (houses.named tenant member), Option.some.injEq] at named
    exact ⟨tenant, member, named⟩
  · rintro ⟨tenant, member, rfl⟩
    have held := (complete (schemaName tenant)).mpr ⟨tenant, member, rfl⟩
    exact ⟨schemaName tenant, held, tenantOfSchema?_schemaName (houses.named tenant member)⟩

/-- A rebuild is given the names that are read off the schemas. It visits them all, and asks for
jobs of no others. -/
theorem exists_names (houses : Houses world.store.database tenants) :
    ∃ names, world.listings Registry.rebuildAll = names ∧
      (∀ name, name ∈ names ↔ ∃ tenant ∈ tenants, Text.lower tenant = name) ∧
      ∀ exchange ∈ world.exchanges Registry.rebuildAll, exchange.request.JobsWithin names := by
  obtain ⟨schemas, answered, complete⟩ := houses.schemas
  have members := houses.mem_names_iff complete
  have fit : ∀ name ∈ schemas.filterMap tenantOfSchema?, isTenantName name = true := by
    intro name member
    obtain ⟨tenant, held, rfl⟩ := (members name).mp member
    exact isTenantName_lower (houses.named tenant held)
  have listed : ∀ name ∈ schemas.filterMap tenantOfSchema?, isTenantName name = true →
      TimerStore.Lists world.store name := by
    intro name member _
    obtain ⟨tenant, held, rfl⟩ := (members name).mp member
    apply lists_of_schema
    rw [schemaName_lower (houses.named tenant held)]
    exact houses.listed tenant held
  have named : TimerStore.answer .tenants world.store =
      (.ok (schemas.filterMap tenantOfSchema?), world.store) := by
    show answer .tenants world.store = _
    simp only [answer, answered]
    rfl
  refine ⟨_, ?_, members, fun exchange member => ?_⟩
  · rw [Registry.rebuildAll, World.listings_bind (Registry.run_ask named),
      Registry.listings_ask named, Registry.listings_rebuildTenants listed,
      List.filter_eq_self.mpr fit]
    rfl
  · rw [Registry.rebuildAll, World.exchanges_bind, Registry.run_ask named] at member
    rcases List.mem_append.mp member with first | later
    · exact World.allowed_of_mem_exchanges (Registry.ask_jobsWithin .tenants _) world first
    · have asks := Registry.rebuildTenants_jobsWithin (schemas.filterMap tenantOfSchema?)
      rw [List.filter_eq_self.mpr fit] at asks
      exact World.allowed_of_mem_exchanges asks world later

theorem revisits (houses : Houses world.store.database tenants) : Revisits world tenants := by
  obtain ⟨names, visits, members, jobs⟩ := houses.exists_names
  refine ⟨fun name => ?_, fun tenant member => ?_, visits ▸ jobs⟩
  · rw [visits, members]
    refine exists_congr fun tenant => and_congr_right fun held => ?_
    rw [tenantOfSchema?_schemaName (houses.named tenant held), Option.some.injEq]
  · rw [visits, members]
    constructor
    · rintro ⟨other, held, rfl⟩
      exact inSmallLetters_lower (houses.named other held)
    · exact fun small =>
        ⟨tenant, member, (lower_eq_self_iff (houses.named tenant member)).mpr small⟩

end Houses

/-- Tenants share a schema, and with it whatever they store, just if their names differ in the case
of letters at most, while in memory no two tenants share a table. The name that is read off a
tenant's schema has this schema as well, but is the tenant's own only if that has no capital letter;
so it is with the names under which a rebuild visits the tenants. -/
theorem schemas_shared_iff (fit : isTenantName name = true) (otherFit : isTenantName other = true)
    (separates : schemaName name ≠ schemaName other →
      TimerStore.Separates δ (schemaName name) (schemaName other))
    (provisions : TimerStore.Provisions δ (schemaName other))
    (houses : Houses world.store.database tenants) :
    (schemaName name = schemaName other ↔ SameButForCase name other) ∧
      (TimerStore.Separates (SchemaStore δ) name other ↔ ¬ SameButForCase name other) ∧
      (TimerStore.Separates MemoryStore name other ↔ name ≠ other) ∧
      (∃ plain, tenantOfSchema? (schemaName name) = some plain ∧ isTenantName plain = true ∧
        schemaName plain = schemaName name ∧ (plain = name ↔ InSmallLetters name)) ∧
      Revisits world tenants := by
  have shared := schemaName_eq_iff fit otherFit
  refine ⟨shared, ⟨fun apart same => ?_, fun apart => ?_⟩, MemoryStore.separates_iff, ?_,
    houses.revisits⟩
  · exact not_separates_of_schemaName_eq provisions (shared.mpr same) apart
  · exact separates_of_schemas (separates (mt shared.mp apart))
  · exact ⟨Text.lower name, tenantOfSchema?_schemaName fit, isTenantName_lower fit,
      schemaName_lower fit, lower_eq_self_iff fit⟩

/-! ### A tenant with a capital letter -/

/-- Tables in memory under the names of schemas are a database that houses the tenants of these
schemas. -/
theorem houses_of_tables {store : MemoryStore}
    (named : ∀ tenant ∈ tenants, isTenantName tenant = true)
    (tables : ∀ schema, (store.table? schema).isSome ↔
      ∃ tenant ∈ tenants, schemaName tenant = schema) :
    Houses store tenants where
  named := named
  schemas :=
    ⟨store.tenantNames, rfl,
    fun schema => (MemoryStore.mem_tenantNames store schema).trans (tables schema)⟩
  listed tenant member := by
    obtain ⟨table, held⟩ :=
      Option.isSome_iff_exists.mp ((tables (schemaName tenant)).mpr ⟨tenant, member, rfl⟩)
    refine ⟨table.select fun _ => true, ?_⟩
    show MemoryStore.read store (schemaName tenant) (·.select fun _ => true) = _
    rw [MemoryStore.read, held]

/-- Two tenants have been given tables in a database. -/
def boarding : World (SchemaStore MemoryStore) LocalEngine where
  store := (answer (.provision "South") (answer (.provision "north") ⟨.empty⟩).2).2
  engine := .empty
  sources := ⟨fun _ => default, Uuid.ofBits, 0, 0⟩

theorem houses_boarding : Houses boarding.store.database ["north", "South"] := by
  refine houses_of_tables (by decide +kernel) fun schema => ?_
  have founded : boarding.store.database =
      (MemoryStore.empty.provision (schemaName "north")).provision (schemaName "South") := rfl
  have vacant : (MemoryStore.empty.table? schema).isSome = false := rfl
  rw [founded, MemoryStore.isSome_table?_provision, MemoryStore.isSome_table?_provision, vacant]
  simp [or_comm]

/-- The two are kept apart, and a rebuild visits the second under another name than its own. -/
theorem capital_visited_in_small_letters :
    TimerStore.Separates (SchemaStore MemoryStore) "north" "South" ∧
      "north" ∈ boarding.listings Registry.rebuildAll ∧
      "south" ∈ boarding.listings Registry.rebuildAll ∧
      "South" ∉ boarding.listings Registry.rebuildAll := by
  have fit : isTenantName "north" = true := by decide +kernel
  have otherFit : isTenantName "South" = true := by decide +kernel
  obtain ⟨_, separates, _, _, revisits⟩ :=
    schemas_shared_iff fit otherFit MemoryStore.separates_iff.mpr
    (MemoryStore.provisions (schemaName "South")) houses_boarding
  refine ⟨separates.mpr (by decide +kernel), ?_, ?_, ?_⟩
  · exact (revisits.own "north" (by simp)).mpr (by decide +kernel)
  · exact (revisits.visited "south").mpr ⟨"South", by simp, by decide +kernel⟩
  · exact mt (revisits.own "South" (by simp)).mp (by decide +kernel)

/-- Two tenants have one schema, and a rebuild does not visit the one with a capital letter under
its own name. -/
theorem capital_shares_schema :
    ¬ (∀ name other, isTenantName name = true → isTenantName other = true → name ≠ other →
        schemaName name ≠ schemaName other) ∧
      ¬ ∀ (world : World (SchemaStore MemoryStore) LocalEngine) (tenants : List String),
        Houses world.store.database tenants →
          ∀ tenant ∈ tenants, tenant ∈ world.listings Registry.rebuildAll := by
  constructor
  · intro apart
    exact apart "South" "south" (by decide +kernel) (by decide +kernel) (by decide)
      (by decide +kernel)
  · intro visited
    have own := visited boarding ["north", "South"] houses_boarding "South" (by simp)
    exact absurd ((houses_boarding.revisits.own "South" (by simp)).mp own) (by decide +kernel)

end SchemaStore

end Horarium
