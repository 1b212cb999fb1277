/-
Module: Horarium.Proofs.Deduplication
Purpose: Deduplication on creation: a timer that is created is afterwards the one timer of its
  tenant that has its natural key. Where the tenant had no such timer, there is one row more; where
  it had one, the creation is the update of that timer.
Trusted boundary: none
Main exports: TimerRecord.prepare_withId, Registry.Deduplicates, History.create_deduplicates
-/
import Horarium.Proofs.JobAgreement

namespace Horarium

namespace TimerRecord

variable {record named : TimerRecord}

/-- Which id a record carries does not matter to the derivation of its module name. -/
theorem resolveModuleName_withId (resolved : record.resolveModuleName = .ok named)
    (id : Option Uuid) :
    ({ record with id } : TimerRecord).resolveModuleName = .ok { named with id } := by
  obtain ⟨_, kind, moduleName, moduleId, enabled, routingEntry, metadata⟩ := record
  unfold resolveModuleName at resolved ⊢
  cases moduleId with
  | none =>
    obtain rfl := Except.ok.inj resolved
    rfl
  | some moduleId =>
    simp only at resolved ⊢
    by_cases blank : Text.isAllBlank moduleId.toList = true
    · rw [if_pos blank] at resolved ⊢
      obtain rfl := Except.ok.inj resolved
      rfl
    · rw [if_neg blank] at resolved ⊢
      cases derived : ModuleName.ofId moduleId with
      | error e => simp [derived, bind, Except.bind] at resolved
      | ok name =>
        rw [derived] at resolved
        obtain rfl := Except.ok.inj resolved
        rfl

/-- Nor does it matter to the checks. -/
theorem prepare_withId (prepared : record.prepare = .ok named) (id : Option Uuid) :
    ({ record with id } : TimerRecord).prepare = .ok { named with id } := by
  obtain ⟨kind, entry, kindGiven, declared, valid, resolved, hasModule, computed⟩ :=
    prepare_eq_ok_iff.mp prepared
  exact prepare_eq_ok_iff.mpr ⟨kind, entry, kindGiven, declared, valid,
    resolveModuleName_withId resolved id, hasModule, computed⟩

end TimerRecord

/-! ### How many timers a tenant has -/

namespace MemoryStore

variable {store after : MemoryStore} {tenant : String} {id : Uuid} {new : Option TimerRecord}

/-- The ids of a tenant's rows. -/
def rowIds (store : MemoryStore) (tenant : String) : List Uuid :=
  ((store.table? tenant).getD []).map (·.id)

/-- How many rows a tenant has. -/
def rowCount (store : MemoryStore) (tenant : String) : Nat := ((store.table? tenant).getD []).length

theorem length_rowIds (store : MemoryStore) (tenant : String) :
    (store.rowIds tenant).length = store.rowCount tenant := List.length_map _

theorem mem_rowIds : id ∈ store.rowIds tenant ↔ (store.stored tenant id).isSome := by
  unfold rowIds stored
  cases store.table? tenant with
  | none => simp
  | some table => simp [TimerTable.row?]

theorem WellFormed.nodup_rowIds (good : store.WellFormed) (tenant : String) :
    (store.rowIds tenant).Nodup := by
  unfold rowIds
  cases held : store.table? tenant with
  | none => exact List.nodup_nil
  | some table => exact (good tenant table held).ids

namespace Sets

variable (sets : Sets tenant id new store after) (good : store.WellFormed)
include sets good

/-- A next version of a row is no other row. -/
theorem rowCount_of_stored (held : (store.stored tenant id).isSome) (present : new.isSome) :
    after.rowCount tenant = store.rowCount tenant := by
  have same : ∀ other, other ∈ after.rowIds tenant ↔ other ∈ store.rowIds tenant := by
    intro other
    rw [mem_rowIds, mem_rowIds, sets.stored]
    by_cases here : other = id
    · simp [here, held, present]
    · rw [if_neg here]
  have permuted := (List.perm_ext_iff_of_nodup ((sets.wellFormed good).nodup_rowIds tenant)
    (good.nodup_rowIds tenant)).mpr same
  rw [← length_rowIds, ← length_rowIds, permuted.length_eq]

/-- What is stored under a free id is one row more. -/
theorem rowCount_of_unstored (free : store.stored tenant id = none) (present : new.isSome) :
    after.rowCount tenant = store.rowCount tenant + 1 := by
  have added : ∀ other, other ∈ after.rowIds tenant ↔ other ∈ id :: store.rowIds tenant := by
    intro other
    rw [List.mem_cons, mem_rowIds, mem_rowIds, sets.stored]
    by_cases here : other = id
    · simp [here, present]
    · simp [here]
  have apart : id ∉ store.rowIds tenant := by simp [mem_rowIds, free]
  have permuted := (List.perm_ext_iff_of_nodup ((sets.wellFormed good).nodup_rowIds tenant)
    (List.nodup_cons.mpr ⟨apart, good.nodup_rowIds tenant⟩)).mpr added
  rw [← length_rowIds, ← length_rowIds, permuted.length_eq, List.length_cons]

end Sets

end MemoryStore

namespace Registry

section Folding

variable {ε : Type} [SchedulingEngine ε] {P : World MemoryStore ε → Request → Prop}
  {world after : World MemoryStore ε} {ctx : Context} {id : Uuid} {input record old : TimerRecord}
  {outcome : Except RegistryError TimerRecord}

/-- A creation whose natural key is taken goes on as an update of the timer that has it. -/
theorem create_applies (good : world.store.WellFormed) (prepared : input.prepare = .ok record)
    (unstored : ∀ given, input.id = some given → world.store.stored ctx.tenant given = none)
    (held : world.store.stored ctx.tenant id = some old)
    (namesake : old.naturalKey = record.naturalKey)
    (runs : World.Runs P world (create ctx input) outcome after) :
    World.Runs P world (applyUpdate ctx old { record with id := some id }) outcome after := by
  obtain ⟨key, keyed⟩ := TimerRecord.exists_naturalKey_of_prepare prepared
  have provisioned := world.store.isSome_table?_of_stored held
  unfold create at runs
  rcases refuseTaken_inv runs with ⟨_, missing | ⟨given, named, taken⟩⟩ | ⟨_, preparing⟩
  · simp [missing] at provisioned
  · simp [unstored given named] at taken
  rw [prepared] at preparing
  have keying :
      World.Runs P world (Procedure.ofExcept .ofInput record.naturalKey >>= _) outcome after :=
    preparing
  rw [keyed] at keying
  have finding : World.Runs P world (ask (.findByNaturalKey ctx.tenant key) >>= _) outcome after :=
    keying
  rcases findByNaturalKey_inv good finding with ⟨missing, _⟩ | ⟨_, found, present, absent, writing⟩
  · simp [missing] at provisioned
  cases found with
  | none => exact absurd (namesake.trans keyed) (absent rfl id old held)
  | some existing =>
    -- The key tells which of the tenant's records it is.
    obtain ⟨other, stored, same⟩ := present existing rfl
    obtain rfl := good.id_unique held stored ((namesake.trans keyed).trans same.symm)
    obtain rfl := Option.some.inj (held.symm.trans stored)
    simpa only [good.id_of_stored held] using writing

/-- An update of a stored timer goes on with what passes the checks. -/
theorem update_applies (prepared : input.prepare = .ok record) (named : input.id = some id)
    (held : world.store.stored ctx.tenant id = some old)
    (runs : World.Runs P world (update ctx id input) outcome after) :
    World.Runs P world (applyUpdate ctx old record) outcome after := by
  have provisioned := world.store.isSome_table?_of_stored held
  unfold update at runs
  rw [if_neg (by simp [named]), prepared] at runs
  have finding : World.Runs P world (ask (.findById ctx.tenant id) >>= _) outcome after := runs
  rcases findById_inv finding with ⟨missing, _⟩ | ⟨_, writing⟩
  · simp [missing] at provisioned
  rw [held] at writing
  exact writing

/-- Creating a timer whose natural key is taken is updating the timer that has it: the caller is
answered alike, and store, engine and clock are left alike. -/
theorem create_eq_update (good : world.store.WellFormed) (prepared : input.prepare = .ok record)
    (unstored : ∀ given, input.id = some given → world.store.stored ctx.tenant given = none)
    (held : world.store.stored ctx.tenant id = some old)
    (namesake : old.naturalKey = record.naturalKey) :
    world.run (create ctx input) = world.run (update ctx id { input with id := some id }) := by
  have creating :=
    create_applies good prepared unstored held namesake (world.runs (create ctx input))
  have passes := TimerRecord.prepare_withId prepared (some id)
  have updating :=
    update_applies passes rfl held (world.runs (update ctx id { input with id := some id }))
  exact creating.run_eq.symm.trans updating.run_eq

end Folding

variable {ε : Type} [JobEngine ε] {world after : World MemoryStore ε} {ctx : Context} {id : Uuid}
  {input record saved old : TimerRecord}

/-- A creation that adds a timer. -/
structure Adds (ctx : Context) (input : TimerRecord) (id : Uuid) (saved : TimerRecord)
    (world after : World MemoryStore ε) : Prop where
  free : world.store.stored ctx.tenant id = none
  source : input.id = some id ∨
    input.id = none ∧ id = world.nextId ∧ ∀ tenant, world.store.stored tenant id = none
  metadata :
    saved.metadata = some ⟨some world.nextInstant, ctx.user, some world.nextInstant, ctx.user⟩
  rowCount : after.store.rowCount ctx.tenant = world.store.rowCount ctx.tenant + 1

/-- A creation that turns out to be an update. -/
structure Folds (ctx : Context) (input : TimerRecord) (id : Uuid) (old saved : TimerRecord)
    (world after : World MemoryStore ε) : Prop where
  metadata : saved.metadata = some { old.metadata.getD default with
    updatedDate := some world.nextInstant, updatedBy := ctx.user }
  rowCount : after.store.rowCount ctx.tenant = world.store.rowCount ctx.tenant
  updates : world.run (create ctx input) = world.run (update ctx id { input with id := some id })

/-- What the creation of a timer does, which has come out of the checks as `record`. -/
structure Deduplicates (ctx : Context) (input record : TimerRecord) (id : Uuid)
    (saved : TimerRecord) (world after : World MemoryStore ε) : Prop where
  named : saved.id = some id
  restates : saved.Restates record
  /-- No other row of the tenant changes, nor does any other tenant. -/
  sets : MemoryStore.Sets ctx.tenant id (some saved) world.store after.store
  unique : ∀ other held, after.store.stored ctx.tenant other = some held →
    (held.naturalKey = record.naturalKey ↔ other = id)
  adds : (∀ other held, world.store.stored ctx.tenant other = some held →
    held.naturalKey ≠ record.naturalKey) → Adds ctx input id saved world after
  folds : ∀ other old, world.store.stored ctx.tenant other = some old →
    old.naturalKey = record.naturalKey → other = id ∧ Folds ctx input id old saved world after
  jobs : ∀ key, key ≠ id.toText → after.roster key = world.roster key

/-- What is stored under its place is afterwards the one record with its natural key. -/
theorem Stores.unique_key {c : Circumstances} {outcome : Except RegistryError TimerRecord}
    (stores : Stores c ctx input record id saved world outcome after) {other : Uuid}
    {held : TimerRecord} (stored : after.store.stored ctx.tenant other = some held) :
    held.naturalKey = record.naturalKey ↔ other = id := by
  have key : saved.naturalKey = record.naturalKey := stores.restates.naturalKey
  have here : after.store.stored ctx.tenant id = some saved := by
    rw [stores.written.sets.stored, if_pos rfl]
  constructor
  · intro same
    exact stores.written.sound.wellFormed.id_unique stored here (same.trans key.symm)
  · rintro rfl
    rw [← Option.some.inj (here.symm.trans stored), key]

/-- A first version, under the id that is chosen for it, is one more row. -/
theorem adds_of_chosen {committed : World MemoryStore ε} (good : world.store.WellFormed)
    (chosen : Chosen Circumstances.steady.Admits world ctx.tenant input saved id none)
    (commits : Commits ctx record id none saved world committed)
    (sets : MemoryStore.Sets ctx.tenant id (some saved) world.store after.store) :
    Adds ctx input id saved world after := by
  have free : world.store.stored ctx.tenant id = none := chosen.stored
  refine ⟨free, ?_, ?_, sets.rowCount_of_unstored good free rfl⟩
  · cases chosen with
    | given named _ _ => exact .inl named
    | generated unnamed next fresh _ =>
      subst next
      exact .inr ⟨unnamed, rfl, fresh⟩
  · rw [commits.version]
    rfl

/-- A next version of the timer with the natural key is an update of it. -/
theorem folds_of_commits {committed : World MemoryStore ε} (good : world.store.WellFormed)
    (prepared : input.prepare = .ok record)
    (unstored : ∀ given, input.id = some given → world.store.stored ctx.tenant given = none)
    (namesake : old.naturalKey = record.naturalKey)
    (commits : Commits ctx record id (some old) saved world committed)
    (sets : MemoryStore.Sets ctx.tenant id (some saved) world.store after.store) :
    Folds ctx input id old saved world after := by
  have held := commits.known old rfl
  refine ⟨?_, sets.rowCount_of_stored good ?_ rfl,
    create_eq_update good prepared unstored held namesake⟩
  · rw [commits.version]
    rfl
  · rw [held, Option.isSome_some]

end Registry

open Registry

variable {ε : Type} [SteadyEngine ε] {world : World MemoryStore ε} {ctx : Context}
  {input record : TimerRecord} {allowed : MemoryStore → Prop}

/-- Creation deduplicates: in every state that a service reaches without an outage, an input that
passes the checks is created, and is afterwards the one record of its tenant with its natural
key. -/
theorem History.create_deduplicates (history : History allowed world)
    (provisioned : (world.store.table? ctx.tenant).isSome) (prepared : input.prepare = .ok record)
    (unstored : ∀ given, input.id = some given → world.store.stored ctx.tenant given = none)
    (fresh : World.Throughout FreshIds world (Registry.create ctx input)) :
    ∃ id saved after, world.run (Registry.create ctx input) = (.ok saved, after) ∧
      Deduplicates ctx input record id saved world after := by
  obtain ⟨sound, steady⟩ := history.sound
  have good := sound.wellFormed
  have admitted := (fresh.runs.steady steady).1
  rcases create_commits good admitted with
    ⟨_, missing | ⟨named, taken⟩ | refused⟩ | ⟨_, id, before, saved, committed, accepted, chosen,
      commits, following⟩
  · simp [missing] at provisioned
  · simp [unstored _ named] at taken
  · simp [prepared] at refused
  obtain rfl := Except.ok.inj (prepared.symm.trans accepted)
  have stores := stores_of_commits sound prepared chosen.stored commits following
  have sets := stores.written.sets
  rcases stores.written.engine with ⟨⟨answer, succeeded⟩, roster⟩ | ⟨_, outage, _⟩
  swap
  · exact outage.elim
  obtain rfl := stores.returned answer succeeded
  have key : answer.naturalKey = record.naturalKey := commits.redeclares.naturalKey
  refine ⟨id, answer, _, Prod.ext succeeded rfl, {
    named := commits.named
    restates := commits.restates
    sets
    unique := fun _ _ stored => stores.unique_key stored
    adds := ?_
    folds := ?_
    jobs := ?_ }⟩
  · intro free
    cases before with
    | none => exact adds_of_chosen good chosen commits sets
    | some old =>
      cases chosen with
      | known _ held namesake => exact absurd (namesake.trans key) (free id old held)
  · intro other old stored namesake
    cases chosen with
    | known existing held same =>
      obtain rfl := good.id_unique stored held (namesake.trans (same.trans key).symm)
      obtain rfl := Option.some.inj (stored.symm.trans held)
      exact ⟨rfl, folds_of_commits good prepared unstored namesake commits sets⟩
    | given _ _ unique => exact absurd (namesake.trans key.symm) (unique other old stored)
    | generated _ _ _ unique => exact absurd (namesake.trans key.symm) (unique other old stored)
  · intro other apart
    rw [roster, Function.update_of_ne apart]

/-! ### A timer that is created again -/

/-- The timer that a tenant has got, every half an hour instead and under an id of its own. -/
def halfHourly : TimerRecord :=
  { TimerRecord.ofModule "mod-1.1.0" ⟨["POST"], none, some "/run", some ⟨"30", .minute⟩, none⟩ with
    id := some (.ofBits 7) }

/-- The timer that is there keeps its id, and the other id stays free. -/
theorem half_hourly_folds : ∃ saved after,
    employed.run (Registry.create ⟨"north", none, none⟩ halfHourly) = (.ok saved, after) ∧
      employed.run (Registry.update ⟨"north", none, none⟩ (.ofBits 1)
        { halfHourly with id := some (.ofBits 1) }) = (.ok saved, after) ∧
      saved.id = some (.ofBits 1) ∧ after.store.stored "north" (.ofBits 7) = none ∧
      after.store.rowCount "north" = 1 := by
  have provisioned : (employed.store.table? "north").isSome := by decide +kernel
  have fresh :
      World.Throughout FreshIds employed (Registry.create ⟨"north", none, none⟩ halfHourly) := by
    decide +kernel
  have prepared : halfHourly.prepare = .ok { halfHourly with moduleName := some "mod" } := by
    decide +kernel
  have unstored : ∀ given, halfHourly.id = some given →
      employed.store.stored "north" given = none := by
    rintro _ ⟨⟩
    decide +kernel
  obtain ⟨old, held, namesake⟩ : ∃ old, employed.store.stored "north" (.ofBits 1) = some old ∧
      old.naturalKey = ({ halfHourly with moduleName := some "mod" } : TimerRecord).naturalKey := by
    have present : (employed.store.stored "north" (.ofBits 1)).any (fun old => decide
        (old.naturalKey = ({ halfHourly with moduleName := some "mod" } : TimerRecord).naturalKey))
          = true := by
      decide +kernel
    simpa [Option.any_eq_true] using present
  obtain ⟨id, saved, after, created, deduplicates⟩ :=
    history_employed.create_deduplicates provisioned prepared unstored fresh
  obtain ⟨rfl, folds⟩ := deduplicates.folds (.ofBits 1) old held namesake
  refine ⟨saved, after, created, folds.updates ▸ created, deduplicates.named, ?_,
    folds.rowCount.trans ?_⟩
  · rw [deduplicates.sets.stored, if_neg (by decide)]
    exact unstored _ rfl
  · decide +kernel

end Horarium
