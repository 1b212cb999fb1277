/-
Module: Horarium.Proofs.Bystanders
Purpose: What the events of a module leave alone, whatever their outcome and whatever the engine
  answers: the timers of users, everything that other tenants have, and the jobs of both. A system
  timer is never mistaken for a user's because their natural keys begin differently, and an engine
  only touches the job that it is asked for.
Trusted boundary: none
Main exports: Spares, Procedure.Sheltering, Reached.apply_spares
-/
import Horarium.Proofs.FailureAtomicity
import Horarium.Proofs.ModuleUpgrade

namespace Horarium

/-- An engine of which every request, carried out or refused, touches at most the job under its
key. -/
class KeyedEngine (ε : Type) extends JobEngine ε where
  Held : Type
  held : ε → String → Option Held
  held_of_ne : ∀ {request : EngineRequest} {engine : ε} {key : String}, key ≠ request.key →
    held (SchedulingEngine.answer request engine).2 key = held engine key

section Lookup

variable {β : Type} {key other : String}

theorem lookup_concat_of_ne (apart : other ≠ key) (entries : List (String × β)) (b : β) :
    (entries ++ [(key, b)]).lookup other = entries.lookup other := by
  have free : [(key, b)].lookup other = none := by
    simp [List.lookup_cons, beq_eq_false_iff_ne.mpr apart]
  rw [List.lookup_append, free, Option.or_none]

theorem lookup_map_at_of_ne (apart : other ≠ key) (entries : List (String × β)) (change : β → β) :
    (entries.map fun (k, b) => if k = key then (k, change b) else (k, b)).lookup other
      = entries.lookup other := by
  induction entries with
  | nil => rfl
  | cons entry entries ih =>
    obtain ⟨k, b⟩ := entry
    rw [List.map_cons]
    by_cases found : k = key
    · have skipped : (other == k) = false := beq_eq_false_iff_ne.mpr (found ▸ apart)
      simp only [if_pos found, List.lookup_cons, skipped, ih]
    · simp only [if_neg found, List.lookup_cons, ih]

theorem lookup_filter_of_ne (apart : other ≠ key) (entries : List (String × β)) :
    (entries.filter fun (k, _) => k != key).lookup other = entries.lookup other := by
  induction entries with
  | nil => rfl
  | cons entry entries ih =>
    obtain ⟨k, b⟩ := entry
    by_cases found : k = key
    · have skipped : (other == k) = false := beq_eq_false_iff_ne.mpr (found ▸ apart)
      rw [List.filter_cons_of_neg (by simp [found]), List.lookup_cons, skipped, ih]
    · rw [List.filter_cons_of_pos (by simp [found]), List.lookup_cons, List.lookup_cons, ih]

end Lookup

theorem RecordingEngine.lookup_perform_of_ne {request : EngineRequest} {key : String}
    (apart : key ≠ request.key) (jobs : List (String × Job)) :
    (perform request jobs).2.lookup key = jobs.lookup key := by
  cases request with
  | register taken trigger data =>
    simp only [perform]
    split
    · rfl
    · exact lookup_concat_of_ne apart _ _
  | replace taken trigger => exact lookup_map_at_of_ne apart _ fun job : Job => { job with trigger }
  | remove taken => exact lookup_filter_of_ne apart _

instance : KeyedEngine RecordingEngine where
  Held := Job
  held := RecordingEngine.job?
  held_of_ne := by
    intro request engine key apart
    rcases RecordingEngine.answer_eq request engine with ⟨_, _, kept⟩ | ⟨_, performed⟩
    · exact congrArg (List.lookup key) kept
    · exact (congrArg (List.lookup key) performed).trans
        (RecordingEngine.lookup_perform_of_ne apart _)

theorem LocalEngine.job?_answer_of_ne {request : EngineRequest} {key : String}
    (apart : key ≠ request.key) (engine : LocalEngine) :
    (answer request engine).2.job? key = engine.job? key := by
  cases request with
  | register taken trigger data =>
    simp only [answer]
    split
    · rfl
    · split
      · rfl
      · exact lookup_concat_of_ne apart _ _
  | replace taken trigger =>
    simp only [answer]
    split
    · rfl
    · split
      · rfl
      · exact lookup_map_at_of_ne apart _ 
          fun job : LocalJob => { job with trigger, since := engine.now }
  | remove taken => exact lookup_filter_of_ne apart _

instance : KeyedEngine LocalEngine where
  Held := LocalJob
  held := LocalEngine.job?
  held_of_ne apart := LocalEngine.job?_answer_of_ne apart _

/-- The id is that of a user's timer of the tenant, or of a timer of another tenant. -/
def MemoryStore.Bystander (store : MemoryStore) (tenant : String) (id : Uuid) : Prop :=
  (∃ record, store.stored tenant id = some record ∧ record.kind = some .user) ∨
    ∃ other, other ≠ tenant ∧ (store.stored other id).isSome

/-- The tables are well-formed, and no id of the tenant is stored for another one. -/
structure MemoryStore.SetApart (store : MemoryStore) (tenant : String) : Prop where
  wellFormed : store.WellFormed
  apart : ∀ id, (store.stored tenant id).isSome → ∀ other, other ≠ tenant →
    store.stored other id = none

/-- A change to a tenant's records is confined to certain ids, where there was no timer of a user or
of another tenant, and is no user's timer now. -/
structure MemoryStore.Confined (tenant : String) (touched : Uuid → Prop)
    (before after : MemoryStore) :
    Prop where
  within : Within tenant before after
  kept : ∀ id, ¬ touched id → after.stored tenant id = before.stored tenant id
  uninvolved : ∀ id, touched id → ¬ before.Bystander tenant id
  userless : ∀ id record, touched id → after.stored tenant id = some record →
    record.kind ≠ some .user

/-- A tenant whose ids are its own keeps them so, as others do not have the ids that are touched. -/
theorem MemoryStore.Confined.setApart {tenant : String} {touched : Uuid → Prop}
    {before after : MemoryStore} (confined : Confined tenant touched before after)
    (setApart : before.SetApart tenant) :
    after.SetApart tenant where
  wellFormed := confined.within.wellFormed setApart.wellFormed
  apart := by
    intro id present other foreign
    rw [confined.within.stored_elsewhere foreign]
    by_cases here : touched id
    · by_contra shared
      exact confined.uninvolved id here
        (.inr ⟨other, foreign, Option.isSome_iff_ne_none.mpr shared⟩)
    · rw [confined.kept id here] at present
      exact setApart.apart id present other foreign

/-- A system timer of the tenant is no bystander. -/
theorem MemoryStore.SetApart.not_bystander {store : MemoryStore} {tenant : String} {id : Uuid}
    {record : TimerRecord} (setApart : store.SetApart tenant)
    (stored : store.stored tenant id = some record) (system : record.kind = some .system) :
    ¬ store.Bystander tenant id := by
  rintro (⟨other, held, user⟩ | ⟨other, foreign, held⟩)
  · rw [stored, Option.some.injEq] at held
    simp [← held, system] at user
  · rw [setApart.apart id (by rw [stored, Option.isSome_some]) other foreign] at held
    simp at held

/-- A change of one record is confined to its id. -/
theorem MemoryStore.Sets.confined {tenant : String} {id : Uuid} {new : Option TimerRecord}
    {before after : MemoryStore} (sets : Sets tenant id new before after)
    (uninvolved : ¬ before.Bystander tenant id) (userless : ∀ record, new = some record →
      record.kind ≠ some .user) : Confined tenant (· = id) before after where
  within := sets.toWithin
  kept other apart := by rw [sets.stored, if_neg apart]
  uninvolved := by
    rintro _ rfl
    exact uninvolved
  userless := by
    rintro _ record rfl stored
    rw [sets.stored, if_pos rfl] at stored
    exact userless record stored

variable {ε : Type} [KeyedEngine ε] {world middle after : World MemoryStore ε} {tenant : String}
  {id : Uuid}

/-- What users and other tenants have has stayed as it was: their records, and the jobs under their
ids. -/
structure Spares (tenant : String) (world after : World MemoryStore ε) : Prop where
  elsewhere : ∀ other, other ≠ tenant → after.store.table? other = world.store.table? other
  users : ∀ id record, record.kind = some .user →
    (after.store.stored tenant id = some record ↔ world.store.stored tenant id = some record)
  jobs : ∀ id, world.store.Bystander tenant id →
    KeyedEngine.held after.engine id.toText = KeyedEngine.held world.engine id.toText

namespace Spares

theorem refl (tenant : String) (world : World MemoryStore ε) : Spares tenant world world :=
  ⟨fun _ _ => rfl, fun _ _ _ => Iff.rfl, fun _ _ => rfl⟩

/-- Who is a bystander before is one afterwards, and the other way round. -/
theorem bystander_iff (spares : Spares tenant world after) :
    after.store.Bystander tenant id ↔ world.store.Bystander tenant id := by
  have others : ∀ other, other ≠ tenant →
      after.store.stored other id = world.store.stored other id := by
    intro other apart
    rw [MemoryStore.stored, MemoryStore.stored, spares.elsewhere other apart]
  unfold MemoryStore.Bystander
  apply or_congr
  · exact exists_congr fun record => and_congr_left fun user => spares.users id record user
  · exact exists_congr fun other => and_congr_right fun apart => by rw [others other apart]

theorem trans (first : Spares tenant world middle) (second : Spares tenant middle after) :
    Spares tenant world after where
  elsewhere other apart := (second.elsewhere other apart).trans (first.elsewhere other apart)
  users id record user := (second.users id record user).trans (first.users id record user)
  jobs id bystander :=
    (second.jobs id (first.bystander_iff.mpr bystander)).trans (first.jobs id bystander)

/-- A confined change spares everybody else, if it moves no other jobs than those under its ids. -/
theorem of_confined {touched : Uuid → Prop}
    (confined : MemoryStore.Confined tenant touched world.store after.store)
    (jobs : ∀ key, (∀ id, touched id → id.toText ≠ key) →
      KeyedEngine.held after.engine key = KeyedEngine.held world.engine key) :
    Spares tenant world after where
  elsewhere := confined.within.elsewhere
  users := by
    intro id record user
    by_cases here : touched id
    · apply iff_of_false
      · exact fun stored => confined.userless id record here stored user
      · exact fun stored => confined.uninvolved id here (.inl ⟨record, stored, user⟩)
    · rw [confined.kept id here]
  jobs := by
    intro id bystander
    apply jobs
    intro other here same
    exact confined.uninvolved other here (Uuid.toText_injective same ▸ bystander)

end Spares

/-- What is asked for the jobs of some records leaves every other job. -/
theorem World.held_of_asks {δ α : Type} {records : List TimerRecord} {p : Procedure δ α}
    (only : p.Asks (Request.IsForJobOf records)) (world : World MemoryStore ε) {key : String}
    (apart : ∀ record ∈ records, record.jobKey? ≠ some key) :
    KeyedEngine.held (world.run p).2.engine key = KeyedEngine.held world.engine key := by
  induction only generalizing world with
  | done a => rfl
  | fail e => rfl
  | @ask request next about _ ih =>
    cases request with
    | engine request =>
      obtain ⟨record, listed, asked⟩ := about
      have other : key ≠ request.key := fun same => apart record listed (same ▸ asked)
      exact (ih _ (world.answer (.engine request)).2).trans (KeyedEngine.held_of_ne other)
    | store request => exact about.elim
    | now => exact about.elim
    | newId => exact about.elim

/-- Everybody else is spared, and the tenant's ids are its own afterwards. -/
def Shelters (tenant : String) (world after : World MemoryStore ε) : Prop :=
  Spares tenant world after ∧ after.store.SetApart tenant

/-- A confined change of the store shelters everybody else, when the engine is brought in line with
records under the ids that the change is confined to. -/
theorem World.Runs.shelters {δ α : Type} {P : World MemoryStore ε → Request → Prop}
    {p : Procedure δ α} {outcome : Except δ α} {records : List TimerRecord} {touched : Uuid → Prop}
    (runs : World.Runs P middle p outcome after) (only : p.Asks (Request.IsForJobOf records))
    (named : ∀ record ∈ records, ∃ id, touched id ∧ record.id = some id)
    (engine : middle.engine = world.engine) (setApart : world.store.SetApart tenant)
    (confined : MemoryStore.Confined tenant touched world.store middle.store) :
    Shelters tenant world after := by
  have ended := runs.run_eq
  have store : after.store = middle.store := by
    rw [← (middle.run_of_asks_engine (only.mono fun _ => Request.IsForJobOf.isEngine)).1, ended]
  rw [← store] at confined
  refine ⟨.of_confined confined ?_, confined.setApart setApart⟩
  intro key untouched
  have unasked := middle.held_of_asks only fun record listed => by
    obtain ⟨id, here, given⟩ := named record listed
    rw [TimerRecord.jobKey?, given, Option.map_some, ne_eq, Option.some.injEq]
    exact untouched id here
  rw [ended, engine] at unasked
  exact unasked

theorem Shelters.refl (setApart : world.store.SetApart tenant) : Shelters tenant world world :=
  ⟨.refl tenant world, setApart⟩

theorem Shelters.trans (first : Shelters tenant world middle)
    (second : Shelters tenant middle after) :
    Shelters tenant world after :=
  ⟨first.1.trans second.1, second.2⟩

/-- Nobody is touched where store and engine are as they were. -/
theorem Shelters.of_unchanged (setApart : world.store.SetApart tenant)
    (store : after.store = world.store) (engine : after.engine = world.engine) :
    Shelters tenant world after := by
  refine ⟨⟨?_, ?_, ?_⟩, store ▸ setApart⟩
  · exact fun other _ => by rw [store]
  · exact fun id record _ => by rw [store]
  · exact fun id _ => by rw [engine]

namespace Registry

variable {ctx : Context}

/-- Creating a timer that a module declares shelters everybody else: it goes to a system timer of
the tenant or to an id that nobody has. -/
theorem create_shelters {moduleId : String} {entry : RoutingEntry}
    {outcome : Except RegistryError TimerRecord} (setApart : world.store.SetApart ctx.tenant)
    (runs : World.Runs FreshIds world (create ctx (TimerRecord.ofModule moduleId entry))
      outcome after) :
    Shelters ctx.tenant world after := by
  rcases create_commits setApart.wellFormed runs with
    ⟨declined, _⟩ | ⟨record, id, before, saved, committed, prepared, chosen, commits, following⟩
  · exact .of_unchanged setApart declined.store declined.engine
  obtain ⟨name, _, rfl⟩ := TimerRecord.prepare_ofModule prepared
  have keyed := TimerRecord.exists_naturalKey_of_prepare prepared
  have system : saved.kind = some .system := commits.redeclares.kind
  have uninvolved : ¬ world.store.Bystander ctx.tenant id := by
    cases chosen with
    | known old held namesake =>
      apply setApart.not_bystander held
      exact TimerRecord.kind_of_namesake keyed (namesake.trans commits.redeclares.naturalKey)
    | given named => simp [TimerRecord.ofModule, default] at named
    | generated _ next fresh =>
      have unstored : ∀ tenant, world.store.stored tenant id = none := by
        rw [next]
        exact fresh
      simp [MemoryStore.Bystander, unstored]
  refine following.shelters
    (((Reconcile.follow_asks_jobs ctx before saved).mapError _).bind fun _ => .done _)
    ?_ commits.engine setApart (commits.sets.confined uninvolved ?_)
  · intro other listed
    refine ⟨id, rfl, ?_⟩
    rcases List.mem_append.mp listed with earlier | here
    · exact setApart.wellFormed.id_of_stored (commits.known other (Option.mem_toList.mp earlier))
    · rw [List.mem_singleton.mp here, commits.named]
  · rintro _ ⟨⟩
    simp [system]

/-- So does deleting a timer that is not a bystander. -/
theorem delete_shelters {outcome : Except RegistryError PUnit}
    (setApart : world.store.SetApart ctx.tenant)
    (uninvolved : ¬ world.store.Bystander ctx.tenant id)
    (runs : World.Runs FreshIds world (delete ctx id) outcome after) :
    Shelters ctx.tenant world after := by
  rcases delete_commits runs with ⟨_, _, rfl⟩ | ⟨_, _, rfl⟩ | ⟨existing, changed, stored,
    sets, dropping⟩
  · exact .refl setApart
  · exact .refl setApart
  · have unscheduling := (Reconcile.unschedule_asks_job existing).mapError RegistryError.ofTrigger
    refine dropping.shelters unscheduling ?_ rfl setApart (sets.confined uninvolved ?_)
    · intro record listed
      rw [List.mem_singleton.mp listed]
      exact ⟨id, rfl, setApart.wellFormed.id_of_stored stored⟩
    · simp

/-- Deletions one after the other do not make anybody else a bystander, or stop anybody from being
one. -/
theorem deleteEach_shelters {records : List TimerRecord} {outcome : Except RegistryError Nat}
    (setApart : world.store.SetApart ctx.tenant)
    (uninvolved : ∀ record ∈ records, ∀ id, record.id = some id →
      ¬ world.store.Bystander ctx.tenant id)
    (runs : World.Runs FreshIds world (deleteEach ctx records) outcome after) :
    Shelters ctx.tenant world after := by
  induction records generalizing world outcome with
  | nil =>
    obtain ⟨_, rfl⟩ := runs.done_inv
    exact .refl setApart
  | cons record records ih =>
    have later : ∀ other ∈ records, ∀ id, other.id = some id →
        ¬ world.store.Bystander ctx.tenant id :=
      fun other listed => uninvolved other (List.mem_cons_of_mem _ listed)
    unfold deleteEach at runs
    cases given : record.id with
    | none =>
      rw [given] at runs
      exact ih setApart later runs
    | some id =>
      rw [given] at runs
      have here := uninvolved record List.mem_cons_self id given
      rcases runs.bind_inv with ⟨_, middle, first, rest⟩ | ⟨e, first, _⟩
      · have deleted := delete_shelters setApart here first
        have still : ∀ other ∈ records, ∀ id, other.id = some id →
            ¬ middle.store.Bystander ctx.tenant id := by
          intro other listed id named
          rw [deleted.1.bystander_iff]
          exact later other listed id named
        rcases rest.bind_inv with ⟨_, last, others, ended⟩ | ⟨e, others, _⟩
        · obtain ⟨_, rfl⟩ := ended.done_inv
          exact deleted.trans (ih deleted.2 still others)
        · exact deleted.trans (ih deleted.2 still others)
      · exact delete_shelters setApart here first

/-- Switching a module on or off flips system timers only. -/
theorem switchModule_shelters {moduleName : String} {enable : Bool}
    {outcome : Except RegistryError Nat} (setApart : world.store.SetApart ctx.tenant)
    (runs : World.Runs FreshIds world (switchModule ctx moduleName enable) outcome after) :
    Shelters ctx.tenant world after := by
  rcases switchModule_commits setApart.wellFormed runs with
    ⟨_, _, rfl⟩ | ⟨records, lists, ⟨_, _, rfl⟩ | ⟨_, changed, replaces, following⟩⟩
  · exact .refl setApart
  · exact .refl setApart
  have listed : ∀ record ∈ records, ∃ id, record.id = some id ∧
      world.store.stored ctx.tenant id = some record ∧ record.kind = some .system := by
    intro record member
    obtain ⟨id, named, stored, _, system⟩ := lists.stored_of_mem setApart.wellFormed member
    exact ⟨id, named, stored, system⟩
  let touched (id : Uuid) : Prop := ∃ record ∈ records, record.id = some id
  have confined : MemoryStore.Confined ctx.tenant touched world.store changed := by
    constructor
    case within => exact replaces.within
    case kept =>
      intro id untouched
      exact replaces.kept id fun record member named => untouched ⟨record, member, named⟩
    case uninvolved =>
      rintro id ⟨record, member, named⟩
      obtain ⟨at', given, stored, system⟩ := listed record member
      obtain rfl := Option.some.inj (given.symm.trans named)
      exact setApart.not_bystander stored system
    case userless =>
      rintro id version ⟨record, member, named⟩ stored
      obtain ⟨_, _, _, system⟩ := listed record member
      rw [replaces.replaced record member id named, Option.some.injEq] at stored
      have kind : version.kind = record.kind := stored ▸ rfl
      simp [kind, system]
  have named : ∀ record ∈ records, ∃ id, touched id ∧ record.id = some id := by
    intro record member
    obtain ⟨id, given, _⟩ := listed record member
    exact ⟨id, ⟨record, member, given⟩, given⟩
  split at following
  · refine following.shelters ((scheduleEach_asks_jobs _).bind fun _ => .done _) ?_ rfl
      setApart confined
    intro version flipped
    obtain ⟨record, member, rfl⟩ := List.mem_map.mp flipped
    exact named record member
  · exact following.shelters ((unscheduleEach_asks_jobs _).bind fun _ => .done _) named rfl
      setApart confined

end Registry

/-- Whatever engine a procedure meets, everybody but the tenant is sheltered from it. -/
structure Procedure.Sheltering {δ α : Type} (tenant : String) (p : Procedure δ α) : Prop where
  shelters :
    ∀ {ε : Type} [KeyedEngine ε] {world after : World MemoryStore ε} {outcome : Except δ α},
    world.store.SetApart tenant → World.Runs FreshIds world p outcome after →
      Shelters tenant world after

namespace Procedure.Sheltering

variable {δ η α β : Type} {p : Procedure δ α}

theorem done (a : α) : (.done a : Procedure δ α).Sheltering tenant := by
  constructor
  intro ε _ world after outcome setApart runs
  obtain ⟨_, rfl⟩ := runs.done_inv
  exact .refl setApart

theorem fail (e : δ) : (.fail e : Procedure δ α).Sheltering tenant := by
  constructor
  intro ε _ world after outcome setApart runs
  obtain ⟨_, rfl⟩ := runs.fail_inv
  exact .refl setApart

theorem bind {f : α → Procedure δ β} (first : p.Sheltering tenant)
    (rest : ∀ a, (f a).Sheltering tenant) : (p >>= f).Sheltering tenant := by
  constructor
  intro ε _ world after outcome setApart runs
  rcases runs.bind_inv with ⟨a, middle, begun, ended⟩ | ⟨e, failed, _⟩
  · have sheltered := first.shelters setApart begun
    exact sheltered.trans ((rest a).shelters sheltered.2 ended)
  · exact first.shelters setApart failed

theorem mapError (inner : p.Sheltering tenant) (f : δ → η) : (p.mapError f).Sheltering tenant := by
  constructor
  intro ε _ world after outcome setApart runs
  obtain ⟨_, carried, _⟩ := runs.mapError_inv
  exact inner.shelters setApart carried

theorem attempt (inner : p.Sheltering tenant) :
    (p.attempt : Procedure η (Except δ α)).Sheltering tenant := by
  constructor
  intro ε _ world after outcome setApart runs
  obtain ⟨_, carried, _⟩ := runs.attempt_inv
  exact inner.shelters setApart carried

/-- What goes on with a value at hand has to shelter with this value only. -/
theorem ofExcept_bind {f : η → δ} {result : Except η α} {next : α → Procedure δ β}
    (rest : ∀ a, result = .ok a → (next a).Sheltering tenant) :
    (Procedure.ofExcept f result >>= next).Sheltering tenant := by
  cases result with
  | error e => exact fail (f e)
  | ok a => exact rest a rfl

end Procedure.Sheltering

namespace Sync

variable (ctx : Context)

theorem createEach_sheltering (moduleId : String) (entries : List RoutingEntry) :
    (createEach ctx moduleId entries).Sheltering ctx.tenant := by
  induction entries with
  | nil => exact .done _
  | cons entry entries ih =>
    have first :
        (Registry.create ctx (TimerRecord.ofModule moduleId entry)).Sheltering ctx.tenant :=
      ⟨Registry.create_shelters⟩
    exact (first.mapError _).bind fun _ => ih

theorem createTimers_sheltering (m : ModuleTimers) : (createTimers ctx m).Sheltering ctx.tenant :=
  (createEach_sheltering ctx m.moduleId m.timers).bind fun _ => .done _

/-- The timers that are deleted were listed as system timers. -/
theorem deleteTimers_sheltering (moduleName : String) :
    (deleteTimers ctx moduleName).Sheltering ctx.tenant := by
  refine Procedure.Sheltering.mapError ⟨?_⟩ _
  intro ε _ world after outcome setApart runs
  unfold Registry.findByModuleAndKind at runs
  rcases MemoryStore.answer_findByModuleAndKind setApart.wellFormed ctx.tenant moduleName
    .system with ⟨missing, answer⟩ | ⟨_, records, answer, lists⟩
  · obtain ⟨_, rfl⟩ := runs.ask_refused answer
    exact .refl setApart
  · refine Registry.deleteEach_shelters setApart ?_ (runs.ask_answered answer)
    intro record member id named
    obtain ⟨at', given, stored, _, system⟩ := lists.stored_of_mem setApart.wellFormed member
    obtain rfl := Option.some.inj (given.symm.trans named)
    exact setApart.not_bystander stored system

theorem skipTableMissing_sheltering {operation : Operation Nat}
    (inner : operation.Sheltering tenant) :
    (skipTableMissing operation).Sheltering tenant := by
  refine inner.attempt.bind fun outcome => ?_
  split
  · exact .done _
  · split
    · exact .done _
    · exact .fail _

theorem update_sheltering (old : Option ModuleTimers) (new : ModuleTimers) :
    (update ctx old new).Sheltering ctx.tenant := by
  refine .ofExcept_bind fun name _ => (deleteTimers_sheltering ctx name).attempt.bind
    fun outcome => ?_
  split
  · exact createTimers_sheltering ctx new
  · split
    · exact .done _
    · exact .fail _

theorem resource_sheltering (event : ResourceEvent) : (resource event).Sheltering event.tenant := by
  have required : ∀ (field : String) (value : Option ModuleTimers),
      (Sync.required field value).Sheltering event.tenant := by
    intro field value
    cases value with
    | none => exact .fail _
    | some value => exact .done _
  apply Procedure.Sheltering.ofExcept_bind
  intro ctx made
  obtain ⟨_, rfl⟩ := contextOf_of_ofTenant made
  split
  · exact (required _ _).bind (createTimers_sheltering (contextOf event.tenant))
  · exact (required _ _).bind (update_sheltering (contextOf event.tenant) event.oldValue)
  · split
    · exact .fail _
    · exact .ofExcept_bind fun name _ =>
        skipTableMissing_sheltering (deleteTimers_sheltering (contextOf event.tenant) name)

theorem entitlement_sheltering (event : EntitlementEvent) :
    (entitlement event).Sheltering event.tenant := by
  apply Procedure.Sheltering.ofExcept_bind
  intro ctx made
  obtain ⟨_, rfl⟩ := contextOf_of_ofTenant made
  apply Procedure.Sheltering.ofExcept_bind
  intro name _
  have switches :
      (Registry.switchModule (contextOf event.tenant) name event.change.enables).Sheltering
      (contextOf event.tenant).tenant := ⟨Registry.switchModule_shelters⟩
  exact skipTableMissing_sheltering (switches.mapError _)

theorem apply_sheltering (event : TimerEvent) : (apply event).Sheltering event.tenant := by
  cases event with
  | moduleResource event => exact resource_sheltering event
  | entitlement event => exact entitlement_sheltering event

end Sync

/-- In every state that a service reaches without an id being stored for two tenants, carrying out
an event spares the timers of the tenant's users, everything that other tenants have, and all their
jobs, whatever the engine answers and whether or not the event succeeds. -/
theorem Reached.apply_spares (reached : Reached world) (unshared : world.store.Unshared)
    (event : TimerEvent) (fresh : World.Throughout FreshIds world (Sync.apply event)) :
    Spares event.tenant world (world.run (Sync.apply event)).2 := by
  have setApart : world.store.SetApart event.tenant := by
    refine ⟨reached.orderly.wellFormed, fun id present other foreign => ?_⟩
    by_contra shared
    exact foreign (unshared other event.tenant id (Option.isSome_iff_ne_none.mpr shared) present)
  exact ((Sync.apply_sheltering event).shelters setApart fresh.runs).1

/-! ### A module that is installed beside a user's timer -/

/-- A timer that a user has made, with the path and the methods of a module's timer. -/
def handmade : TimerRecord := { TimerRecord.minutely with kind := some .user }

/-- Two tenants have a timer each, the first one a handmade one, and the next call of the engine
will fail. -/
def neighbours : World MemoryStore RecordingEngine :=
  let first := (strained.run (Registry.initTenant (Sync.contextOf "north"))).2
  let second := (first.run (Registry.initTenant (Sync.contextOf "south"))).2
  let calm : World MemoryStore RecordingEngine := { second with engine := .empty }
  let third := (calm.run (Registry.create (Sync.contextOf "north") handmade)).2
  let fourth := (third.run (Registry.create (Sync.contextOf "south") .minutely)).2
  { fourth with engine := fourth.engine.failNext (.unavailable "connection refused") }

/-- A module is installed for the first tenant. -/
def installation : TimerEvent :=
  .moduleResource ⟨.create, "north", some ⟨"mod-1.0.0", [Sync.everyMinutes "1"]⟩, none⟩

theorem reached_neighbours : Reached neighbours := by
  have start : Reached strained := .start _ _
  have joined := start.serve (.initTenant (Sync.contextOf "north"))
  have provisioned := joined.serve (.initTenant (Sync.contextOf "south"))
  have calmed := provisioned.disturb RecordingEngine.empty
  exact ((calmed.serve (.create _ handmade)).serve (.create _ .minutely)).disturb _

/-- The installation stores a timer and fails, and all that others have is as it was. -/
theorem handmade_timer_spared :
    (neighbours.run (Sync.apply installation)).1.toOption = none ∧
      (neighbours.run (Sync.apply installation)).2.store.table? "south" =
        neighbours.store.table? "south" ∧
      ∃ record, record.kind = some .user ∧
        neighbours.store.stored "north" (.ofBits 1) = some record ∧
        (neighbours.run (Sync.apply installation)).2.store.stored "north" (.ofBits 1) =
          some record ∧
        (neighbours.run (Sync.apply installation)).2.engine.job? (Uuid.ofBits 1).toText
          = neighbours.engine.job? (Uuid.ofBits 1).toText := by
  have fresh : World.Throughout FreshIds neighbours (Sync.apply installation) := by decide +kernel
  have spares := reached_neighbours.apply_spares (by decide +kernel) installation fresh
  have present :
      (neighbours.store.stored "north" (.ofBits 1)).any (·.kind = some .user) = true := by
    decide +kernel
  obtain ⟨record, stored, user⟩ : ∃ record,
      neighbours.store.stored "north" (.ofBits 1) = some record ∧ record.kind = some .user := by
    simpa [Option.any_eq_true] using present
  refine ⟨by decide +kernel, spares.elsewhere "south" (by decide), record, user, stored, ?_, ?_⟩
  · exact (spares.users _ record user).mpr stored
  · exact spares.jobs _ (.inl ⟨record, stored, user⟩)

end Horarium
