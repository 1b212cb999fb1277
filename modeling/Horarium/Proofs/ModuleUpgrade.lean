/-
Module: Horarium.Proofs.ModuleUpgrade
Purpose: What the upgrade of a module leaves. Its system timers are deleted under the name that the
  module has, and the declared ones are created one after the other, where later declarations of a
  natural key replace earlier ones. So the outcome is a matter of the declarations alone, whatever
  system timers the module had before.
Trusted boundary: none
Main exports: Vacated, Upgraded, Sync.resource_upgrades, Sync.upgrade_installs_declared
-/
import Horarium.Proofs.JobAgreement
import Horarium.Proofs.ResourceRedelivery

namespace Horarium

/-- The natural key of the timer that an entry declares for a module. -/
def RoutingEntry.keyIn (moduleName : String) (entry : RoutingEntry) : Except InputError String :=
  Horarium.naturalKey .system moduleName entry.methods entry.keyPath

/-- The entry is the last of the entries with its natural key. -/
def RoutingEntry.IsLast (moduleName : String) (entries : List RoutingEntry) (entry : RoutingEntry) :
    Prop :=
  (entries.filter fun other => other.keyIn moduleName = entry.keyIn moduleName).getLast? =
    some entry

instance (moduleName : String) (entries : List RoutingEntry) (entry : RoutingEntry) :
    Decidable (entry.IsLast moduleName entries) :=
  inferInstanceAs (Decidable (_ = _))

/-- The record up to its id and metadata. -/
def TimerRecord.declaration (record : TimerRecord) : TimerRecord :=
  { record with id := none, metadata := none }

namespace RoutingEntry.IsLast

variable {moduleName : String} {entries : List RoutingEntry} {entry other : RoutingEntry}

theorem mem (last : entry.IsLast moduleName entries) : entry ∈ entries :=
  List.mem_of_mem_filter (List.mem_of_getLast? last)

/-- The last entry with a key is determined by the key. -/
theorem unique (last : entry.IsLast moduleName entries) (alsoLast : other.IsLast moduleName entries)
    (same : entry.keyIn moduleName = other.keyIn moduleName) : entry = other := by
  unfold IsLast at last alsoLast
  rw [same, alsoLast, Option.some.injEq] at last
  exact last.symm

/-- Of entries that are declared one after the other, the one declared last is the last with its
key. -/
theorem concat_self (entries : List RoutingEntry) (entry : RoutingEntry) :
    entry.IsLast moduleName (entries ++ [entry]) := by
  simp [IsLast]

theorem concat_of_ne (last : other.IsLast moduleName entries)
    (apart : entry.keyIn moduleName ≠ other.keyIn moduleName) :
    other.IsLast moduleName (entries ++ [entry]) := by
  unfold IsLast at last ⊢
  simpa [apart] using last

end RoutingEntry.IsLast

namespace TimerRecord

variable {record version : TimerRecord} {moduleId moduleName : String} {entry : RoutingEntry}

/-- A record that is declared by an entry has the natural key of the entry. -/
theorem naturalKey_of_declaration
    (declared : record.declaration = declaredBy moduleId moduleName entry) :
    record.naturalKey = entry.keyIn moduleName := by
  have same : record.naturalKey = (declaredBy moduleId moduleName entry).naturalKey := by
    rw [← declared]
    rfl
  exact same

theorem isSystemOf_of_declaration
    (declared : record.declaration = declaredBy moduleId moduleName entry) :
    record.IsSystemOf moduleName := by
  have sameName : record.moduleName = (declaredBy moduleId moduleName entry).moduleName := by
    rw [← declared]
    rfl
  have sameKind : record.kind = (declaredBy moduleId moduleName entry).kind := by
    rw [← declared]
    rfl
  exact ⟨sameName, sameKind⟩

/-- A record that restates a declared one is declared. -/
theorem declaration_of_restates
    (restates : record.Restates (declaredBy moduleId moduleName entry)) :
    record.declaration = declaredBy moduleId moduleName entry := by
  obtain ⟨⟨kind, name, id, routingEntry⟩, enabled⟩ := restates
  unfold declaration
  rw [kind, name, id, routingEntry, enabled]
  rfl

/-- A natural key begins with the name of the kind. -/
theorem head?_naturalKey {kind : TimerKind} {methods : List String} {path key : String}
    (keyed : Horarium.naturalKey kind moduleName methods path = .ok key) :
    key.toList.head? = kind.name.toList.head? := by
  unfold Horarium.naturalKey at keyed
  split at keyed
  · simp at keyed
  · rw [← Except.ok.inj keyed]
    cases kind <;> simp [TimerKind.name, String.toList_append, toString]

/-- Only system timers have the natural keys of declared ones. -/
theorem kind_of_namesake (keyed : ∃ key, entry.keyIn moduleName = .ok key)
    (namesake : record.naturalKey = entry.keyIn moduleName) : record.kind = some .system := by
  obtain ⟨key, keyed⟩ := keyed
  rw [keyed] at namesake
  have system := head?_naturalKey keyed
  unfold naturalKey at namesake
  cases given : record.kind with
  | none => simp [given] at namesake
  | some kind =>
    simp only [given] at namesake
    have own := head?_naturalKey namesake
    rw [system] at own
    cases kind with
    | system => rfl
    | user => simp [TimerKind.name] at own

end TimerRecord

variable {ε : Type} [JobEngine ε] {c : Circumstances} {start world after : World MemoryStore ε}
  {ctx : Context} {moduleId moduleName : String} {entries done : List RoutingEntry}
    {entry : RoutingEntry}

/-- Since the start the timers of these entries have been created for a module that had none, and
nothing else has changed for the tenant. -/
structure Installed (tenant moduleId moduleName : String) (done : List RoutingEntry)
    (start world : World MemoryStore ε) : Prop where
  declared : ∀ {id record}, world.store.stored tenant id = some record →
    record.IsSystemOf moduleName → ∃ entry : RoutingEntry, entry.IsLast moduleName done ∧
      record.declaration = .declaredBy moduleId moduleName entry
  complete : ∀ entry ∈ done, ∃ id record, world.store.stored tenant id = some record ∧
    record.IsSystemOf moduleName ∧ record.naturalKey = entry.keyIn moduleName
  kept : ∀ {id record}, start.store.stored tenant id = some record →
    world.store.stored tenant id = some record
  others : ∀ {id : Uuid}, (∀ record, world.store.stored tenant id = some record →
      ¬ record.IsSystemOf moduleName) →
    world.store.stored tenant id = start.store.stored tenant id ∧
      world.roster id.toText = start.roster id.toText

/-- The module has no system timers, and the natural keys of these entries are not taken. -/
structure Vacated (tenant moduleName : String) (entries : List RoutingEntry) (store : MemoryStore) :
    Prop where
  unowned : ∀ {id record}, store.stored tenant id = some record → ¬ record.IsSystemOf moduleName
  untaken : ∀ {id record}, store.stored tenant id = some record → ∀ entry ∈ entries,
    record.naturalKey ≠ entry.keyIn moduleName

theorem Installed.nil (vacated : Vacated ctx.tenant moduleName entries world.store) :
    Installed ctx.tenant moduleId moduleName [] world world where
  declared stored owned := absurd owned (vacated.unowned stored)
  complete := by simp
  kept stored := stored
  others _ := ⟨rfl, rfl⟩

/-- Whoever has the natural key of an entry to come is a system timer of the module. -/
theorem Installed.isSystemOf_of_namesake {id : Uuid} {old : TimerRecord}
    (installed : Installed ctx.tenant moduleId moduleName done start world)
    (vacated : Vacated ctx.tenant moduleName entries start.store) (coming : entry ∈ entries)
    (held : world.store.stored ctx.tenant id = some old)
    (namesake : old.naturalKey = entry.keyIn moduleName) : old.IsSystemOf moduleName := by
  by_contra foreign
  have unowned : ∀ record, world.store.stored ctx.tenant id = some record →
      ¬ record.IsSystemOf moduleName := by
    intro record stored
    rw [held, Option.some.injEq] at stored
    exact stored ▸ foreign
  have unchanged := (installed.others unowned).1
  exact vacated.untaken (unchanged.symm.trans held) entry coming namesake

/-- Storing a declared timer in its place goes on with the installation. -/
theorem Installed.concat {id : Uuid} {saved : TimerRecord} {place : Option TimerRecord}
    (installed : Installed ctx.tenant moduleId moduleName done start world)
    (vacated : Vacated ctx.tenant moduleName entries start.store) (coming : entry ∈ entries)
    (wellFormed : after.store.WellFormed)
    (declares : saved.declaration = .declaredBy moduleId moduleName entry)
    (before : world.store.stored ctx.tenant id = place)
    (namesake : ∀ old, place = some old → old.naturalKey = entry.keyIn moduleName)
    (slots : ∀ other : Uuid, other ≠ id →
      after.store.stored ctx.tenant other = world.store.stored ctx.tenant other ∧
        after.roster other.toText = world.roster other.toText)
    (stored : after.store.stored ctx.tenant id = some saved) :
    Installed ctx.tenant moduleId moduleName (done ++ [entry]) start after := by
  have key := TimerRecord.naturalKey_of_declaration declares
  have owned := TimerRecord.isSystemOf_of_declaration declares
  constructor
  case declared =>
    intro other record held system
    by_cases here : other = id
    · rw [here, stored, Option.some.injEq] at held
      exact ⟨entry, .concat_self done entry, held ▸ declares⟩
    · have earlier := held
      rw [(slots other here).1] at earlier
      obtain ⟨declaring, last, declared⟩ := installed.declared earlier system
      refine ⟨declaring, last.concat_of_ne ?_, declared⟩
      intro same
      have sameKey : record.naturalKey = saved.naturalKey := by
        rw [TimerRecord.naturalKey_of_declaration declared, key, same]
      exact here (wellFormed.id_unique held stored sameKey)
  case complete =>
    intro declaring member
    rcases List.mem_append.mp member with earlier | here
    · obtain ⟨other, record, held, system, same⟩ := installed.complete declaring earlier
      by_cases here : other = id
      · subst here
        refine ⟨other, saved, stored, owned, ?_⟩
        rw [key, ← same, namesake record (before.symm.trans held)]
      · exact ⟨other, record, (slots other here).1.trans held, system, same⟩
    · rw [List.mem_singleton] at here
      exact ⟨id, saved, stored, owned, here ▸ key⟩
  case kept =>
    intro other record held
    have present := installed.kept held
    by_cases here : other = id
    · subst here
      have sameKey := namesake record (before.symm.trans present)
      exact absurd (installed.isSystemOf_of_namesake vacated coming present sameKey)
        (vacated.unowned held)
    · exact (slots other here).1.trans present
  case others =>
    intro other foreign
    have here : other ≠ id := by
      rintro rfl
      exact foreign saved stored owned
    obtain ⟨sameStored, sameRoster⟩ := slots other here
    rw [sameStored] at foreign
    obtain ⟨startStored, startRoster⟩ := installed.others foreign
    exact ⟨sameStored.trans startStored, sameRoster.trans startRoster⟩

namespace Sync

/-- Creating the timer of an accepted entry succeeds and goes on with the installation. -/
theorem create_installs {outcome : Except RegistryError TimerRecord} (steady : ¬ c.outage)
    (sound : world.store.Sound) (provisioned : (world.store.table? ctx.tenant).isSome)
    (derived : ModuleName.ofId moduleId = .ok moduleName)
    (accepted : ∃ version, (TimerRecord.ofModule moduleId entry).prepare = .ok version)
    (vacated : Vacated ctx.tenant moduleName entries start.store) (coming : entry ∈ entries)
    (installed : Installed ctx.tenant moduleId moduleName done start world)
    (runs : World.Runs c.Admits world (Registry.create ctx (.ofModule moduleId entry))
      outcome after) :
    (∃ a, outcome = .ok a) ∧ after.store.Sound ∧ (after.store.table? ctx.tenant).isSome ∧
      Installed ctx.tenant moduleId moduleName (done ++ [entry]) start after := by
  obtain ⟨a, rfl⟩ := Registry.create_succeeds steady sound provisioned accepted runs
  rcases Registry.create_stores sound runs with ⟨refused, _⟩ | ⟨record, id, saved, placed, stores⟩
  · simpa using refused.failed
  obtain ⟨name, sameName, rfl⟩ := TimerRecord.prepare_ofModule stores.prepared
  obtain rfl := Except.ok.inj (derived.symm.trans sameName)
  have declares := TimerRecord.declaration_of_restates stores.restates
  refine ⟨⟨a, rfl⟩, stores.written.sound, stores.written.sets.provisioned ▸ provisioned, ?_⟩
  have slots : ∀ other : Uuid, other ≠ id →
      after.store.stored ctx.tenant other = world.store.stored ctx.tenant other ∧
        after.roster other.toText = world.roster other.toText := by
    intro other apart
    have slot := stores.written.slot other
    rwa [if_neg apart, if_neg apart] at slot
  have stored : after.store.stored ctx.tenant id = some saved := by
    rw [stores.written.sets.stored, if_pos rfl]
  have wellFormed := stores.written.sound.wellFormed
  cases placed with
  | known old held namesake =>
    refine installed.concat vacated coming wellFormed declares held ?_ slots stored
    rintro _ ⟨⟩
    exact namesake
  | added free _ _ =>
    exact installed.concat vacated coming wellFormed declares free (by simp) slots stored

/-- Creating the timers of accepted entries succeeds, by induction on the entries that are left. -/
theorem createEach_installs {outcome : Except SyncError PUnit} (steady : ¬ c.outage)
    (sound : world.store.Sound) (provisioned : (world.store.table? ctx.tenant).isSome)
    (derived : ModuleName.ofId moduleId = .ok moduleName)
    (accepted : ∀ entry ∈ entries, ∃ version, (TimerRecord.ofModule moduleId entry).prepare =
      .ok version)
    (vacated : Vacated ctx.tenant moduleName entries start.store)
    (installed : Installed ctx.tenant moduleId moduleName done start world)
    (runs : World.Runs c.Admits world (createEach ctx moduleId entries) outcome after) :
    (∃ u, outcome = .ok u) ∧
    Installed ctx.tenant moduleId moduleName (done ++ entries) start after := by
  induction entries generalizing world done with
  | nil =>
    obtain ⟨rfl, rfl⟩ := runs.done_inv
    exact ⟨⟨_, rfl⟩, (List.append_nil done).symm ▸ installed⟩
  | cons entry entries ih =>
    unfold createEach at runs
    have later : Vacated ctx.tenant moduleName entries start.store :=
      ⟨vacated.unowned,
        fun held other member => vacated.untaken held other (List.mem_cons_of_mem _ member)⟩
    rcases runs.mapError_bind_inv with ⟨_, middle, first, rest⟩ | ⟨e, first, _⟩
    · obtain ⟨_, soundMiddle, provisionedMiddle, installedMiddle⟩ :=
        create_installs steady sound provisioned derived (accepted entry List.mem_cons_self) vacated
          List.mem_cons_self installed first
      have split : done ++ entry :: entries = (done ++ [entry]) ++ entries := by simp
      rw [split]
      exact ih soundMiddle provisionedMiddle
        (fun other member => accepted other (List.mem_cons_of_mem _ member)) later
          installedMiddle rest
    · obtain ⟨⟨_, succeeded⟩, _⟩ :=
        create_installs steady sound provisioned derived (accepted entry List.mem_cons_self) vacated
          List.mem_cons_self installed first
      simp at succeeded

variable {old : Option ModuleTimers} {new : ModuleTimers}

/-- The module is upgraded to accepted timers whose natural keys no system timer of another module
has. -/
structure Upgradable (tenant moduleName : String) (old : Option ModuleTimers) (new : ModuleTimers)
    (store : MemoryStore) : Prop where
  provisioned : (store.table? tenant).isSome
  derived : ModuleName.ofId new.moduleId = .ok moduleName
  unrenamed : ∀ value, old = some value → ModuleName.ofId value.moduleId = .ok moduleName
  accepted :
    ∀ entry ∈ new.timers, ∃ version, (TimerRecord.ofModule new.moduleId entry).prepare = .ok version
  free : ∀ id record, store.stored tenant id = some record → record.kind = some .system →
    record.moduleName ≠ some moduleName →
      ∀ entry ∈ new.timers, record.naturalKey ≠ entry.keyIn moduleName

/-- An accepted entry has a natural key. -/
theorem Upgradable.exists_keyIn {tenant : String} {store : MemoryStore}
    (upgradable : Upgradable tenant moduleName old new store) (member : entry ∈ new.timers) :
    ∃ key, entry.keyIn moduleName = .ok key := by
  obtain ⟨version, prepared⟩ := upgradable.accepted entry member
  obtain ⟨key, keyed⟩ := TimerRecord.exists_naturalKey_of_prepare prepared
  obtain ⟨name, derived, rfl⟩ := TimerRecord.prepare_ofModule prepared
  obtain rfl := Except.ok.inj (upgradable.derived.symm.trans derived)
  exact ⟨key, keyed⟩

/-- What a deletion leaves of an upgradable tenant is vacated. -/
theorem Upgradable.vacated {tenant : String} {store left : MemoryStore}
    (upgradable : Upgradable tenant moduleName old new store)
    (gone : ∀ id record, store.stored tenant id = some record → record.IsSystemOf moduleName →
      left.stored tenant id = none)
    (kept : ∀ id, (∀ record, store.stored tenant id = some record →
      ¬ record.IsSystemOf moduleName) → left.stored tenant id = store.stored tenant id) :
    Vacated tenant moduleName new.timers left := by
  have foreign : ∀ {id record}, left.stored tenant id = some record →
      store.stored tenant id = some record ∧ ¬ record.IsSystemOf moduleName := by
    intro id record held
    have unowned : ∀ other, store.stored tenant id = some other →
        ¬ other.IsSystemOf moduleName := by
      intro other stored owned
      simp [gone id other stored owned] at held
    rw [kept id unowned] at held
    exact ⟨held, unowned record held⟩
  refine ⟨fun held => (foreign held).2, ?_⟩
  intro id record held entry member namesake
  obtain ⟨stored, unowned⟩ := foreign held
  have system := TimerRecord.kind_of_namesake (upgradable.exists_keyIn member) namesake
  exact upgradable.free id record stored system (fun named => unowned ⟨named, system⟩) entry
    member namesake

/-- An upgrade succeeds: the system timers of the module go, nothing else does, and those that are
declared are installed. -/
theorem update_installs {outcome : Except SyncError Nat} (steady : ¬ c.outage)
    (sound : world.store.Sound) (upgradable : Upgradable ctx.tenant moduleName old new world.store)
    (runs : World.Runs c.Admits world (update ctx old new) outcome after) :
    outcome = .ok new.timers.length ∧ ∃ middle : World MemoryStore ε,
      (∀ id record, world.store.stored ctx.tenant id = some record → record.IsSystemOf moduleName →
        middle.store.stored ctx.tenant id = none) ∧
      (∀ id : Uuid, (∀ record, world.store.stored ctx.tenant id = some record →
          ¬ record.IsSystemOf moduleName) →
        middle.store.stored ctx.tenant id = world.store.stored ctx.tenant id ∧
          middle.roster id.toText = world.roster id.toText) ∧
      Vacated ctx.tenant moduleName new.timers middle.store ∧
      Installed ctx.tenant new.moduleId moduleName new.timers middle after := by
  have named : ModuleName.ofId (old.getD new).moduleId = .ok moduleName := by
    cases given : old with
    | none => exact upgradable.derived
    | some value => exact upgradable.unrenamed value given
  unfold update at runs
  rw [named] at runs
  have attempting : World.Runs c.Admits world ((deleteTimers ctx moduleName).attempt >>= _) outcome
      after := runs
  obtain ⟨deleted, middle, deleting, creating⟩ := attempting.attempt_bind_inv
  rcases deleteTimers_drops sound upgradable.provisioned deleting with
    ⟨_, _, _, outage⟩ | ⟨⟨n, rfl⟩, drops⟩
  · exact absurd outage steady
  have chain := (deleteTimers_progress sound deleting).chain
  have gone : ∀ id record, world.store.stored ctx.tenant id = some record →
      record.IsSystemOf moduleName → middle.store.stored ctx.tenant id = none :=
    fun id record held owned => ((drops id).1 record held owned).1
  have left := fun id => (drops id).2
  have vacated : Vacated ctx.tenant moduleName new.timers middle.store :=
    upgradable.vacated gone fun id unowned => (left id unowned).1
  have creating : World.Runs c.Admits middle (createTimers ctx new) outcome after := creating
  have provisioned := chain.within.provisioned ▸ upgradable.provisioned
  obtain ⟨inner, creations, rfl⟩ := createTimers_inv creating
  obtain ⟨⟨u, rfl⟩, installed⟩ := createEach_installs steady (chain.sound sound) provisioned
    upgradable.derived upgradable.accepted vacated (.nil vacated) creations
  exact ⟨rfl, middle, gone, left, vacated, installed⟩

end Sync

/-- A timer that the tenant has as a system timer of the module, up to its id and metadata. -/
def HasSystemTimer (store : MemoryStore) (tenant moduleName : String) (declared : TimerRecord) :
    Prop :=
  ∃ id record, store.stored tenant id = some record ∧ record.IsSystemOf moduleName ∧
    record.declaration = declared

/-- The job is that of a system timer that the tenant has of the module. -/
def IsJobOf (store : MemoryStore) (tenant moduleName : String) (job : Job) : Prop :=
  job.data.tenant = tenant ∧
    ∃ record, store.stored tenant job.data.timer = some record ∧ record.IsSystemOf moduleName

/-- The tenant's system timers of the module are those that are declared, one for each natural key
and as the last entry with the key declares it. The active ones have their jobs, those that are gone
have none, and everything else is as it was. -/
structure Upgraded (tenant moduleName : String) (declared : ModuleTimers)
    (world after : World MemoryStore ε) : Prop where
  timers : ∀ timer, HasSystemTimer after.store tenant moduleName timer ↔
    ∃ entry : RoutingEntry, entry.IsLast moduleName declared.timers ∧
      timer = .declaredBy declared.moduleId moduleName entry
  single : ∀ first second record other, after.store.stored tenant first = some record →
    after.store.stored tenant second = some other → record.naturalKey = other.naturalKey →
      first = second
  jobs : ∀ id record, after.store.stored tenant id = some record → record.IsSystemOf moduleName →
    ((after.roster id.toText).isSome ↔ record.isActive = true) ∧
      ∀ job, after.roster id.toText = some job →
        record.trigger = .ok job.trigger ∧ job.data.tenant = tenant ∧ job.data.timer = id
  dropped : ∀ id record, world.store.stored tenant id = some record → record.IsSystemOf moduleName →
    after.store.stored tenant id = none → after.roster id.toText = none
  otherRecords : ∀ id record, ¬ record.IsSystemOf moduleName →
    (after.store.stored tenant id = some record ↔ world.store.stored tenant id = some record)
  otherTenants : ∀ other, other ≠ tenant → after.store.table? other = world.store.table? other
  otherJobs : ∀ key job,
    (after.roster key = some job ∧ ¬ IsJobOf after.store tenant moduleName job ↔
      world.roster key = some job ∧ ¬ IsJobOf world.store tenant moduleName job)

variable {tenant : String} {new : ModuleTimers}

/-- A job that is not of the module is under an id under which the tenant has no system timer of the
module. -/
theorem Consistent.unowned_of_job {key : String} {job : Job} (consistent : Consistent world)
    (unshared : world.store.Unshared) (held : world.roster key = some job)
    (foreign : ¬ IsJobOf world.store tenant moduleName job) : key = job.data.timer.toText ∧
      ∀ record, world.store.stored tenant job.data.timer = some record →
        ¬ record.IsSystemOf moduleName := by
  obtain ⟨rfl, _⟩ := consistent.justified key job held
  refine ⟨rfl, fun record stored owned => ?_⟩
  have own := (consistent.job_of_stored unshared stored held).1
  exact foreign ⟨own, record, stored, owned⟩

/-- The job under an id under which the tenant has nothing stored is another tenant's, so that the
tenant has nothing stored there in another state of its own records either. -/
theorem Consistent.unstored_of_job {here there : World MemoryStore ε} {id : Uuid} {job : Job}
    (consistent : Consistent here) (held : here.roster id.toText = some job)
    (absent : here.store.stored tenant id = none)
    (elsewhere : ∀ other, other ≠ tenant → there.store.stored other id = here.store.stored other id)
    (unshared : there.store.Unshared) : there.store.stored tenant id = none := by
  obtain ⟨texts, owner, stored, _⟩ := consistent.justified _ job held
  obtain rfl := Uuid.toText_injective texts
  have apart : job.data.tenant ≠ tenant := by
    intro own
    rw [own, absent] at stored
    simp at stored
  by_contra present
  refine apart (unshared _ _ job.data.timer ?_ (Option.isSome_iff_ne_none.mpr present))
  rw [elsewhere _ apart, stored, Option.isSome_some]

/-- A tenant whose system timers of the module have gone and whose declared ones have been installed
has been upgraded. -/
theorem Upgraded.of_installed {middle : World MemoryStore ε} (sound : after.store.Sound)
    (unshared : world.store.Unshared) (unsharedAfter : after.store.Unshared)
    (consistent : Consistent world) (consistentAfter : Consistent after)
    (within : MemoryStore.Within tenant world.store after.store)
    (gone : ∀ id record, world.store.stored tenant id = some record → record.IsSystemOf moduleName →
      middle.store.stored tenant id = none)
    (left : ∀ id : Uuid, (∀ record, world.store.stored tenant id = some record →
      ¬ record.IsSystemOf moduleName) → middle.store.stored tenant id =
      world.store.stored tenant id ∧ middle.roster id.toText = world.roster id.toText)
    (installed : Installed tenant new.moduleId moduleName new.timers middle after) :
    Upgraded tenant moduleName new world after := by
  have kept : ∀ {id record}, world.store.stored tenant id = some record →
      ¬ record.IsSystemOf moduleName → after.store.stored tenant id = some record := by
    intro id record held unowned
    refine installed.kept ((left id ?_).1.trans held)
    intro other stored
    rw [held, Option.some.injEq] at stored
    exact stored ▸ unowned
  have dropped : ∀ id record, world.store.stored tenant id = some record →
      record.IsSystemOf moduleName →
      after.store.stored tenant id = none → after.roster id.toText = none := by
    intro id record held _ absent
    by_contra present
    obtain ⟨job, registered⟩ := Option.ne_none_iff_exists'.mp present
    have unstored : world.store.stored tenant id = none :=
      consistentAfter.unstored_of_job registered absent
      (fun other apart => (within.stored_elsewhere apart id).symm) unshared
    simp [held] at unstored
  have frame : ∀ id : Uuid,
      (∀ record, world.store.stored tenant id = some record → ¬ record.IsSystemOf moduleName) →
      (∀ record, after.store.stored tenant id = some record → ¬ record.IsSystemOf moduleName) →
        after.roster id.toText = world.roster id.toText :=
    fun id unowned unownedAfter => (installed.others unownedAfter).2.trans (left id unowned).2
  constructor
  case timers =>
    intro timer
    constructor
    · rintro ⟨id, record, held, owned, rfl⟩
      exact installed.declared held owned
    · rintro ⟨entry, last, rfl⟩
      obtain ⟨id, record, held, owned, key⟩ := installed.complete entry last.mem
      obtain ⟨declaring, declaringLast, declared⟩ := installed.declared held owned
      have same := (TimerRecord.naturalKey_of_declaration declared).symm.trans key
      obtain rfl := declaringLast.unique last same
      exact ⟨id, record, held, owned, declared⟩
  case single =>
    intro first second record other held stored same
    exact sound.wellFormed.id_unique held stored same
  case jobs =>
    intro id record held owned
    refine ⟨⟨?_, consistentAfter.covered tenant id record held⟩, ?_⟩
    · intro present
      obtain ⟨job, registered⟩ := Option.isSome_iff_exists.mp present
      exact (consistentAfter.job_of_stored unsharedAfter held registered).2.2.1
    · intro job registered
      obtain ⟨own, timer, _, computed⟩ :=
        consistentAfter.job_of_stored unsharedAfter held registered
      exact ⟨computed, own, timer⟩
  case dropped => exact dropped
  case otherRecords =>
    intro id record unowned
    refine ⟨fun held => ?_, fun held => kept held unowned⟩
    have unownedAfter : ∀ other, after.store.stored tenant id = some other →
        ¬ other.IsSystemOf moduleName := by
      intro other stored
      rw [held, Option.some.injEq] at stored
      exact stored ▸ unowned
    have spared : middle.store.stored tenant id = some record :=
      (installed.others unownedAfter).1.symm.trans held
    rw [← (left id ?_).1, spared]
    intro other stored owned
    simp [gone id other stored owned] at spared
  case otherTenants => exact within.elsewhere
  case otherJobs =>
    intro key job
    constructor
    · rintro ⟨held, foreign⟩
      obtain ⟨rfl, unownedAfter⟩ := consistentAfter.unowned_of_job unsharedAfter held foreign
      have unowned : ∀ record, world.store.stored tenant job.data.timer = some record →
          ¬ record.IsSystemOf moduleName := by
        intro record stored owned
        -- A timer that has gone would have taken the job with it.
        have absent : after.store.stored tenant job.data.timer = none :=
          (installed.others unownedAfter).1.trans (gone _ record stored owned)
        simp [dropped _ record stored owned absent] at held
      rw [frame _ unowned unownedAfter] at held
      exact ⟨held, fun ⟨_, record, stored, owned⟩ => unowned record stored owned⟩
    · rintro ⟨held, foreign⟩
      obtain ⟨rfl, unowned⟩ := consistent.unowned_of_job unshared held foreign
      have unownedAfter : ∀ record, after.store.stored tenant job.data.timer = some record →
          ¬ record.IsSystemOf moduleName := by
        intro record stored
        cases before : world.store.stored tenant job.data.timer with
        | some other =>
          rw [kept before (unowned other before), Option.some.injEq] at stored
          exact stored ▸ unowned other before
        | none =>
          have unstored := consistent.unstored_of_job held before
            (fun other apart => within.stored_elsewhere apart job.data.timer) unsharedAfter
          simp [stored] at unstored
      rw [← frame _ unowned unownedAfter] at held
      exact ⟨held, fun ⟨_, record, stored, owned⟩ => unownedAfter record stored owned⟩

namespace Sync

variable {ε : Type} [SteadyEngine ε] {world after : World MemoryStore ε} {event : ResourceEvent}
  {value : ModuleTimers}

/-- An event that upgrades a module for a tenant does nothing else. -/
theorem resource_eq_update (valid : Context.isTenantName event.tenant = true)
    (change : event.change = .update)
    (given : event.newValue = some value) :
    resource event = update (contextOf event.tenant) event.oldValue value := by
  unfold resource
  rw [Context.ofTenant, if_pos valid, change, given]
  rfl

/-- An event about a module goes in settled steps, and the service goes on. -/
theorem resource_continues {outcome : Except SyncError Nat}
    (history : History MemoryStore.Unshared world)
    (runs : World.Runs FreshIds world (resource event) outcome after) :
    Chain .steady (contextOf event.tenant) world after ∧ History MemoryStore.Unshared after := by
  obtain ⟨sound, steady⟩ := history.sound
  obtain ⟨unshared, consistent⟩ := history.consistent
  have chain := (resource_progress sound (runs.steady steady).1).chain_of_steady not_false
  exact ⟨chain, history.call (.resource event runs) (chain.consistent unshared consistent).1⟩

/-- Carrying out an upgrade succeeds, and the module can be upgraded again. -/
theorem resource_upgrades {outcome : Except SyncError Nat}
    (history : History MemoryStore.Unshared world) (change : event.change = .update)
    (given : event.newValue = some value)
    (upgradable : Upgradable event.tenant moduleName event.oldValue value world.store)
    (runs : World.Runs FreshIds world (resource event) outcome after) :
    outcome = .ok value.timers.length ∧ Upgraded event.tenant moduleName value world after ∧
      History MemoryStore.Unshared after ∧
      Upgradable event.tenant moduleName event.oldValue value after.store := by
  obtain ⟨sound, steady⟩ := history.sound
  obtain ⟨unshared, consistent⟩ := history.consistent
  obtain ⟨chain, historyAfter⟩ := resource_continues history runs
  obtain ⟨unsharedAfter, consistentAfter⟩ := historyAfter.consistent
  have admitted := (runs.steady steady).1
  rw [resource_eq_update (consistent.named _ upgradable.provisioned) change given] at admitted
  obtain ⟨succeeded, middle, gone, left, _, installed⟩ :=
    update_installs not_false sound upgradable admitted
  have upgraded : Upgraded event.tenant moduleName value world after :=
    .of_installed (chain.sound sound) unshared unsharedAfter consistent consistentAfter
      chain.within gone left installed
  refine ⟨succeeded, upgraded, historyAfter, ?_⟩
  refine { upgradable with provisioned := ?_, free := ?_ }
  · exact chain.within.provisioned ▸ upgradable.provisioned
  · intro id record held system foreign
    have stored := (upgraded.otherRecords id record fun owned => foreign owned.1).mp held
    exact upgradable.free id record stored system foreign

/-- An upgrade of a module installs exactly its new timers, in every state that a service reaches
without an outage and without shared ids. Which timers these are does not depend on those that the
module had before, and carrying out the event again leaves the same ones. -/
theorem upgrade_installs_declared (history : History MemoryStore.Unshared world)
    (change : event.change = .update) (given : event.newValue = some value)
    (upgradable : Upgradable event.tenant moduleName event.oldValue value world.store)
    (fresh : World.Throughout FreshIds world (resource event)) :
    ∃ after, world.run (resource event) = (.ok value.timers.length, after) ∧
      Upgraded event.tenant moduleName value world after ∧
      (World.Throughout FreshIds after (resource event) →
        ∃ again, after.run (resource event) = (.ok value.timers.length, again) ∧
          Upgraded event.tenant moduleName value after again ∧
          ∀ timer, HasSystemTimer again.store event.tenant moduleName timer ↔
            HasSystemTimer after.store event.tenant moduleName timer) := by
  obtain ⟨succeeded, upgraded, historyAfter, upgradableAfter⟩ :=
    resource_upgrades history change given upgradable fresh.runs
  refine ⟨_, Prod.ext succeeded rfl, upgraded, fun freshAfter => ?_⟩
  obtain ⟨succeededAgain, upgradedAgain, _⟩ :=
    resource_upgrades historyAfter change given upgradableAfter freshAfter.runs
  refine ⟨_, Prod.ext succeededAgain rfl, upgradedAgain, fun timer => ?_⟩
  exact (upgradedAgain.timers timer).trans (upgraded.timers timer).symm

/-! ### An upgrade that declares a timer twice -/

/-- An entry that runs so many minutes apart. -/
def everyMinutes (delay : String) : RoutingEntry :=
  ⟨["POST"], none, some "/run", some ⟨delay, .minute⟩, none⟩

/-- The module declares one timer twice, and another one. -/
def redeclared : ModuleTimers :=
  ⟨"mod-1.1.0",
    [everyMinutes "2", everyMinutes "3", { everyMinutes "5" with path := some "/sweep" }]⟩

/-- A tenant is told of it. -/
def upgrade : ResourceEvent := ⟨.update, "north", some redeclared, some ⟨"mod-1.0.0", []⟩⟩

/-- The tenant has one timer, of the same module, so that the upgrade can go ahead. -/
theorem upgradable_employed :
    Upgradable "north" "mod" upgrade.oldValue redeclared employed.store where
  provisioned := by decide +kernel
  derived := by decide +kernel
  unrenamed := by
    rintro _ ⟨⟩
    decide +kernel
  accepted := by
    have accepted : ∀ entry ∈ redeclared.timers,
        (TimerRecord.ofModule redeclared.moduleId entry).prepare.toOption.isSome = true := by
      decide +kernel
    intro entry member
    have passes := accepted entry member
    cases prepared : (TimerRecord.ofModule redeclared.moduleId entry).prepare with
    | error e => simp [prepared, Except.toOption] at passes
    | ok version => exact ⟨version, rfl⟩
  free := by
    have own :
        (employed.store.table? "north").all (·.all (·.record.moduleName == some "mod")) = true := by
      decide +kernel
    intro id record held _ foreign
    obtain ⟨table, row, found, kept, rfl⟩ := MemoryStore.exists_row_of_stored held
    rw [found] at own
    have named := List.all_eq_true.mp own row (TimerTable.mem_of_row? kept)
    exact absurd (by simpa using named) foreign

/-- Of the timer that is declared twice the later declaration stays. -/
theorem upgrade_keeps_later_declaration :
    ∃ after, employed.run (resource upgrade) = (.ok 3, after) ∧
    HasSystemTimer after.store "north" "mod" (.declaredBy "mod-1.1.0" "mod" (everyMinutes "3")) ∧
    ¬ HasSystemTimer after.store "north" "mod"
      (.declaredBy "mod-1.1.0" "mod" (everyMinutes "2")) := by
  have fresh : World.Throughout FreshIds employed (resource upgrade) := by decide +kernel
  obtain ⟨after, carriedOut, upgraded, _⟩ :=
    upgrade_installs_declared history_employed rfl rfl upgradable_employed fresh
  refine ⟨after, carriedOut, (upgraded.timers _).mpr ⟨everyMinutes "3", by decide +kernel, rfl⟩,
    fun present => ?_⟩
  obtain ⟨entry, last, same⟩ := (upgraded.timers _).mp present
  obtain rfl : everyMinutes "2" = entry := Option.some.inj (congrArg TimerRecord.routingEntry same)
  exact absurd last (by decide +kernel)

end Sync

end Horarium
