/-
Module: Horarium.Proofs.NaturalKeys
Purpose: What a natural key tells of its timer. The parts of a key are joined by a separator that
  may occur in each of them, so that the kind can be read off a key and the module not always: a
  module whose name is another one's with a separator and more behind it may have the keys of the
  other.
Trusted boundary: none
Main exports: KeysSeparate, natural_keys_separate_iff
-/
import Horarium.Proofs.Deduplication
import Horarium.Proofs.RecordValidity

namespace Horarium

namespace ModuleName

/-- The name is another one with a separator and more behind it. -/
def Extends (name other : String) : Prop := ∃ rest, name = other ++ "#" ++ rest

/-- One of the names is the other with a separator and more behind it. -/
def Entangled (name other : String) : Prop := Extends name other ∨ Extends other name

theorem Extends.ne {name other : String} (longer : Extends name other) : name ≠ other := by
  obtain ⟨rest, rfl⟩ := longer
  intro same
  have lengths := congrArg String.length same
  simp only [String.length_append] at lengths
  have separator : "#".length = 1 := rfl
  omega

theorem Entangled.ne {name other : String} (entangled : Entangled name other) : name ≠ other := by
  rcases entangled with longer | longer
  · exact longer.ne
  · exact longer.ne.symm

theorem extends_of_toList {name other : String} {more : List Char}
    (longer : name.toList = other.toList ++ '#' :: more) : Extends name other := by
  refine ⟨String.ofList more, String.toList_injective ?_⟩
  simp [String.toList_append, longer]

end ModuleName

/-- What stands before a separator in one and the same text is the same, or one of the two is the
other with a separator and more behind it. -/
theorem eq_or_extends_of_joined {name other tail rest : List Char}
    (same : name ++ '#' :: tail = other ++ '#' :: rest) :
    name = other ∨ (∃ more, name = other ++ '#' :: more) ∨ ∃ more, other = name ++ '#' :: more := by
  rcases List.append_eq_append_iff.mp same with ⟨more, longer, behind⟩ | ⟨more, longer, behind⟩
  · cases more with
    | nil => exact .inl (by simpa using longer.symm)
    | cons c more =>
      obtain rfl := (List.cons.inj behind).1
      exact .inr (.inr ⟨more, longer⟩)
  · cases more with
    | nil => exact .inl (by simpa using longer)
    | cons c more =>
      obtain rfl := (List.cons.inj behind).1
      exact .inr (.inl ⟨more, longer⟩)

/-- A natural key has its parts one after the other. -/
theorem naturalKey_eq_ok {kind : TimerKind} {moduleName : String}
    (present : Text.isAllBlank moduleName.toList = false) (methods : List String) (path : String) :
    naturalKey kind moduleName methods path =
      .ok (kind.name ++ "#" ++ moduleName ++ "#" ++ (",".intercalate methods ++ "#" ++ path)) := by
  unfold naturalKey
  rw [if_neg (by simp [present])]
  simp only [toString, String.append_assoc]

namespace TimerRecord

variable {input given record first second old : TimerRecord}

/-- What has passed the checks is spelled out in its natural key. -/
theorem naturalKey_of_prepare (prepared : input.prepare = .ok record) :
    ∃ kind name rest, record.kind = some kind ∧ record.moduleName = some name ∧
      record.naturalKey = .ok (kind.name ++ "#" ++ name ++ "#" ++ rest) := by
  obtain ⟨kind, entry, kindGiven, _, resolved, hasModule, _⟩ := prepare_inv prepared
  have sameKind : record.kind = some kind := (resolveModuleName_restates resolved).1.trans kindGiven
  unfold lacksModule at hasModule
  cases moduleName : record.moduleName with
  | none => simp [moduleName] at hasModule
  | some name =>
    rw [moduleName, Option.all_some] at hasModule
    have parts :
        record.naturalKey = Horarium.naturalKey kind name (record.routingEntry.getD default).methods
        (record.routingEntry.getD default).keyPath := by
      simp [naturalKey, sameKind, moduleName]
    exact ⟨kind, name, _, sameKind, rfl, parts.trans (naturalKey_eq_ok hasModule _ _)⟩

/-- A natural key tells the kind of a timer, and its module up to entangled ones. -/
theorem kind_and_moduleName_of_naturalKey_eq (prepared : input.prepare = .ok first)
    (accepted : given.prepare = .ok second) (same : first.naturalKey = second.naturalKey) :
    first.kind = second.kind ∧ ∃ name other, first.moduleName = some name ∧
      second.moduleName = some other ∧
      (name = other ∨ ModuleName.Entangled name other) := by
  obtain ⟨kind, name, rest, kindGiven, named, keyed⟩ := naturalKey_of_prepare prepared
  obtain ⟨otherKind, other, more, otherGiven, otherNamed, otherKeyed⟩ :=
    naturalKey_of_prepare accepted
  have texts := congrArg String.toList (Except.ok.inj (keyed.symm.trans (same.trans otherKeyed)))
  have joined : kind.name.toList ++ '#' :: (name.toList ++ '#' :: rest.toList) =
      otherKind.name.toList ++ '#' :: (other.toList ++ '#' :: more.toList) := by
    simpa [String.toList_append] using texts
  have kinds : kind = otherKind := by
    have heads := congrArg List.head? joined
    cases kind <;> cases otherKind <;> simp [TimerKind.name] at heads ⊢
  subst kinds
  refine ⟨kindGiven.trans otherGiven.symm, name, other, named, otherNamed, ?_⟩
  have names := (List.cons.inj (List.append_cancel_left joined)).2
  rcases eq_or_extends_of_joined names with equal | ⟨_, longer⟩ | ⟨_, longer⟩
  · exact .inl (String.toList_injective equal)
  · exact .inr (.inl (ModuleName.extends_of_toList longer))
  · exact .inr (.inr (ModuleName.extends_of_toList longer))

/-- The timer with this module, method and path that is otherwise like the given one. -/
def redirect (record : TimerRecord) (moduleName method path : String) : TimerRecord :=
  { record with
    id := none, moduleId := none, moduleName := some moduleName
    routingEntry := record.routingEntry.map fun entry =>
      { entry with methods := [method], pathPattern := some path } }

/-- It passes the checks as the given one does. -/
theorem prepare_redirect (prepared : record.prepare = .ok record) {moduleName : String}
    (present : Text.isAllBlank moduleName.toList = false) (method path : String) :
    (record.redirect moduleName method path).prepare =
      .ok (record.redirect moduleName method path) := by
  obtain ⟨kind, entry, kindGiven, declared, valid, _, _, computed⟩ := prepare_eq_ok_iff.mp prepared
  refine prepare_eq_ok_iff.mpr ⟨kind, { entry with methods := [method], pathPattern := some path },
    kindGiven, ?_, ?_, rfl, ?_, computed⟩
  · simp [redirect, declared]
  · unfold RoutingEntry.validate at valid ⊢
    split at valid
    · simp at valid
    · rwa [if_neg (by simp)]
  · simp [redirect, lacksModule, present]

/-- Where the name of its module is that of another one with a separator and more behind it, the
other module may have a timer with the same natural key. -/
theorem exists_namesake_of_extends (prepared : record.prepare = .ok record) {name other : String}
    (named : record.moduleName = some name) (longer : ModuleName.Extends name other)
    (present : Text.isAllBlank other.toList = false) :
    ∃ input : TimerRecord, input.prepare = .ok input ∧ input.moduleName = some other ∧
      input.naturalKey = record.naturalKey := by
  obtain ⟨method, rfl⟩ := longer
  obtain ⟨kind, _, path, kindGiven, own, keyed⟩ := naturalKey_of_prepare prepared
  obtain rfl := Option.some.inj (named.symm.trans own)
  obtain ⟨_, entry, _, declared, _⟩ := prepare_inv prepared
  refine ⟨record.redirect other method path, prepare_redirect prepared present method path, rfl, ?_⟩
  have redirected : (record.redirect other method path).naturalKey =
      Horarium.naturalKey kind other [method] path := by
    simp [naturalKey, redirect, kindGiven, declared, RoutingEntry.keyPath]
  rw [redirected, naturalKey_eq_ok present, keyed]
  simp only [String.intercalate_singleton, String.append_assoc]

end TimerRecord

namespace Registry

variable {ε : Type} [SchedulingEngine ε] {P : World MemoryStore ε → Request → Prop}
  {world after : World MemoryStore ε} {ctx : Context} {id : Uuid} {input record old : TimerRecord}
  {outcome : Except RegistryError TimerRecord}

/-- Whatever the engine does, a creation leaves the store as it was or sets the record that is
chosen. -/
theorem create_sets (good : world.store.WellFormed)
    (runs : World.Runs P world (create ctx input) outcome after) :
    after.store = world.store ∧ Unacceptable world.store ctx.tenant input ∨
      ∃ record id before saved, input.prepare = .ok record ∧ saved.Redeclares record ∧
        Chosen P world ctx.tenant input saved id before ∧
        MemoryStore.Sets ctx.tenant id (some saved) world.store after.store := by
  rcases create_commits good runs with
    ⟨declined, reason⟩ | ⟨record, id, before, saved, committed, prepared, chosen,
      commits, following⟩
  · exact .inl ⟨declined.store, reason⟩
  · have onlyEngine : (reconcile (Reconcile.follow ctx before saved) >>= fun _ =>
        (.done saved : Operation TimerRecord)).Asks Request.IsEngine :=
      ((Reconcile.follow_asks ctx before saved).mapError _).bind fun _ => .done _
    have kept := (committed.run_of_asks_engine onlyEngine).1
    rw [following.run_eq] at kept
    exact .inr ⟨record, id, before, saved, prepared, commits.redeclares, chosen,
      kept ▸ commits.sets⟩

/-- A creation that there is nothing against sets the record that is chosen. -/
theorem create_sets_of_accepted (good : world.store.WellFormed)
    (runs : World.Runs P world (create ctx input) outcome after)
    (provisioned : (world.store.table? ctx.tenant).isSome) (prepared : input.prepare = .ok record)
    (unstored : ∀ given, input.id = some given → world.store.stored ctx.tenant given = none) :
    ∃ id before saved, saved.Redeclares record ∧ Chosen P world ctx.tenant input saved id before ∧
      MemoryStore.Sets ctx.tenant id (some saved) world.store after.store := by
  rcases create_sets good runs with
    ⟨_, missing | ⟨named, taken⟩ | refused⟩ | ⟨_, id, before, saved, accepted, redeclares,
      chosen, sets⟩
  · simp [missing] at provisioned
  · simp [unstored _ named] at taken
  · simp [prepared] at refused
  · obtain rfl := Except.ok.inj (prepared.symm.trans accepted)
    exact ⟨id, before, saved, redeclares, chosen, sets⟩

/-- A creation overwrites no stored timer but one with the natural key of what it creates, if the id
that it may generate is not in use. -/
theorem namesake_of_overwritten (good : world.store.WellFormed)
    (runs : World.Runs P world (create ctx input) outcome after)
    (fresh : input.id = none → ∀ tenant, world.store.stored tenant world.nextId = none)
    {tenant : String} (held : world.store.stored tenant id = some old)
    (changed : after.store.stored tenant id ≠ some old) :
    ∃ record, input.prepare = .ok record ∧ old.naturalKey = record.naturalKey := by
  rcases create_sets good runs with
    ⟨unchanged, _⟩ | ⟨record, place, before, saved, prepared, redeclares, chosen, sets⟩
  · exact absurd (unchanged ▸ held) changed
  have own : tenant = ctx.tenant := by
    by_contra apart
    rw [sets.stored_elsewhere apart] at changed
    exact changed held
  subst own
  have here : id = place := by
    by_contra apart
    rw [sets.stored, if_neg apart] at changed
    exact changed held
  subst here
  refine ⟨record, prepared, ?_⟩
  cases chosen with
  | known known stored namesake =>
    obtain rfl := Option.some.inj (held.symm.trans stored)
    exact namesake.trans redeclares.naturalKey
  | given _ free _ => simp [free] at held
  | generated unnamed next _ _ =>
    subst next
    simp [fresh unnamed] at held

/-- A creation with the natural key of a stored timer overwrites it, whatever module the timer is
of. -/
theorem overwritten_of_namesake (good : world.store.WellFormed)
    (runs : World.Runs P world (create ctx input) outcome after)
    (prepared : input.prepare = .ok record)
    (unstored : ∀ given, input.id = some given → world.store.stored ctx.tenant given = none)
    (held : world.store.stored ctx.tenant id = some old)
    (namesake : record.naturalKey = old.naturalKey) :
    ∃ saved, after.store.stored ctx.tenant id = some saved ∧
      saved.moduleName = record.moduleName := by
  have provisioned := world.store.isSome_table?_of_stored held
  obtain ⟨place, before, saved, redeclares, chosen, sets⟩ :=
    create_sets_of_accepted good runs provisioned prepared unstored
  have same : old.naturalKey = saved.naturalKey := namesake.symm.trans redeclares.naturalKey.symm
  cases chosen with
  | known known stored again =>
    obtain rfl := good.id_unique held stored (same.trans again.symm)
    exact ⟨saved, by rw [sets.stored, if_pos rfl], redeclares.moduleName⟩
  | given _ _ unique => exact absurd same (unique id old held)
  | generated _ _ _ unique => exact absurd same (unique id old held)

/-- The first timer that a tenant creates is stored under the id that it is given. -/
theorem create_first (good : world.store.WellFormed)
    (runs : World.Runs P world (create ctx input) outcome after)
    (provisioned : (world.store.table? ctx.tenant).isSome)
    (empty : ∀ other, world.store.stored ctx.tenant other = none)
    (prepared : input.prepare = .ok record) (named : input.id = some id) :
    ∃ saved : TimerRecord, saved.Redeclares record ∧
      MemoryStore.Sets ctx.tenant id (some saved) world.store after.store := by
  obtain ⟨place, before, saved, redeclares, chosen, sets⟩ :=
    create_sets_of_accepted good runs provisioned prepared fun given _ => empty given
  cases chosen with
  | known old held _ => simp [empty] at held
  | given given _ _ =>
    obtain rfl := Option.some.inj (named.symm.trans given)
    exact ⟨saved, redeclares, sets⟩
  | generated unnamed _ _ _ => simp [named] at unnamed

end Registry

open Registry

/-! ### Which modules are kept apart -/

/-- Timers of the modules that have one natural key are of one kind, and the modules are one. -/
def KeysSeparate (name other : String) : Prop :=
  ∀ input given first second : TimerRecord, input.prepare = .ok first → given.prepare = .ok second →
    first.moduleName = some name → second.moduleName = some other →
      first.naturalKey = second.naturalKey → first.kind = second.kind ∧ name = other

/-- In no state that a service reaches, whatever its engine, does a creation for the second module
overwrite a timer of the first, if the id that it may generate is not in use. -/
def CreationsSpare (name other : String) : Prop :=
  ∀ {ε : Type} [SchedulingEngine ε] {world : World MemoryStore ε}, Reached world →
    ∀ (ctx : Context) {input record : TimerRecord}, input.prepare = .ok record →
      record.moduleName = some other →
        (input.id = none → ∀ tenant, world.store.stored tenant world.nextId = none) →
          ∀ tenant id old, world.store.stored tenant id = some old → old.moduleName = some name →
            name ≠ other → (world.run (create ctx input)).2.store.stored tenant id = some old

variable {name other : String}

theorem keysSeparate_of_untangled (untangled : ¬ ModuleName.Entangled name other) :
    KeysSeparate name other := by
  intro input given first second prepared accepted named otherNamed same
  obtain ⟨kinds, own, others, firstNamed, secondNamed, names⟩ :=
    TimerRecord.kind_and_moduleName_of_naturalKey_eq prepared accepted same
  obtain rfl := Option.some.inj (named.symm.trans firstNamed)
  obtain rfl := Option.some.inj (otherNamed.symm.trans secondNamed)
  exact ⟨kinds, names.resolve_right untangled⟩

/-- Where keys are separate, timers are spared. -/
theorem KeysSeparate.spares (separate : KeysSeparate name other) : CreationsSpare name other := by
  intro ε _ world reached ctx input record prepared otherNamed fresh tenant id old held named apart
  have orderly := reached.orderly
  by_contra changed
  obtain ⟨_, accepted, namesake⟩ :=
    namesake_of_overwritten orderly.wellFormed (world.runs (create ctx input)) fresh held changed
  obtain rfl := Except.ok.inj (prepared.symm.trans accepted)
  exact apart
    (separate old input old record (orderly.records held).prepared prepared named
    otherNamed namesake).2

/-- Every module may have timers. -/
theorem exists_prepared (present : Text.isAllBlank name.toList = false) :
    ∃ record : TimerRecord, record.prepare = .ok record ∧ record.moduleName = some name := by
  have prepared : TimerRecord.minutely.prepare = .ok { TimerRecord.minutely with
      moduleName := some "mod" } := by
    decide +kernel
  exact ⟨_, TimerRecord.prepare_redirect (TimerRecord.prepare_idem prepared) present "POST" "/run",
    rfl⟩

/-- Modules that are entangled may have timers with one natural key. -/
theorem exists_namesakes (present : Text.isAllBlank name.toList = false)
    (otherPresent : Text.isAllBlank other.toList = false)
    (entangled : ModuleName.Entangled name other) :
    ∃ first second : TimerRecord, first.prepare = .ok first ∧ second.prepare = .ok second ∧
      first.moduleName = some name ∧ second.moduleName = some other ∧
      first.naturalKey = second.naturalKey := by
  rcases entangled with longer | longer
  · obtain ⟨first, prepared, named⟩ := exists_prepared present
    obtain ⟨second, accepted, otherNamed, same⟩ :=
      TimerRecord.exists_namesake_of_extends prepared named longer otherPresent
    exact ⟨first, second, prepared, accepted, named, otherNamed, same.symm⟩
  · obtain ⟨second, accepted, otherNamed⟩ := exists_prepared otherPresent
    obtain ⟨first, prepared, named, same⟩ :=
      TimerRecord.exists_namesake_of_extends accepted otherNamed longer present
    exact ⟨first, second, prepared, accepted, named, otherNamed, same⟩

/-- A tenant has been provisioned and has no timers. -/
def unfurnished : World MemoryStore LocalEngine := (opened.run (initTenant ⟨"north", none, none⟩)).2

theorem stored_unfurnished (tenant : String) (id : Uuid) :
    unfurnished.store.stored tenant id = none := by
  have tables : unfurnished.store.tables = [("north", [])] := by decide +kernel
  have free := (MemoryStore.stored_eq_none_iff unfurnished.store id).mpr <| by
    rw [tables]
    simp [MemoryStore.stored, MemoryStore.table?, tables, TimerTable.row?]
  exact free tenant

/-- Whatever passes the checks can be the only timer of a tenant. -/
theorem exists_reached_of_prepared {record : TimerRecord} (prepared : record.prepare = .ok record)
    (id : Uuid) :
    ∃ world : World MemoryStore LocalEngine, Reached world ∧
      ∃ saved : TimerRecord, saved.Redeclares record ∧
      ∀ other, world.store.stored "north" other = if other = id then some saved else none := by
  have reached : Reached unfurnished := (Reached.start _ _).serve (.initTenant _)
  obtain ⟨saved, redeclares, sets⟩ := create_first reached.orderly.wellFormed
    (unfurnished.runs (create ⟨"north", none, none⟩ { record with id := some id }))
      (by decide +kernel)
    (stored_unfurnished "north") (TimerRecord.prepare_withId prepared _) rfl
  have same : saved.Redeclares record :=
    ⟨redeclares.kind, redeclares.moduleName, redeclares.moduleId, redeclares.routingEntry⟩
  refine ⟨(unfurnished.run (create ⟨"north", none, none⟩ { record with id := some id })).2,
    reached.serve (.create _ _), saved, same, fun other => ?_⟩
  rw [sets.stored, stored_unfurnished]

/-- Where timers of two modules have one natural key, a state can be reached in which the creation
of the one overwrites the other. -/
theorem not_creationsSpare_of_namesakes {first second : TimerRecord}
    (prepared : first.prepare = .ok first) (accepted : second.prepare = .ok second)
    (named : first.moduleName = some name) (otherNamed : second.moduleName = some other)
    (same : first.naturalKey = second.naturalKey) (apart : name ≠ other) :
    ¬ CreationsSpare name other := by
  intro spares
  obtain ⟨world, reached, saved, redeclares, stored⟩ :=
    exists_reached_of_prepared prepared (.ofBits 7)
  have held : world.store.stored "north" (.ofBits 7) = some saved := by rw [stored, if_pos rfl]
  have savedNamed : saved.moduleName = some name := redeclares.moduleName.trans named
  -- The second timer is created under an id of its own.
  have free : ∀ given, some (Uuid.ofBits 8) = some given →
      world.store.stored "north" given = none := by
    rintro _ ⟨⟩
    rw [stored, if_neg (by decide)]
  have secondPrepared := TimerRecord.prepare_withId accepted (some (.ofBits 8))
  have namesake : second.naturalKey = saved.naturalKey := same.symm.trans redeclares.naturalKey.symm
  have runs := world.runs (create ⟨"north", none, none⟩ { second with id := some (.ofBits 8) })
  obtain ⟨next, overwritten, renamed⟩ :=
    overwritten_of_namesake reached.orderly.wellFormed runs secondPrepared free held namesake
  have kept :=
    spares reached ⟨"north", none, none⟩ secondPrepared otherNamed (by simp) "north"
    (.ofBits 7) saved held savedNamed apart
  obtain rfl := Option.some.inj (kept.symm.trans overwritten)
  exact apart (Option.some.inj (savedNamed.symm.trans (renamed.trans otherNamed)))

/-- Natural keys separate two modules, and creations for the one spare the timers of the other,
exactly if neither name is the other with a separator and more behind it. Kinds are told apart in
any case. -/
theorem natural_keys_separate_iff (present : Text.isAllBlank name.toList = false)
    (otherPresent : Text.isAllBlank other.toList = false) :
    (KeysSeparate name other ↔ ¬ ModuleName.Entangled name other) ∧
      (CreationsSpare name other ↔ ¬ ModuleName.Entangled name other) ∧
      ∀ input given first second : TimerRecord, input.prepare = .ok first →
        given.prepare = .ok second →
        first.naturalKey = second.naturalKey → first.kind = second.kind := by
  have untangled_of_spares : CreationsSpare name other → ¬ ModuleName.Entangled name other := by
    intro spares entangled
    obtain ⟨first, second, prepared, accepted, named, otherNamed, same⟩ :=
      exists_namesakes present otherPresent entangled
    exact not_creationsSpare_of_namesakes prepared accepted named otherNamed same
      entangled.ne spares
  refine ⟨⟨fun separate => untangled_of_spares separate.spares, keysSeparate_of_untangled⟩,
    ⟨untangled_of_spares, fun untangled => (keysSeparate_of_untangled untangled).spares⟩, ?_⟩
  intro input given first second prepared accepted same
  exact (TimerRecord.kind_and_moduleName_of_naturalKey_eq prepared accepted same).1

/-! ### Two modules with one natural key -/

/-- A timer of a module whose name has a separator. -/
def gated : TimerRecord :=
  { (default : TimerRecord) with
    kind := some .user, moduleName := some "mod#POST", enabled := true
    routingEntry := some ⟨[], none, some "/run", some ⟨"1", .minute⟩, none⟩ }

/-- A timer of another module, with the same natural key. -/
def gatecrasher : TimerRecord :=
  { gated with
    moduleName := some "mod"
    routingEntry := some ⟨["POST"], none, some "#/run", some ⟨"1", .minute⟩, none⟩ }

/-- The tenant has got the first one. -/
def housed : World MemoryStore LocalEngine :=
  (unfurnished.run (create ⟨"north", none, none⟩ gated)).2

theorem reached_housed : Reached housed :=
  ((Reached.start _ _).serve (.initTenant _)).serve (.create _ _)

theorem housed_stores_gated : ∃ old, housed.store.stored "north" (.ofBits 1) = some old ∧
    old.moduleName = some "mod#POST" := by
  have present :
      (housed.store.stored "north" (.ofBits 1)).any (·.moduleName == some "mod#POST") = true := by
    decide +kernel
  simpa [Option.any_eq_true] using present

/-- The second one takes the place of the first, and modules are not separate at large. -/
theorem gatecrasher_overwrites_gated :
    ¬ (∀ input given first second : TimerRecord, input.prepare = .ok first →
      given.prepare = .ok second →
        first.naturalKey = second.naturalKey →
          first.kind = second.kind ∧ first.moduleName = second.moduleName) ∧
      ¬ ∀ world : World MemoryStore LocalEngine, Reached world →
        ∀ (ctx : Context) (input record : TimerRecord),
        World.Throughout FreshIds world (create ctx input) → input.prepare = .ok record →
          ∀ (id : Uuid) (old : TimerRecord), world.store.stored ctx.tenant id = some old →
            old.moduleName ≠ record.moduleName →
              (world.run (create ctx input)).2.store.stored ctx.tenant id = some old := by
  have prepared : gatecrasher.prepare = .ok gatecrasher := by decide +kernel
  constructor
  · intro separate
    have apart :=
      (separate gated gatecrasher gated gatecrasher (by decide +kernel) prepared
      (by decide +kernel)).2
    exact absurd apart (by decide)
  · intro spares
    obtain ⟨old, held, named⟩ := housed_stores_gated
    have kept :=
      spares housed reached_housed ⟨"north", none, none⟩ gatecrasher gatecrasher (by decide +kernel)
      prepared (.ofBits 1) old held (by rw [named]; decide)
    have renamed : ((housed.run (create ⟨"north", none, none⟩ gatecrasher)).2.store.stored "north"
        (.ofBits 1)).any (·.moduleName == some "mod") = true := by
      decide +kernel
    rw [kept] at renamed
    simp [named] at renamed

/-- A timer of a module with another name altogether leaves the first one where it is. -/
theorem gated_spared : ∃ old, housed.store.stored "north" (.ofBits 1) = some old ∧
    (housed.run
      (create ⟨"north", none, none⟩ { gatecrasher with moduleName := some "lib" })).2.store.stored
      "north" (.ofBits 1) = some old ∧
    ¬ CreationsSpare "mod#POST" "mod" := by
  obtain ⟨old, held, named⟩ := housed_stores_gated
  have untangled : ¬ ModuleName.Entangled "mod#POST" "lib" := by
    rintro (⟨rest, longer⟩ | ⟨rest, longer⟩) <;> simpa using congrArg (·.toList.head?) longer
  have prepared : ({ gatecrasher with moduleName := some "lib" } : TimerRecord).prepare =
      .ok { gatecrasher with moduleName := some "lib" } := by
    decide +kernel
  have fresh : ∀ tenant, housed.store.stored tenant housed.nextId = none :=
    (MemoryStore.stored_eq_none_iff _ _).mpr (by decide +kernel)
  have spares : CreationsSpare "mod#POST" "lib" :=
    (natural_keys_separate_iff (by decide) (by decide)).2.1.mpr untangled
  refine ⟨old, held, ?_, fun spared => ?_⟩
  · exact spares reached_housed ⟨"north", none, none⟩ prepared rfl (fun _ => fresh) "north"
      (.ofBits 1) old held named (by decide)
  · exact (natural_keys_separate_iff (by decide) (by decide)).2.1.mp spared (.inl ⟨"POST", rfl⟩)

end Horarium
