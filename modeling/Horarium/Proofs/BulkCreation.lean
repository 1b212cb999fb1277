/-
Module: Horarium.Proofs.BulkCreation
Purpose: The timers of a module are created one after the other. With a table to store them and an
  engine that does what it is asked, only the checks can stop that: each entry before the first one
  that does not pass them has its timer, and nothing is done about the entries behind it.
Trusted boundary: none
Main exports: Hosts, Reached.installation_stops_at_refused
-/
import Horarium.Proofs.JobAgreement
import Horarium.Proofs.ModuleInstallation
import Horarium.Proofs.RecordValidity

namespace Horarium

variable {ε : Type} [SteadyEngine ε] {world after : World MemoryStore ε} {ctx : Context}

/-- What asks nothing but the engine is performed as it is asked, if the engine is steady. -/
theorem World.Runs.performed {δ α : Type} {P : World MemoryStore ε → Request → Prop}
    {p : Procedure δ α} {outcome : Except δ α} (runs : World.Runs P world p outcome after)
    (only : p.Asks Request.IsEngine) (steady : SteadyEngine.Steady world.engine) :
    World.Runs Circumstances.steady.Admits world p outcome after ∧
    SteadyEngine.Steady after.engine := by
  have fresh := ((only.mono fun _ => Request.IsEngine.takesNoId).throughout world).runs
  obtain ⟨same, unchanged⟩ := runs.unique fresh
  rw [← same, ← unchanged] at fresh
  exact fresh.steady steady

/-- A state in which timers of the tenant can be created: there is a table for them, all tables are
in good order, and the engine does what it is asked. -/
structure Hosts (tenant : String) (world : World MemoryStore ε) : Prop where
  wellFormed : world.store.WellFormed
  provisioned : (world.store.table? tenant).isSome
  steady : SteadyEngine.Steady world.engine

/-- Without an outage, bringing the engine in line ends well. -/
theorem Reconciled.of_steady {α : Type} {id : Uuid} {old new : Option TimerRecord}
    {outcome : Except TriggerError α}
    (reconciled : Reconciled .steady ctx id old new world outcome after) :
    (∃ a, outcome = .ok a) ∧ Settles ctx id old new world after :=
  reconciled.resolve_right fun ⟨_, outage, _⟩ => outage.elim

namespace Registry

variable {input record : TimerRecord}

/-- A record without an id that passes the checks is created, whatever ids are generated. -/
theorem create_hosted (hosts : Hosts ctx.tenant world) (prepared : input.prepare = .ok record)
    (unnamed : input.id = none) :
    ∃ saved after, world.run (create ctx input) = (.ok saved, after) ∧ Hosts ctx.tenant after := by
  rcases create_commits hosts.wellFormed (world.runs (create ctx input)) with
    ⟨_, missing | ⟨named, _⟩ | refused⟩ | ⟨_, id, before, saved, committed, accepted, _,
      commits, following⟩
  · have provisioned := hosts.provisioned
    simp [missing] at provisioned
  · simp [unnamed] at named
  · simp [prepared] at refused
  have schedulable : saved.Schedulable :=
    commits.redeclares.schedulable (TimerRecord.schedulable_of_prepare accepted)
  have known : ∀ old, before = some old → old.id = some id :=
    fun old given => hosts.wellFormed.id_of_stored (commits.known old given)
  have only := ((Reconcile.follow_asks ctx before saved).mapError RegistryError.ofTrigger).bind
    fun _ => Procedure.Asks.done saved
  obtain ⟨performed, steadyAfter⟩ := following.performed only (commits.engine ▸ hosts.steady)
  rcases performed.mapError_bind_inv with ⟨_, middle, first, ended⟩ | ⟨e, first, _⟩
  · obtain ⟨succeeded, unchanged⟩ := ended.done_inv
    obtain ⟨_, settles⟩ :=
      (Reconcile.follow_reconciled known commits.named schedulable first).of_steady
    have store : (world.run (create ctx input)).2.store = committed.store :=
      unchanged ▸ settles.store
    refine ⟨saved, _, Prod.ext succeeded rfl, ?_, ?_, steadyAfter⟩
    · rw [store]
      exact commits.sets.wellFormed hosts.wellFormed
    · rw [store, commits.sets.provisioned]
      exact hosts.provisioned
  · obtain ⟨⟨_, succeeded⟩, _⟩ :=
      (Reconcile.follow_reconciled known commits.named schedulable first).of_steady
    simp at succeeded

/-- A record without an id that does not pass the checks is refused before anything is asked. -/
theorem create_unaccepted {e : RegistryError} (refused : input.prepare = .error e)
    (unnamed : input.id = none) :
    world.run (create ctx input) = (.error e, world) := by
  unfold create
  rw [unnamed, refused]
  rfl

end Registry

namespace Sync

variable {moduleId : String} {refused : RoutingEntry} {entries before rest : List RoutingEntry}

/-- The timer that a module of this id would get for the entry passes the checks. -/
def Accepts (moduleId : String) (entry : RoutingEntry) : Prop :=
  ∃ record, (TimerRecord.ofModule moduleId entry).prepare = .ok record

/-- The timers of all entries are those of the first ones, and then those of the others. -/
theorem createEach_append (ctx : Context) (moduleId : String) (entries rest : List RoutingEntry) :
    createEach ctx moduleId (entries ++ rest) =
      (createEach ctx moduleId entries).bind fun _ => createEach ctx moduleId rest := by
  induction entries with
  | nil => rfl
  | cons entry entries ih =>
    rw [List.cons_append, createEach, createEach, ih]
    exact (Procedure.bind_assoc _ _ _).symm

/-- Entries that are accepted get their timers, by induction on them: each creation leaves a state
in which the next timer can be created. -/
theorem createEach_accepted (hosts : Hosts ctx.tenant world)
    (accepts : ∀ entry ∈ entries, Accepts moduleId entry) :
    ∃ after, world.run (createEach ctx moduleId entries) = (.ok ⟨⟩, after) ∧
      Hosts ctx.tenant after := by
  induction entries generalizing world with
  | nil => exact ⟨world, rfl, hosts⟩
  | cons entry entries ih =>
    obtain ⟨record, prepared⟩ := accepts entry List.mem_cons_self
    obtain ⟨saved, middle, created, hostsMiddle⟩ := Registry.create_hosted hosts prepared rfl
    obtain ⟨after, others, hostsAfter⟩ :=
      ih hostsMiddle fun other member => accepts other (List.mem_cons_of_mem _ member)
    refine ⟨after, ?_, hostsAfter⟩
    show world.run (Procedure.bind _ _) = _
    rw [World.run_bind, onRegistry, World.run_mapError, created]
    exact others

/-- An entry that is not accepted ends the creation. -/
theorem createEach_refused {e : RegistryError}
    (unaccepted : (TimerRecord.ofModule moduleId refused).prepare = .error e) :
    world.run (createEach ctx moduleId (refused :: rest)) = (.error (.registry e), world) := by
  show world.run (Procedure.bind _ _) = _
  rw [World.run_bind, onRegistry, World.run_mapError, Registry.create_unaccepted unaccepted rfl]
  rfl

/-- Entries up to one that is not accepted leave what those before it leave alone. -/
theorem createEach_stops {e : RegistryError} (hosts : Hosts ctx.tenant world)
    (accepts : ∀ entry ∈ before, Accepts moduleId entry)
    (unaccepted : (TimerRecord.ofModule moduleId refused).prepare = .error e) :
    ∃ after, world.run (createEach ctx moduleId before) = (.ok ⟨⟩, after) ∧
      world.run (createEach ctx moduleId (before ++ refused :: rest)) =
        (.error (.registry e), after) := by
  obtain ⟨after, created, _⟩ := createEach_accepted hosts accepts
  refine ⟨after, created, ?_⟩
  rw [createEach_append, World.run_bind, created]
  exact createEach_refused unaccepted

/-- An installation ends as the creation of the single timers does, and answers how many are
declared. -/
theorem run_installation (event : ResourceEvent) {value : ModuleTimers}
    (valid : Context.isTenantName event.tenant = true) (change : event.change = .create)
    (given : event.newValue = some value) (world : World MemoryStore ε) :
    world.run (resource event) =
      ((world.run (createEach (contextOf event.tenant) value.moduleId value.timers)).1.map
        fun _ => value.timers.length,
      (world.run (createEach (contextOf event.tenant) value.moduleId value.timers)).2) := by
  rw [resource_eq_create valid change given]
  exact World.run_bind_done world _ _

/-- A refusal by the checks is not worth a retry: the same record is refused again. -/
theorem not_isRetryable_of_prepare {record : TimerRecord} {e : RegistryError}
    (refused : record.prepare = .error e) :
    (SyncError.registry e).isRetryable = false := by
  obtain ⟨cause, rfl⟩ := TimerRecord.exists_validation_of_prepare refused
  rfl

end Sync

/-- Installing a module stops at the first entry that is not accepted and keeps the ones before it:
in every state that a service reaches, if the tenant has a table and the engine now does what it is
asked. If all entries are accepted, their number is answered; else the error of the checks, and
store, engine, clock and ids are left as if only the entries before had been declared. -/
theorem Reached.installation_stops_at_refused (reached : Reached world)
    (steady : SteadyEngine.Steady world.engine) {event : ResourceEvent} {declared : ModuleTimers}
    (valid : Context.isTenantName event.tenant = true)
    (provisioned : (world.store.table? event.tenant).isSome) (change : event.change = .create)
    (given : event.newValue = some declared) :
    ((∀ entry ∈ declared.timers, Sync.Accepts declared.moduleId entry) →
      ∃ after, world.run (Sync.resource event) = (.ok declared.timers.length, after)) ∧
    ∀ before refused rest e, declared.timers = before ++ refused :: rest →
      (∀ entry ∈ before, Sync.Accepts declared.moduleId entry) →
      (TimerRecord.ofModule declared.moduleId refused).prepare = .error e →
      (∃ cause, e = .validation cause) ∧ (SyncError.registry e).isRetryable = false ∧
        ∃ after, world.run (Sync.resource event) = (.error (.registry e), after) ∧
          world.run
            (Sync.resource { event with newValue := some { declared with timers := before } }) =
            (.ok before.length, after) := by
  have hosts : Hosts (Sync.contextOf event.tenant).tenant world :=
    ⟨reached.orderly.wellFormed, provisioned, steady⟩
  rw [Sync.run_installation event valid change given]
  constructor
  · intro accepts
    obtain ⟨after, created, _⟩ := Sync.createEach_accepted hosts accepts
    rw [created]
    exact ⟨after, rfl⟩
  · intro before refused rest e split accepts unaccepted
    obtain ⟨after, created, stopped⟩ := Sync.createEach_stops hosts accepts unaccepted
    rw [← split] at stopped
    refine ⟨TimerRecord.exists_validation_of_prepare unaccepted,
      Sync.not_isRetryable_of_prepare unaccepted, after, ?_, ?_⟩
    · rw [stopped]
      rfl
    · rw [Sync.run_installation { event with newValue := some { declared with timers := before } }
        valid change rfl, created]
      rfl

/-! ### An installation with a timer that has no trigger -/

/-- A timer that is called once a day. -/
def daily : RoutingEntry := { Sync.everyMinutes "1440" with path := some "/daily" }

/-- A timer for which no trigger is given. -/
def untimed : RoutingEntry := { daily with interval := none }

/-- The timers that a module declares, the second without a trigger. -/
def flawed : ModuleTimers := ⟨"mod-1.1.0", [daily, untimed, { daily with path := some "/late" }]⟩

/-- The first timer has its record and its job, and no other is stored. -/
theorem flawed_installed_in_part : ∃ cause after,
    employed.run (Sync.resource ⟨.create, "north", some flawed, none⟩) =
        (.error (.registry (.validation cause)), after) ∧
      (after.store.stored "north" (.ofBits 2)).isSome ∧
      (after.roster (Uuid.ofBits 2).toText).isSome ∧
      after.store.stored "north" (.ofBits 3) = none := by
  have reached : Reached employed := ((Reached.start _ _).serve (.initTenant _)).serve (.create _ _)
  have valid : Context.isTenantName "north" = true := by decide +kernel
  have provisioned : (employed.store.table? "north").isSome := by decide +kernel
  have accepts : ∀ entry ∈ [daily], Sync.Accepts flawed.moduleId entry := by
    intro entry member
    obtain rfl := List.mem_singleton.mp member
    exact ⟨.declaredBy "mod-1.1.0" "mod" daily, by decide +kernel⟩
  have unaccepted : (TimerRecord.ofModule flawed.moduleId untimed).prepare =
      .error (.validation (.input (.invalid .noTrigger))) := by
    decide +kernel
  have event : (⟨.create, "north", some flawed, none⟩ : ResourceEvent).newValue = some flawed := rfl
  obtain ⟨_, _, after, stopped, shorter⟩ :=
    (reached.installation_stops_at_refused history_employed.sound.2 valid provisioned rfl event).2
      _ _ _ _ rfl accepts unaccepted
  have left : (employed.run (Sync.resource
      ⟨.create, "north", some { flawed with timers := [daily] }, none⟩)).2 = after := by
    rw [shorter]
  refine ⟨_, after, stopped, ?_, ?_, ?_⟩ <;> rw [← left] <;> decide +kernel

end Horarium
