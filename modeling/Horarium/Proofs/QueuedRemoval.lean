/-
Module: Horarium.Proofs.QueuedRemoval
Purpose: The removal of a module among other messages of a queue. Whatever comes before it, the
  module is gone when the queue is empty, unless the module is installed by a message behind the
  removal. A message that installs it may get there although it was published earlier: as long as
  the tenant has no table it goes back to the end of the queue, and the removal, which is passed
  over, does not.
Trusted boundary: none
Main exports: Listener.Course, Listener.Course.state, Listener.Course.Reinstalls,
  Listener.Course.removal_prevails
-/
import Horarium.Proofs.HeldRecords
import Horarium.Proofs.ModuleRemoval
import Horarium.Proofs.ServiceResponses

namespace Horarium

/-- The event installs the module for the tenant: it brings the timers of a module of that name. -/
def TimerEvent.Installs (tenant moduleName : String) : TimerEvent → Prop
  | .moduleResource event => event.tenant = tenant ∧ event.change ≠ .delete ∧
      ∃ value ∈ event.newValue, ModuleName.ofId value.moduleId = .ok moduleName
  | .entitlement _ => False

theorem TimerEvent.Installs.tenant_eq {tenant moduleName : String} {event : TimerEvent}
    (installs : event.Installs tenant moduleName) : event.tenant = tenant := by
  cases event with
  | moduleResource event => exact installs.1
  | entitlement event => exact installs.elim

instance (tenant moduleName : String) : DecidablePred (TimerEvent.Installs tenant moduleName)
  | .moduleResource _ => inferInstanceAs (Decidable (_ ∧ _ ∧ _))
  | .entitlement _ => .isFalse id

/-- The event removes the module from the tenant. -/
def TimerEvent.Removes (tenant moduleName : String) : TimerEvent → Prop
  | .moduleResource event => event.tenant = tenant ∧ event.change = .delete ∧
      ∃ value ∈ event.oldValue.or event.newValue, ModuleName.ofId value.moduleId = .ok moduleName
  | .entitlement _ => False

instance (tenant moduleName : String) : DecidablePred (TimerEvent.Removes tenant moduleName)
  | .moduleResource _ => inferInstanceAs (Decidable (_ ∧ _ ∧ _))
  | .entitlement _ => .isFalse id

/-- The body of a message spells such an event. -/
def Spells (kind : TimerEvent → Prop) (body : String) : Prop :=
  ∃ event ∈ (TimerEvent.parse body).toOption, kind event

instance (kind : TimerEvent → Prop) [DecidablePred kind] (body : String) :
    Decidable (Spells kind body) :=
  inferInstanceAs (Decidable (∃ event ∈ (TimerEvent.parse body).toOption, kind event))

/-- No system timer of the module is stored for the tenant. -/
def MemoryStore.Lacks (tenant moduleName : String) (store : MemoryStore) : Prop :=
  ∀ id record, store.stored tenant id = some record → ¬ record.IsSystemOf moduleName

section Lacks

variable {tenant moduleName : String}

/-- To be no system timer of the module, if it is a record of the tenant. -/
def Unlike (tenant moduleName : String) (_ : Sources) (other : String) (record : TimerRecord) :
    Prop :=
  other = tenant → ¬ record.IsSystemOf moduleName

theorem lasting_unlike : Lasting (Unlike tenant moduleName) where
  later _ unlike := unlike
  flip unlike := unlike

theorem HeldBy.lacks {store : MemoryStore} {sources : Sources}
    (held : HeldBy (Unlike tenant moduleName) store sources) : store.Lacks tenant moduleName :=
  fun _ _ stored => held.records stored rfl

theorem MemoryStore.Lacks.heldBy {store : MemoryStore} (lacks : store.Lacks tenant moduleName)
    (wellFormed : store.WellFormed) (sources : Sources) :
    HeldBy (Unlike tenant moduleName) store sources where
  wellFormed := wellFormed
  records := by
    rintro _ id record stored rfl
    exact lacks id record stored

/-- A timer that a module declares is one of the module that has its name. -/
theorem allows_unlike {ctx : Context} {moduleId : String}
    (other : ctx.tenant = tenant → ModuleName.ofId moduleId ≠ .ok moduleName)
    (entry : RoutingEntry) :
    Registry.Allows (Unlike tenant moduleName) ctx (TimerRecord.ofModule moduleId entry) := by
  intro sources record id before prepared _ same owned
  obtain ⟨name, derived, rfl⟩ := TimerRecord.prepare_ofModule prepared
  obtain rfl : name = moduleName := Option.some.inj owned.1
  exact other same derived

/-- An event that does not install the module leaves the tenant without it. -/
theorem Sync.apply_keeps_unlike {event : TimerEvent} (idle : ¬ event.Installs tenant moduleName) :
    (apply event).Keeps (HeldBy (Unlike tenant moduleName)) := by
  cases event with
  | entitlement event => exact entitlement_keeps lasting_unlike event
  | moduleResource event =>
    apply resource_keeps lasting_unlike
    intro change value given entry
    apply allows_unlike
    intro same derived
    exact idle ⟨same, change, value, given, derived⟩

end Lacks

variable {ε : Type} [SteadyEngine ε] {absent : String → Prop} {world : World MemoryStore ε}
  {tenant moduleName : String}

theorem MemoryStore.Checked.wellFormed {store : MemoryStore} (checked : store.Checked absent) :
    store.WellFormed :=
  fun _ _ held => (checked.tables held).wellFormed

/-- Records that pass the checks have triggers that can be computed. -/
theorem MemoryStore.Checked.sound {store : MemoryStore} (checked : store.Checked absent) :
    store.Sound where
  wellFormed := checked.wellFormed
  schedulable := by
    intro tenant id record stored
    obtain ⟨table, row, held, kept, rfl⟩ := exists_row_of_stored stored
    exact TimerRecord.schedulable_of_prepare
      ((checked.tables held).prepared row (TimerTable.mem_of_row? kept))

/-- After an event that removes the module the tenant is without it. -/
theorem Sync.lacks_of_removes (fit : world.Fit absent) (valid : Context.isTenantName tenant = true)
    {event : TimerEvent} (removes : event.Removes tenant moduleName) :
    (world.run (apply event)).2.store.Lacks tenant moduleName := by
  cases event with
  | entitlement event => exact removes.elim
  | moduleResource event =>
    obtain ⟨rfl, change, value, given, derived⟩ := removes
    cases held : world.store.table? event.tenant with
    | none =>
      have lacks : world.store.Lacks event.tenant moduleName := by
        intro id record stored
        rw [MemoryStore.stored_of_table?_eq_none held] at stored
        cases stored
      have idle : ¬ (TimerEvent.moduleResource event).Installs event.tenant moduleName :=
        fun installs => installs.2.1 change
      have before := lacks.heldBy fit.checked.wellFormed world.sources
      exact ((apply_keeps_unlike idle).kept world before).lacks
    | some table =>
      have provisioned : (world.store.table? event.tenant).isSome := by
        rw [held, Option.isSome_some]
      obtain ⟨n, after, ended, removed⟩ :=
        resource_deletes fit.checked.sound fit.steady valid provisioned change given derived
      show (world.run (resource event)).2.store.Lacks event.tenant moduleName
      rw [ended]
      intro id record stored owned
      by_cases was : ∃ old, world.store.stored event.tenant id = some old ∧
        old.IsSystemOf moduleName
      · obtain ⟨old, before, system⟩ := was
        rw [removed.gone before system] at stored
        cases stored
      · have kept := removed.kept fun old before system => was ⟨old, before, system⟩
        exact was ⟨record, (congrArg Slot.record kept).symm.trans stored, owned⟩

theorem World.Fit.mono {other : String → Prop} (fit : world.Fit absent)
    (weaken : ∀ tenant, absent tenant → other tenant) : world.Fit other :=
  ⟨⟨fit.checked.tables, fun missing => weaken _ (fit.checked.absent missing)⟩, fit.steady⟩

/-- A tenant that has been provisioned is no longer among those without a table. -/
theorem World.Fit.initTenant (fit : world.Fit absent) (ctx : Context) :
    (world.run (Registry.initTenant ctx)).2.Fit fun other => absent other ∧ other ≠ ctx.tenant := by
  have listing : (Registry.ask (.list ctx.tenant) >>= fun records => Reconcile.rebuild ctx records :
      Registry.Operation Nat).FailsOnly (fun other => absent other ∧ other ≠ ctx.tenant)
      (RegistryError.IsExpected fun other => absent other ∧ other ≠ ctx.tenant) :=
    Registry.ask_own_bind_failsOnly id rfl (by simp [StoreRequest.given]) fun records shown =>
      Reconcile.rebuild_failsOnly shown
  have provisioned : World.Fit (fun other => absent other ∧ other ≠ ctx.tenant)
      { world with store := world.store.provision ctx.tenant } := by
    refine ⟨⟨(fit.checked.provision ctx.tenant).tables, fun missing => ?_⟩, fit.steady⟩
    rw [MemoryStore.table?_provision] at missing
    split at missing
    · cases missing
    next apart => exact ⟨fit.checked.absent missing, fun same => apart same.symm⟩
  exact (listing.run provisioned).2

namespace Listener

variable {batchSize : Nat} {retry : RetrySettings} {message : Message} {messages : List Message}

/-- Handling a message leaves the tenant without the module, if it removes the module, or if the
tenant was without it and the message does not install it. -/
theorem lacks_handle (fit : world.Fit absent) (valid : Context.isTenantName tenant = true)
    (settles : Spells (TimerEvent.Removes tenant moduleName) message.body ∨
      world.store.Lacks tenant moduleName ∧
      ¬ Spells (TimerEvent.Installs tenant moduleName) message.body) :
    (handle registryHandler retry message world).2.store.Lacks tenant moduleName := by
  unfold Spells at settles
  unfold handle
  cases spelt : TimerEvent.parse message.body with
  | error e =>
    rw [spelt] at settles
    rcases settles with ⟨_, impossible, _⟩ | ⟨lacks, _⟩
    · cases impossible
    · exact lacks
  | ok event =>
    rw [spelt] at settles
    rcases settles with ⟨_, same, removes⟩ | ⟨lacks, idle⟩
    · obtain rfl := Option.some.inj same
      exact Sync.lacks_of_removes fit valid removes
    · have before := lacks.heldBy fit.checked.wellFormed world.sources
      exact ((Sync.apply_keeps_unlike fun installs => idle ⟨event, rfl, installs⟩).kept world
        before).lacks

/-- Whether the tenant is without the module once messages with these bodies have been handled, by
what comes last among them. -/
def Gone (tenant moduleName : String) (before : Prop) (bodies : List String) : Prop :=
  bodies.foldl (fun gone body => Spells (TimerEvent.Removes tenant moduleName) body ∨
    gone ∧ ¬ Spells (TimerEvent.Installs tenant moduleName) body) before

theorem Gone.mono {before after : Prop} {bodies : List String} (weaken : before → after)
    (gone : Gone tenant moduleName before bodies) : Gone tenant moduleName after bodies := by
  induction bodies generalizing before after with
  | nil => exact weaken gone
  | cons body rest ih => exact ih (Or.imp_right (And.imp_left weaken)) gone

/-- Bodies that do not install the module may be added at the end. -/
theorem Gone.append {before : Prop} {bodies more : List String}
    (gone : Gone tenant moduleName before bodies)
    (idle : ∀ body ∈ more, ¬ Spells (TimerEvent.Installs tenant moduleName) body) :
    Gone tenant moduleName before (bodies ++ more) := by
  induction more generalizing bodies with
  | nil => rwa [List.append_nil]
  | cons body rest ih =>
    rw [List.append_cons]
    apply ih
    · unfold Gone
      rw [List.foldl_concat]
      exact .inr ⟨gone, idle body List.mem_cons_self⟩
    · exact fun other listed => idle other (List.mem_cons_of_mem body listed)

/-- The removal makes up for everything before it. -/
theorem gone_of_removal {before : Prop} {earlier later : List String} {last : String}
    (removal : Spells (TimerEvent.Removes tenant moduleName) last)
    (final : ∀ body ∈ later, ¬ Spells (TimerEvent.Installs tenant moduleName) body) :
    Gone tenant moduleName before (earlier ++ last :: later) := by
  rw [List.append_cons]
  apply Gone.append _ final
  unfold Gone
  rw [List.foldl_concat]
  exact .inl removal

/-- Handling the first messages leaves it to the others whether the module is gone. -/
theorem gone_handledAll {rest : List String} (fit : world.Fit absent)
    (valid : Context.isTenantName tenant = true)
    (gone : Gone tenant moduleName (world.store.Lacks tenant moduleName)
      (messages.map (·.body) ++ rest)) :
    Gone tenant moduleName
      ((handledAll registryHandler retry messages world).store.Lacks tenant moduleName)
      rest := by
  induction messages generalizing world with
  | nil => exact gone
  | cons message others ih => exact ih (fit_handle fit) (gone.mono (lacks_handle fit valid))

/-- A queue into which messages with these bodies have been published. -/
def holding (ids receipts : NameSource) (bodies : List String) : MemoryQueue :=
  bodies.foldl (fun queue body => (queue.publish body).2) (.empty ids receipts)

theorem bodies_holding (ids receipts : NameSource) (bodies : List String) :
    (holding ids receipts bodies).ready.map (·.body) = bodies ∧
      (holding ids receipts bodies).inFlight = [] := by
  have published : ∀ (queue : MemoryQueue) (body : String),
      (queue.publish body).2.ready.map (·.body) = queue.ready.map (·.body) ++ [body] := by
    intro queue body
    rw [MemoryQueue.publish, List.map_append, List.map_singleton]
  induction bodies using List.reverseRecOn with
  | nil => exact ⟨rfl, rfl⟩
  | append_singleton bodies body ih =>
    obtain ⟨ready, rested⟩ := ih
    unfold holding at *
    rw [List.foldl_concat, published, ready]
    exact ⟨rfl, rested⟩

/-- The world is fit, and between two batches nothing is in flight. -/
structure Working (absent : String → Prop) (queue : MemoryQueue) (world : World MemoryStore ε) :
    Prop where
  fit : world.Fit absent
  rested : queue.inFlight = []

variable {queue : MemoryQueue}

theorem Working.processBatch (working : Working absent queue world) :
    let after := (processBatch registryHandler batchSize retry queue world).2
    Working absent after.1 after.2 := by
  simp only [processBatch_rested working.rested]
  exact ⟨fit_handledAll working.fit, working.rested⟩

/-- A batch from which no message that installs the module goes back leaves the removal in force. -/
theorem Working.gone_processBatch (working : Working absent queue world)
    (valid : Context.isTenantName tenant = true)
    (gone : Gone tenant moduleName (world.store.Lacks tenant moduleName) (queue.ready.map (·.body)))
    (kept : ∀ message ∈ returned registryHandler retry (queue.poll batchSize).1 world,
      ¬ Spells (TimerEvent.Installs tenant moduleName) message.body) :
    let after := (Listener.processBatch registryHandler batchSize retry queue world).2
    Gone tenant moduleName (after.2.store.Lacks tenant moduleName)
      (after.1.ready.map (·.body)) := by
  simp only [processBatch_rested working.rested]
  have bodies :
      (queue.poll batchSize).1.map (·.body) = (queue.ready.take batchSize).map (·.body) := by
    have handed := congrArg (List.map Prod.snd)
      (MemoryQueue.map_handOut queue.receipts queue.delivered (queue.ready.take batchSize))
    rwa [List.map_map, List.map_map] at handed
  have split : queue.ready.map (·.body)
      = (queue.poll batchSize).1.map (·.body) ++ (queue.ready.drop batchSize).map (·.body) := by
    rw [bodies, ← List.map_append, List.take_append_drop]
  rw [split] at gone
  rw [List.map_append]
  apply (gone_handledAll working.fit valid gone).append
  intro body listed
  obtain ⟨message, back, rfl⟩ := List.mem_map.mp listed
  exact kept message back

/-- A listener at work: how it takes messages, the queue and the world that it starts with, and the
caller who gives a tenant its table, before the batch of that number. -/
structure Course (ε : Type) where
  batchSize : Nat
  retry : RetrySettings
  queue : MemoryQueue
  world : World MemoryStore ε
  ctx : Context
  moment : Nat

namespace Course

/-- The tenant gets its table if it is time to. -/
def provision (course : Course ε) (n : Nat) (world : World MemoryStore ε) : World MemoryStore ε :=
  if n = course.moment then (world.run (Registry.initTenant course.ctx)).2 else world

/-- The queue and the world after so many batches, when the next one begins. -/
def state (course : Course ε) : Nat → MemoryQueue × World MemoryStore ε
  | 0 => (course.queue, course.provision 0 course.world)
  | n + 1 =>
    let (queue, world) := course.state n
    let (_, queue, world) := processBatch registryHandler course.batchSize course.retry queue world
    (queue, course.provision (n + 1) world)

/-- In the batch of that number a message goes back that installs the module for the tenant. -/
def Reinstalls (course : Course ε) (moduleName : String) (n : Nat) : Prop :=
  let (queue, world) := course.state n
  ∃ message ∈ returned registryHandler course.retry (queue.poll course.batchSize).1 world,
    Spells (TimerEvent.Installs course.ctx.tenant moduleName) message.body

variable {course : Course ε}

/-- The batches work the queue off in the worlds that they meet. -/
theorem queue_state (n : Nat) : (course.state n).1 =
    worked registryHandler course.batchSize course.retry
      (fun m => (course.state m).2) course.queue n := by
  induction n with
  | zero => rfl
  | succ n ih => rw [worked, ← ih, state]

/-- The queue is empty after so many batches. -/
theorem ready_state (rested : course.queue.inFlight = []) (positive : 0 < course.batchSize)
    {n : Nat} (enough : course.queue.ready.length * max 1 course.retry.attempts ≤ n) :
    (course.state n).1.ready = [] := by
  have observed : (QueueTrace.mk [] course.queue).queue.inFlight = [] := rested
  have emptied : (worked registryHandler course.batchSize course.retry (fun m => (course.state m).2)
      (QueueTrace.mk [] course.queue) n).queue.ready = [] :=
        ready_worked_eq_nil observed positive enough
  rw [worked_queue] at emptied
  rwa [queue_state]

/-- The tenant that gets its table has one from then on. -/
theorem fit_provision {n : Nat}
    (fit : world.Fit fun other => course.moment < n → other ≠ course.ctx.tenant) :
    (course.provision n world).Fit fun other => course.moment ≤ n → other ≠ course.ctx.tenant := by
  unfold provision
  split
  · exact (fit.initTenant course.ctx).mono fun other missing _ => missing.2
  next apart =>
    apply fit.mono
    intro other missing passed
    exact missing (Nat.lt_of_le_of_ne passed (Ne.symm apart))

theorem working_state (working : Working (fun _ => True) course.queue course.world) (n : Nat) :
    Working (fun other => course.moment ≤ n → other ≠ course.ctx.tenant) (course.state n).1
      (course.state n).2 := by
  induction n with
  | zero =>
    refine ⟨fit_provision (working.fit.mono ?_), working.rested⟩
    exact fun other _ impossible => absurd impossible (Nat.not_lt_zero _)
  | succ n ih =>
    refine ⟨fit_provision (ih.processBatch.fit.mono ?_), ih.processBatch.rested⟩
    exact fun other missing passed => missing (Nat.le_of_lt_succ passed)

/-- No message that installs the module goes back if none is taken before the tenant has its
table. -/
theorem not_reinstalls (working : Working (fun _ => True) course.queue course.world)
    (early : ∀ n < course.moment, ∀ message ∈ ((course.state n).1.poll course.batchSize).1,
      ¬ Spells (TimerEvent.Installs course.ctx.tenant moduleName) message.body) (n : Nat) :
    ¬ course.Reinstalls moduleName n := by
  rintro ⟨message, back, event, spelt, installs⟩
  by_cases before : n < course.moment
  · exact early n before message (returned_sublist.subset back) ⟨event, spelt, installs⟩
  · obtain ⟨world', met, recurs⟩ := mem_returned.mp back
    have fit := fit_of_mem_faced (working_state working n).fit _ met
    obtain ⟨other, same, gone, _⟩ := tableMissing_of_handle fit (handle_iff.mpr recurs)
    rw [same] at spelt
    obtain rfl := Option.some.inj spelt
    exact fit.checked.absent gone (Nat.le_of_not_lt before) installs.tenant_eq

/-- A tenant that gets its table gets nothing else. -/
theorem lacks_provision (fit : world.Fit absent) (lacks : world.store.Lacks tenant moduleName)
    (n : Nat) :
    (course.provision n world).store.Lacks tenant moduleName := by
  unfold provision
  split
  · have before := lacks.heldBy fit.checked.wellFormed world.sources
    exact (Registry.initTenant_keeps.kept world before).lacks
  · exact lacks

/-- At any time the module is gone once the messages that are ready have been handled. -/
theorem gone_state (working : Working (fun _ => True) course.queue course.world)
    (valid : Context.isTenantName course.ctx.tenant = true)
    (gone :
      ∀ {before : Prop}, Gone course.ctx.tenant moduleName before (course.queue.ready.map (·.body)))
    (kept : ∀ n, ¬ course.Reinstalls moduleName n) (n : Nat) :
    Gone course.ctx.tenant moduleName ((course.state n).2.store.Lacks course.ctx.tenant moduleName)
      ((course.state n).1.ready.map (·.body)) := by
  induction n with
  | zero => exact gone
  | succ n ih =>
    have here := working_state working n
    have after :=
      here.gone_processBatch valid ih fun message back installs => kept n ⟨message, back, installs⟩
    exact after.mono fun lacks => lacks_provision here.processBatch.fit lacks (n + 1)

/-- Whatever events are published, whenever the tenant gets its table, and however large the batches
are: when the last event about a module removes it, no system timer of the module is left once the
queue is empty, unless a message that installs the module has gone back. -/
theorem removal_prevails {ids receipts : NameSource} {earlier later : List String} {last : String}
    (published : course.queue = holding ids receipts (earlier ++ last :: later))
    (removal : Spells (TimerEvent.Removes course.ctx.tenant moduleName) last)
    (final : ∀ body ∈ later, ¬ Spells (TimerEvent.Installs course.ctx.tenant moduleName) body)
    (fit : course.world.Fit fun _ => True) (valid : Context.isTenantName course.ctx.tenant = true)
    (positive : 0 < course.batchSize) (kept : ∀ n, ¬ course.Reinstalls moduleName n) :
    (∀ n, (earlier ++ last :: later).length * max 1 course.retry.attempts ≤ n →
      (course.state n).1.ready = []) ∧
      ∀ n, (course.state n).1.ready = [] →
        (course.state n).2.store.Lacks course.ctx.tenant moduleName := by
  obtain ⟨bodies, rested⟩ := bodies_holding ids receipts (earlier ++ last :: later)
  rw [← published] at bodies rested
  constructor
  · intro n enough
    apply ready_state rested positive
    rwa [← bodies, List.length_map] at enough
  · intro n empty
    have left := gone_state ⟨fit, rested⟩ valid (bodies ▸ gone_of_removal removal final) kept n
    rw [empty] at left
    exact left

/-! ### A removal that is overtaken, and one that is not -/

/-- A tenant gets a module with one timer, as an array spells it. -/
def arrival : String :=
  "[\"MODULE_RESOURCE\",\"CREATE\",\"north\"," ++
    "[\"mod-1.0.0\",[[[],null,\"/\",[\"1\",\"MINUTE\"],null]]],null]"

/-- It gets another module. -/
def otherArrival : String :=
  "[\"MODULE_RESOURCE\",\"CREATE\",\"north\"," ++
    "[\"other-1.0.0\",[[[],null,\"/\",[\"1\",\"MINUTE\"],null]]],null]"

/-- It is told that the first module goes. -/
def departure : String := "[\"MODULE_RESOURCE\",\"DELETE\",\"north\",null,[\"mod-1.0.0\"]]"

/-- A service without tenants. -/
def fresh : World MemoryStore LocalEngine := ⟨.empty, .empty, ⟨fun _ => default, Uuid.ofBits, 0, 0⟩⟩

theorem fit_fresh : fresh.Fit fun _ => True := by
  refine ⟨⟨?_, fun _ => trivial⟩, SteadyEngine.steady_initial⟩
  intro tenant table held
  cases held

theorem departure_removes : Spells (TimerEvent.Removes "north" "mod") departure := by decide +kernel

/-- A queue with these messages. -/
def queueOf : List String → MemoryQueue := holding (.numbered "m") (.numbered "r")

/-- The module comes and goes, and only then the tenant gets its table. -/
def overtaken : Course LocalEngine :=
  ⟨10, ⟨3, 0⟩, queueOf ([arrival] ++ departure :: []), fresh, Sync.contextOf "north", 1⟩

/-- The installation goes back once, and is carried out after the removal has been passed over. -/
theorem overtaken_reinstalled :
    overtaken.queue = queueOf ([arrival] ++ departure :: []) ∧
      Spells (TimerEvent.Removes overtaken.ctx.tenant "mod") departure ∧
      overtaken.world.Fit (fun _ => True) ∧
      (overtaken.state 1).1.ready.map (fun message => (message.body, message.attempts)) =
        [(arrival, 1)] ∧
      (overtaken.state 2).1.ready = [] ∧
      ¬ (overtaken.state 2).2.store.Lacks overtaken.ctx.tenant "mod" := by
  have left : ((overtaken.state 2).2.store.stored overtaken.ctx.tenant (.ofBits 1)).any
      fun record => record.moduleName = some "mod" ∧ record.kind = some .system := by
    decide +kernel
  refine ⟨rfl, departure_removes, fit_fresh, by decide +kernel, by decide +kernel, fun lacks => ?_⟩
  obtain ⟨record, stored, owned⟩ := (Option.any_eq_true _ _).mp left
  exact lacks _ record stored (of_decide_eq_true owned)

/-- The other module is installed as well, and goes back while the tenant has no table. -/
def patient : Course LocalEngine :=
  ⟨1, ⟨3, 0⟩, queueOf ([otherArrival, arrival] ++ departure :: []), fresh,
    Sync.contextOf "north", 1⟩

theorem patient_removal_prevails :
    (patient.state 1).1.ready.map (·.attempts) = [0, 0, 1] ∧ (∀ n, ¬ patient.Reinstalls "mod" n) ∧
      ∀ n, (patient.state n).1.ready = [] → (patient.state n).2.store.Lacks "north" "mod" := by
  have rested : patient.queue.inFlight = [] :=
    (bodies_holding _ _ ([otherArrival, arrival] ++ departure :: [])).2
  have kept : ∀ n, ¬ patient.Reinstalls "mod" n := by
    apply not_reinstalls ⟨fit_fresh, rested⟩
    intro n early
    obtain rfl : n = 0 := Nat.lt_one_iff.mp early
    decide +kernel
  have published : patient.queue = queueOf ([otherArrival, arrival] ++ departure :: []) := rfl
  have prevails :=
    removal_prevails published departure_removes (by simp) fit_fresh (by decide) Nat.one_pos kept
  exact ⟨by decide +kernel, kept, prevails.2⟩

end Course

end Listener

end Horarium
