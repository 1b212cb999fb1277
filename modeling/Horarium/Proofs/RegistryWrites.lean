/-
Module: Horarium.Proofs.RegistryWrites
Purpose: What the registry's writes of a single record do. Each is refused with nothing changed, or
  sets one record of the caller's tenant and then settles the job under its id, unless the engine is
  unavailable.
Trusted boundary: none
Main exports: MemoryStore.Sound, Refused, Written, Registry.Placed, Registry.Stores,
  Registry.create_stores, Registry.delete_written
-/
import Horarium.Proofs.Commitment
import Horarium.Proofs.Reconciliation

namespace Horarium

/-- The tables are in good order, and the trigger of every stored record can be computed. -/
structure MemoryStore.Sound (store : MemoryStore) : Prop where
  wellFormed : store.WellFormed
  schedulable : ∀ {tenant id record}, store.stored tenant id = some record → record.Schedulable

theorem MemoryStore.Sets.sound {tenant : String} {id : Uuid} {new : Option TimerRecord}
    {before after : MemoryStore} (sets : Sets tenant id new before after) (sound : before.Sound)
    (schedulable : ∀ record, new = some record → record.Schedulable) : after.Sound where
  wellFormed := sets.wellFormed sound.wellFormed
  schedulable := by
    intro other at' record held
    by_cases same : other = tenant
    · subst same
      rw [sets.stored] at held
      split at held
      · exact schedulable record held
      · exact sound.schedulable held
    · rw [sets.stored_elsewhere same] at held
      exact sound.schedulable held

theorem MemoryStore.sound_empty : MemoryStore.empty.Sound where
  wellFormed := by
    intro tenant table held
    simp [MemoryStore.table?, MemoryStore.empty] at held
  schedulable := by
    intro tenant id record held
    simp [MemoryStore.stored, MemoryStore.table?, MemoryStore.empty] at held

theorem MemoryStore.Sound.provision {store : MemoryStore} (sound : store.Sound) (tenant : String) :
    (store.provision tenant).Sound where
  wellFormed := sound.wellFormed.provision tenant
  schedulable := by
    intro other id record held
    rw [stored_provision] at held
    exact sound.schedulable held

variable {ε : Type} [JobEngine ε] {c : Circumstances} {world after : World MemoryStore ε}
  {ctx : Context}
  {id : Uuid}

/-- The operation failed and changed nothing. -/
structure Refused {δ α : Type} (world : World MemoryStore ε) (outcome : Except δ α)
    (after : World MemoryStore ε) : Prop where
  failed : ∃ e, outcome = .error e
  store : after.store = world.store
  roster : after.roster = world.roster

/-- The operation set one record of the tenant, and then settled the job under its id or found the
engine unavailable. -/
structure Written {α : Type} (c : Circumstances) (ctx : Context) (id : Uuid)
    (new : Option TimerRecord) (world : World MemoryStore ε) (outcome : Except RegistryError α)
    (after : World MemoryStore ε) :
    Prop where
  sets : MemoryStore.Sets ctx.tenant id new world.store after.store
  sound : after.store.Sound
  engine :
    (∃ a, outcome = .ok a) ∧ after.roster = Function.update world.roster id.toText
        (settle ctx id (world.store.stored ctx.tenant id) new (world.roster id.toText)) ∨
      (∃ detail, outcome =
        .error (.scheduling (.schedulingFailure id.toText (.unavailable detail)))) ∧
        c.outage ∧ after.roster = world.roster ∧
        demandOf (world.store.stored ctx.tenant id) ≠ demandOf new

/-- A write that is declined is a refusal. -/
theorem Declined.refused {α : Type} {outcome : Except RegistryError α}
    (declined : Declined world outcome after) : Refused world outcome after :=
  ⟨declined.failed.imp fun _ failed => failed.1, declined.store,
    congrArg JobEngine.roster declined.engine⟩

/-- Under the chosen id the version before is stored, and nothing where there is none. -/
theorem Chosen.stored {input saved : TimerRecord} {before : Option TimerRecord}
    (chosen : Chosen c.Admits world ctx.tenant input saved id before) :
    world.store.stored ctx.tenant id = before := by
  cases chosen with
  | known old held _ => exact held
  | given _ free _ => exact free
  | generated _ next met _ =>
    subst next
    exact c.unstored met ctx.tenant

/-- Following a version that has been stored settles its job. -/
theorem Reconcile.follow_reconciled {before : Option TimerRecord} {saved : TimerRecord}
    {outcome : Except TriggerError PUnit} (known : ∀ old, before = some old → old.id = some id)
    (named : saved.id = some id) (schedulable : saved.Schedulable)
    (runs : World.Runs c.Admits world (follow ctx before saved) outcome after) :
    Reconciled c ctx id before (some saved) world outcome after := by
  cases before with
  | none => exact Reconciled.of_bind_done runs (schedule_reconciled named schedulable)
  | some old => exact reschedule_reconciled (known old rfl) named schedulable runs

namespace Registry

/-- After the store has set the record, settling its job completes the write. -/
theorem Written.of_reconciled {α β : Type} {middle : World MemoryStore ε} {new : Option TimerRecord}
    {step : Procedure TriggerError α} {b : β} {outcome : Except RegistryError β}
    (sets : MemoryStore.Sets ctx.tenant id new world.store middle.store)
    (sound : middle.store.Sound) (roster : middle.roster = world.roster)
    (runs : World.Runs c.Admits middle (reconcile step >>= fun _ => .done b) outcome after)
    (reconciled : ∀ {outcome after}, World.Runs c.Admits middle step outcome after →
      Reconciled c ctx id (world.store.stored ctx.tenant id) new middle outcome after) :
    Written c ctx id new world outcome after ∧ ∀ a, outcome = .ok a → a = b := by
  rcases runs.mapError_bind_inv with ⟨a, last, first, rest⟩ | ⟨e, first, rfl⟩
  · obtain ⟨rfl, rfl⟩ := rest.done_inv
    rcases reconciled first with ⟨_, settles⟩ | ⟨⟨detail, failed⟩, _⟩
    · refine ⟨⟨settles.store ▸ sets, settles.store ▸ sound, .inl ⟨⟨b, rfl⟩, ?_⟩⟩, ?_⟩
      · rw [settles.roster, roster]
      · intro a same
        exact (Except.ok.inj same).symm
    · exact absurd failed (by simp)
  · rcases reconciled first with ⟨⟨a, succeeded⟩, _⟩ | ⟨⟨detail, failed⟩, outage, stalls⟩
    · exact absurd succeeded (by simp)
    · refine ⟨⟨stalls.store ▸ sets, stalls.store ▸ sound,
        .inr ⟨⟨detail, ?_⟩, outage, ?_, stalls.differs⟩⟩, ?_⟩
      · rw [Except.error.inj failed]
        rfl
      · rw [stalls.roster, roster]
      · intro a same
        simp at same

/-- Under which id a timer that has passed the checks is stored: that of the record with its natural
key, else the one that the input carries, else a generated one. -/
inductive Placed (c : Circumstances) (world : World MemoryStore ε) (tenant : String)
    (input record : TimerRecord) (id : Uuid) : Prop where
  | known (old : TimerRecord) (held : world.store.stored tenant id = some old)
      (namesake : old.naturalKey = record.naturalKey)
  | added (free : world.store.stored tenant id = none)
      (unique : ∀ other old, world.store.stored tenant other = some old →
        old.naturalKey ≠ record.naturalKey)
      (source : input.id = some id ∨ input.id = none ∧ c.mayGenerate world.store world.roster id)

/-- What a creation or an update that is not refused does. -/
structure Stores (c : Circumstances) (ctx : Context) (input record : TimerRecord) (id : Uuid)
    (saved : TimerRecord) (world : World MemoryStore ε) (outcome : Except RegistryError TimerRecord)
    (after : World MemoryStore ε) : Prop where
  prepared : input.prepare = .ok record
  restates : saved.Restates record
  named : saved.id = some id
  written : Written c ctx id (some saved) world outcome after
  returned : ∀ a, outcome = .ok a → a = saved

/-- A version that has been stored after what was stored before is written once its job is
settled. -/
theorem stores_of_commits {input record saved : TimerRecord} {before : Option TimerRecord}
    {committed : World MemoryStore ε} {outcome : Except RegistryError TimerRecord}
    (sound : world.store.Sound) (prepared : input.prepare = .ok record)
    (stored : world.store.stored ctx.tenant id = before)
    (commits : Commits ctx record id before saved world committed)
    (following : World.Runs c.Admits committed
      (reconcile (Reconcile.follow ctx before saved) >>= fun _ => .done saved) outcome after) :
    Stores c ctx input record id saved world outcome after := by
  have schedulable : saved.Schedulable :=
    commits.redeclares.schedulable (TimerRecord.schedulable_of_prepare prepared)
  have roster : committed.roster = world.roster := congrArg JobEngine.roster commits.engine
  have soundAfter : committed.store.Sound := by
    refine commits.sets.sound sound ?_
    rintro _ ⟨⟩
    exact schedulable
  obtain ⟨written, returned⟩ := Written.of_reconciled commits.sets soundAfter roster following <| by
    intro outcome after following
    rw [stored]
    refine Reconcile.follow_reconciled ?_ commits.named schedulable following
    intro old known
    exact sound.wellFormed.id_of_stored (commits.known old known)
  exact ⟨prepared, commits.restates, commits.named, written, returned⟩

/-- A creation is refused for a reason that lies in its input or its tenant, or stores the timer
under the id that is its place. -/
theorem create_stores {input : TimerRecord} {outcome : Except RegistryError TimerRecord}
    (sound : world.store.Sound)
    (runs : World.Runs c.Admits world (create ctx input) outcome after) :
    Refused world outcome after ∧ Unacceptable world.store ctx.tenant input ∨
      ∃ record id saved, Placed c world ctx.tenant input record id ∧
        Stores c ctx input record id saved world outcome after := by
  rcases create_commits sound.wellFormed runs with
    ⟨declined, reason⟩ | ⟨record, id, before, saved, committed, prepared, chosen,
      commits, following⟩
  · exact .inl ⟨declined.refused, reason⟩
  have key : saved.naturalKey = record.naturalKey := commits.redeclares.naturalKey
  refine .inr
    ⟨record, id, saved, ?_, stores_of_commits sound prepared chosen.stored commits following⟩
  cases chosen with
  | known old held namesake => exact .known old held (namesake.trans key)
  | given named free unique => exact .added free (key ▸ unique) (.inl named)
  | generated unnamed next met unique =>
    subst next
    exact .added (c.unstored met ctx.tenant) (key ▸ unique) (.inr ⟨unnamed, met⟩)

/-- An update is refused, or stores the next version of the timer under its id. -/
theorem update_stores {input : TimerRecord} {outcome : Except RegistryError TimerRecord}
    (sound : world.store.Sound)
    (runs : World.Runs c.Admits world (update ctx id input) outcome after) :
    Refused world outcome after ∨ ∃ record saved, (world.store.stored ctx.tenant id).isSome ∧
      Stores c ctx input record id saved world outcome after := by
  rcases update_commits sound.wellFormed runs with
    declined | ⟨record, old, saved, committed, prepared, commits, following⟩
  · exact .inl declined.refused
  · have held := commits.known old rfl
    exact .inr ⟨record, saved, by rw [held, Option.isSome_some],
      stores_of_commits sound prepared held commits following⟩

/-- A deletion leaves nothing stored under the id, unless the tenant has no table. -/
theorem delete_written {outcome : Except RegistryError PUnit} (sound : world.store.Sound)
    (runs : World.Runs c.Admits world (delete ctx id) outcome after) :
    world.store.table? ctx.tenant = none ∧ Refused world outcome after ∨
      Written c ctx id none world outcome after := by
  rcases delete_commits runs with
    ⟨missing, rfl, rfl⟩ | ⟨absent, rfl, rfl⟩ | ⟨existing, changed, held, sets, dropping⟩
  · exact .inl ⟨missing, ⟨_, rfl⟩, rfl, rfl⟩
  · refine .inr ⟨.unchanged absent, sound, .inl ⟨⟨_, rfl⟩, ?_⟩⟩
    rw [absent, settle_of_demand_eq rfl, Function.update_eq_self]
  · have deleted : MemoryStore.Sets ctx.tenant id none world.store
        ({ world with store := changed } : World MemoryStore ε).store := sets
    rw [← bind_pure (reconcile (Reconcile.unschedule existing))] at dropping
    have ended : World.Runs c.Admits { world with store := changed }
        (reconcile (Reconcile.unschedule existing) >>= fun _ => .done ⟨⟩) outcome after := dropping
    refine .inr (Written.of_reconciled deleted (sets.sound sound (by simp)) rfl ended ?_).1
    intro outcome after unscheduling
    rw [held]
    exact Reconcile.unschedule_reconciled (sound.wellFormed.id_of_stored held) unscheduling

end Registry

end Horarium
