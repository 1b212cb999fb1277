/-
Module: Horarium.Proofs.ActiveCallbacks
Purpose: Which timers are called. A fire reads the record again, but does not ask whether the timer
  is active still: what was deleted is not called, and what was switched off is. As long as a job is
  in the engine its timer is active, so that only the fires that outlast their jobs call a timer in
  vain.
Trusted boundary: none
Main exports: History.fires_call_active_iff
-/
import Horarium.Proofs.Callbacks
import Horarium.Proofs.JobAgreement

namespace Horarium

namespace Callback

variable {executor : Executor} {requestId : Uuid} {job : JobData}
  {reading : Except StoreError (Option TimerRecord)}
  {result : Except CallbackError CallbackOutcome} {exchanges : List Exchange}

/-- The record that is read for a job is that of an active timer. -/
def ReadsActive (reading : Except StoreError (Option TimerRecord)) : Prop :=
  ∃ record, reading = .ok (some record) ∧ record.isActive = true

/-- The record that is read for a job is switched off or repeats at an interval of zero, and nothing
else stands in the way of a call: there is a method, a path that makes an address, and no want of a
token. -/
def Overlooks (executor : Executor) (job : JobData)
    (reading : Except StoreError (Option TimerRecord)) : Prop :=
  ∃ record entry method path token, Context.isTenantName job.tenant = true ∧
    reading = .ok (some record) ∧
    record.routingEntry = some entry ∧ (record.enabled = false ∨ entry.hasZeroInterval = true) ∧
    entry.Uses method ∧ entry.LeadsTo path ∧ (executor.credentials job).1 = .ok token ∧
    Sendable executor.base path token

theorem isActive_iff {record : TimerRecord} {entry : RoutingEntry}
    (routed : record.routingEntry = some entry) :
    record.isActive = true ↔ ¬ (record.enabled = false ∨ entry.hasZeroInterval = true) := by
  simp [TimerRecord.isActive, routed]

/-- A call goes to an active timer except where it overlooks that the timer is not. -/
theorem Decided.calls_active_iff
    (decided : Decided executor requestId job reading result exchanges) :
    (calls exchanges ≠ [] → ReadsActive reading) ↔ ¬ Overlooks executor job reading := by
  constructor
  · rintro active ⟨record, entry, method, path, token, fit, held, routed, idle, uses, leads,
      given, sendable⟩
    have target : Target job reading method path := ⟨fit, record, entry, held, routed, uses, leads⟩
    obtain ⟨record', held', active⟩ :=
      active (decided.sent_iff.mpr ⟨method, path, token, target, given, sendable⟩)
    obtain rfl : record' = record := by simpa [held] using held'.symm
    exact (isActive_iff routed).mp active idle
  · intro seen sent
    obtain ⟨method, path, token, target, given, sendable⟩ := decided.sent_iff.mp sent
    obtain ⟨fit, record, entry, held, routed, uses, leads⟩ := target
    refine ⟨record, held, (isActive_iff routed).mpr fun idle => ?_⟩
    exact seen ⟨record, entry, method, path, token, fit, held, routed, idle, uses, leads,
      given, sendable⟩

end Callback

open Callback

variable {ε : Type} [SteadyEngine ε] {world : World MemoryStore ε}

/-- What is stored for the timer of a job is read for it. -/
theorem MemoryStore.answer_findById_of_stored {store : MemoryStore} {tenant : String} {id : Uuid}
    {record : TimerRecord} (held : store.stored tenant id = some record) :
    (MemoryStore.answer (.findById tenant id) store).1 = .ok (some record) := by
  rcases MemoryStore.answer_findById store tenant id with ⟨missing, _⟩ | ⟨_, answered⟩
  · simp [stored_of_table?_eq_none missing] at held
  · rw [answered, held]

/-- In every store, a fire calls none but an active timer except where it overlooks that the timer
is switched off or repeats at an interval of zero. In every history without shared ids, the timers
of the jobs in the engine are active. -/
theorem History.fires_call_active_iff (history : History MemoryStore.Unshared world)
    (executor : Executor) (requestId : Uuid) :
    (∀ (σ : Type) [TimerStore σ] (store : σ) (job : JobData),
      (calls (execute executor requestId.toText job store).2.1 ≠ [] →
          ReadsActive (TimerStore.answer (.findById job.tenant job.timer) store).1) ↔
        ¬ Overlooks executor job (TimerStore.answer (.findById job.tenant job.timer) store).1) ∧
      ∀ key job, world.roster key = some job →
        ReadsActive
          (TimerStore.answer (.findById job.data.tenant job.data.timer) world.store).1 := by
  constructor
  · intro σ _ store job
    exact (decided_execute executor requestId job store).calls_active_iff
  · intro key job registered
    obtain ⟨_, record, stored, active, _⟩ := history.consistent.2.justified key job registered
    exact ⟨record, MemoryStore.answer_findById_of_stored stored, active⟩

/-! ### A timer that is switched off -/

/-- A network on which everything is answered, and no tokens. -/
def gateway : Executor := ⟨fun _ => some ⟨204, ""⟩, "http://gateway", .fixed none⟩

/-- The tenant's timer is called by the fire of its job. -/
theorem employed_timer_called : ∃ job, employed.roster (Uuid.ofBits 1).toText = some job ∧
    calls (execute gateway (Uuid.ofBits 2).toText job.data employed.store).2.1 ≠ [] ∧
    ReadsActive (TimerStore.answer (.findById job.data.tenant job.data.timer) employed.store).1 ∧
    ¬ Overlooks gateway job.data
      (TimerStore.answer (.findById job.data.tenant job.data.timer) employed.store).1 := by
  obtain ⟨job, registered, called⟩ : ∃ job, employed.roster (Uuid.ofBits 1).toText = some job ∧
      calls (execute gateway (Uuid.ofBits 2).toText job.data employed.store).2.1 ≠ [] := by
    have present : (employed.roster (Uuid.ofBits 1).toText).any (fun job =>
        calls (execute gateway (Uuid.ofBits 2).toText job.data employed.store).2.1 != []) = true :=
      by decide +kernel
    simpa [Option.any_eq_true] using present
  obtain ⟨calling, engaged⟩ := history_employed.fires_call_active_iff gateway (.ofBits 2)
  have active := engaged _ job registered
  exact ⟨job, registered, called, active,
    (calling MemoryStore employed.store job.data).mp fun _ => active⟩

/-- The module of the tenant's timer has been switched off. -/
def revoked : World MemoryStore LocalEngine :=
  (employed.run (Registry.switchModule ⟨"north", none, none⟩ "mod" false)).2

/-- A fire of the job that the engine held before is not kept from calling a timer that is switched
off now. -/
theorem revoked_timer_called :
    ¬ ∀ (executor : Executor) (requestId : Uuid) (job : JobData) (store : MemoryStore),
    calls (execute executor requestId.toText job store).2.1 ≠ [] →
      ReadsActive (TimerStore.answer (.findById job.tenant job.timer) store).1 := by
  intro claimed
  obtain ⟨record, held, active⟩ :=
    claimed gateway (.ofBits 2) ⟨"north", none, .ofBits 1⟩ revoked.store (by decide +kernel)
  have idle : ((revoked.store.stored "north" (.ofBits 1)).all (!·.isActive)) = true := by
    decide +kernel
  have provisioned : (revoked.store.table? "north").isSome = true := by decide +kernel
  rcases MemoryStore.answer_findById revoked.store "north" (.ofBits 1) with
    ⟨missing, _⟩ | ⟨_, answered⟩
  · simp [missing] at provisioned
  · rw [show TimerStore.answer (.findById "north" (.ofBits 1)) revoked.store = _ from answered,
      Except.ok.injEq] at held
    simp [held, active] at idle

end Horarium
