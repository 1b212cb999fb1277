/-
Module: Horarium.Proofs.EntitlementRedelivery
Purpose: Redelivery of events about the use of modules. Switching a module flips all its timers in
  the store before the engine is asked for anything, and the next delivery looks only for timers
  whose flag is not what it should be. So whatever the first delivery did not get to stays undone.
Trusted boundary: none
Main exports: Sync.entitlement_redelivery_iff
-/
import Horarium.Proofs.EventSteps
import Horarium.Proofs.TenantAgreement

namespace Horarium.Sync

variable {ε : Type} [JobEngine ε] {world mid after : World MemoryStore ε} {event : EntitlementEvent}
  {n : Nat}

/-- The system timers of the module run as they should after the event: each active one has a job
with its trigger, and no disabled one has a job. -/
def InForce (event : EntitlementEvent) (world : World MemoryStore ε) : Prop :=
  ∀ name id record, Addressed event name → world.store.stored event.tenant id = some record →
    record.moduleName = some name → record.kind = some .system →
    (record.isActive = true →
      ∃ job, world.roster id.toText = some job ∧ record.trigger = .ok job.trigger) ∧
    (record.enabled = false → world.roster id.toText = none)

/-- Agreement on the tenant is more than agreement on the timers of a module. -/
theorem inForce_of_agrees (agrees : Agrees event.tenant world) : InForce event world := by
  intro name id record _ stored _ _
  have inLine := agrees.inLine id
  rw [stored] at inLine
  constructor
  · intro active
    exact (inLine_active active).mp inLine
  · intro disabled
    exact (inLine_inactive (TimerRecord.inactive_of_disabled disabled)).mp inLine

/-- A timer that was turned off or on without its job being told is not as it should be. -/
theorem not_inForce_of_leftBehind {name : String} {id : Uuid} {old new : TimerRecord}
    (agrees : Agrees event.tenant world) (addressed : Addressed event name)
    (left : Registry.LeftBehind (contextOf event.tenant) name id old new world after) :
    ¬ InForce event after := by
  intro inForce
  obtain ⟨whenActive, whenDisabled⟩ :=
    inForce name id new addressed left.stored left.moduleName left.kind
  have inLine := agrees.inLine id
  rw [show world.store.stored event.tenant id = some old from left.before, ← left.roster] at inLine
  rcases left.turned with ⟨wasActive, disabled⟩ | ⟨wasInactive, active⟩
  · obtain ⟨held, registered, _⟩ := (inLine_active wasActive).mp inLine
    rw [whenDisabled disabled] at registered
    simp at registered
  · rw [inLine_inactive wasInactive] at inLine
    obtain ⟨job, registered, _⟩ := whenActive active
    rw [inLine] at registered
    simp at registered

/-- A delivery that is carried out sets the flags of the module's system timers and keeps engine and
store in agreement. -/
theorem entitlement_carried (sound : world.store.Sound) (agrees : Agrees event.tenant world)
    (runs : World.Runs Circumstances.unused.Admits world (entitlement event) (.ok n) after) :
    after.store.Sound ∧ Agrees event.tenant after ∧ ∃ name, Addressed event name ∧
      Registry.Switched after.store event.tenant name event.change.enables := by
  rcases entitlement_outcome sound runs with
    ⟨_, ⟨e, failed⟩, _⟩ | ⟨name, addressed, switched, ⟨_, link⟩ | ⟨⟨e, failed⟩, _⟩⟩
  · simp at failed
  · have chain : Chain .unused (contextOf event.tenant) world after := .single link
    exact ⟨link.sound, chain.agrees agrees, name, addressed, switched⟩
  · simp at failed

/-- Where the timers of the module have the flag already, a delivery does nothing. -/
theorem entitlement_idle {name : String} (sound : world.store.Sound)
    (addressed : Addressed event name)
    (switched : Registry.Switched world.store event.tenant name event.change.enables)
    (runs : World.Runs Circumstances.unused.Admits world (entitlement event) (.ok n) after) :
    n = 0 ∧ after.store = world.store ∧ after.roster = world.roster := by
  rcases entitlement_inv runs with
    ⟨unaddressed, _⟩ | ⟨other, ended, addressedAgain, switching, outcome⟩
  · exact absurd addressed (unaddressed name)
  obtain rfl : name = other := Except.ok.inj (addressed.2.symm.trans addressedAgain.2)
  obtain ⟨idle, store, roster⟩ := Registry.switchModule_idle sound switched switching
  refine ⟨?_, store, roster⟩
  rcases outcome with ⟨same, present⟩ | ⟨_, _, _, same⟩
  · rcases idle with rfl | rfl
    · simp [Except.mapError] at same
    · exact Except.ok.inj same
  · exact Except.ok.inj same

/-- Redelivery of an event about the use of a module. After it all system timers of the module have
the flag, and they are as they should be in the engine exactly if the first delivery did not fail:
after a failure the redelivery does nothing. -/
theorem entitlement_redelivery_iff {outcome : Except SyncError Nat} (sound : world.store.Sound)
    (agrees : Agrees event.tenant world)
    (first : World.Runs Circumstances.unused.Admits world (entitlement event) outcome mid)
    (second : World.Runs Circumstances.unused.Admits mid (entitlement event) (.ok n) after) :
    (∃ name, Addressed event name ∧
        Registry.Switched after.store event.tenant name event.change.enables) ∧
      (InForce event after ↔ ∃ m, outcome = .ok m) ∧
      ((∃ e, outcome = .error e) → n = 0 ∧ after.store = mid.store ∧
        after.roster = mid.roster) := by
  rcases entitlement_outcome sound first with
    ⟨unaddressed, ⟨e, rfl⟩, rfl⟩ | ⟨name, addressed, switched, ⟨⟨m, rfl⟩, link⟩ |
      ⟨⟨e, rfl⟩, _, soundMid, id, old, new, left⟩⟩
  · obtain ⟨_, _, name, addressed, _⟩ := entitlement_carried sound agrees second
    exact absurd addressed (unaddressed name)
  · obtain ⟨soundMid, agreesMid, _⟩ := entitlement_carried sound agrees first
    obtain ⟨_, agreesAfter, flags⟩ := entitlement_carried soundMid agreesMid second
    refine ⟨flags, ?_, by simp⟩
    simp [inForce_of_agrees agreesAfter]
  · obtain ⟨nothing, store, roster⟩ := entitlement_idle soundMid addressed switched second
    refine ⟨⟨name, addressed, store ▸ switched⟩, ?_, fun _ => ⟨nothing, store, roster⟩⟩
    have leftAfter : Registry.LeftBehind (contextOf event.tenant) name id old new world after :=
      { left with
        stored := store ▸ left.stored
        roster := roster ▸ left.roster }
    simp [not_inForce_of_leftBehind agrees addressed leftAfter]

/-! ### A revoked module whose timer keeps firing -/

/-- A module with one active timer has been installed. -/
def serving : World MemoryStore RecordingEngine :=
  (vacant.run (Registry.create (contextOf "north") .minutely)).2

theorem serving_agrees : serving.store.Sound ∧ Agrees "north" serving := by
  have allowed : World.Throughout Flaky vacant
      (Registry.create (contextOf "north") .minutely) := by
    decide +kernel
  have created : (vacant.run (Registry.create (contextOf "north") .minutely)).1.isOk := by
    decide +kernel
  have progress :
      Progress .unused (contextOf "north") RegistryError.IsScheduling (Declared "mod-1.0.0")
      vacant (vacant.run (Registry.create (contextOf "north") .minutely)).1 serving :=
    Registry.create_progress sound_vacant allowed.runs.unused
  rcases progress with chain | ⟨_, ⟨e, failed, _⟩, _⟩
  · exact ⟨chain.sound sound_vacant, chain.agrees agrees_vacant⟩
  · rw [failed] at created
    simp [Except.isOk, Except.toBool] at created

/-- The right to use the module is withdrawn. -/
def revocation : EntitlementEvent := ⟨.revoke, "mod-1.0.0", "north"⟩

/-- The world after deliveries of the revocation, while the engine is unavailable at first. -/
def revoked : Nat → World MemoryStore RecordingEngine
  | 0 => serving.impaired
  | times + 1 => ((revoked times).run (entitlement revocation)).2

/-- Both deliveries have taken place: the first met the unavailable engine, the second had nothing
to do. -/
theorem revoked_twice :
    World.Runs Circumstances.unused.Admits serving.impaired (entitlement revocation)
        (.error (.registry (.scheduling (.schedulingFailure (Uuid.ofBits 1).toText
          (.unavailable "connection refused"))))) (revoked 1) ∧
      World.Runs Circumstances.unused.Admits (revoked 1) (entitlement revocation) (.ok 0)
        (revoked 2) := by
  have first : World.Throughout Flaky serving.impaired (entitlement revocation) := by decide +kernel
  have second : World.Throughout Flaky (revoked 1) (entitlement revocation) := by decide +kernel
  have failed : (serving.impaired.run (entitlement revocation)).1 = .error (.registry (.scheduling
      (.schedulingFailure (Uuid.ofBits 1).toText (.unavailable "connection refused")))) := by
    decide +kernel
  have succeeded : ((revoked 1).run (entitlement revocation)).1 = .ok 0 := by decide +kernel
  exact ⟨failed ▸ first.runs.unused, succeeded ▸ second.runs.unused⟩

theorem revocation_redelivery_idle : ¬ InForce revocation (revoked 2) ∧
    (revoked 2).store = (revoked 1).store ∧ (revoked 2).roster = (revoked 1).roster := by
  obtain ⟨first, second⟩ := revoked_twice
  obtain ⟨sound, agrees⟩ := serving_agrees
  have soundHere : serving.impaired.store.Sound := sound
  have agreesHere : Agrees revocation.tenant serving.impaired := agrees.impaired
  obtain ⟨_, healed, idle⟩ := entitlement_redelivery_iff soundHere agreesHere first second
  refine ⟨?_, (idle ⟨_, rfl⟩).2⟩
  rw [healed]
  simp

/-- A revoked module may keep firing: the timer is disabled, but its job is still there, and no
redelivery drops it. -/
theorem revoked_timer_keeps_job :
    ¬ ∀ (event : EntitlementEvent) (e : SyncError) (n : Nat)
        (world mid after : World MemoryStore RecordingEngine),
      world.store.Sound → Agrees event.tenant world →
      World.Runs Circumstances.unused.Admits world (entitlement event) (.error e) mid →
        e.isRetryable = true →
      World.Runs Circumstances.unused.Admits mid (entitlement event) (.ok n) after →
        InForce event after := by
  intro heals
  obtain ⟨first, second⟩ := revoked_twice
  obtain ⟨sound, agrees⟩ := serving_agrees
  have soundHere : serving.impaired.store.Sound := sound
  have agreesHere : Agrees revocation.tenant serving.impaired := agrees.impaired
  have inForce := heals _ _ _ _ _ _ soundHere agreesHere first (by decide) second
  obtain ⟨record, stored, disabled, moduleName, kind⟩ : ∃ record,
      (revoked 2).store.stored "north" (.ofBits 1) = some record ∧ record.enabled = false ∧
        record.moduleName = some "mod" ∧ record.kind = some .system := by
    have present : ((revoked 2).store.stored "north" (.ofBits 1)).any (fun record =>
        !record.enabled && record.moduleName == some "mod" && record.kind == some .system) =
          true := by
      decide +kernel
    simpa [Option.any_eq_true, and_assoc] using present
  have fires : ((revoked 2).roster (Uuid.ofBits 1).toText).isSome := by decide +kernel
  have addressed : Addressed revocation "mod" := ⟨by decide +kernel, by decide +kernel⟩
  rw [(inForce "mod" (.ofBits 1) record addressed stored moduleName kind).2 disabled] at fires
  simp at fires

end Horarium.Sync
