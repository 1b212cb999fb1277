/-
Module: Horarium.Proofs.Settlement
Purpose: What one version of a record after another asks of the engine, and what becomes of the job
  under the record's id once the engine has been brought in line. All operations of the registry
  come down to this one function; what they do to different ids is independent.
Trusted boundary: none
Main exports: TimerRecord.Schedulable, TimerRecord.Schedulable.exists_trigger, TimerRecord.demand,
  demandOf, settle, settle_of_demand_eq, settle_register
-/
import Horarium.Proofs.Roster
import Horarium.Proofs.TriggerShape
import Horarium.Reconcile

namespace Horarium

namespace TimerRecord

/-- The trigger of the record can be computed, unless the record repeats at an interval of zero. -/
def Schedulable (record : TimerRecord) : Prop :=
  ∀ entry, record.routingEntry = some entry → entry.hasZeroInterval = false →
    ∃ trigger, entry.trigger = .ok trigger

theorem Schedulable.exists_trigger {record : TimerRecord} (schedulable : record.Schedulable)
    (active : record.isActive = true) : ∃ trigger, record.trigger = .ok trigger := by
  unfold isActive at active
  unfold TimerRecord.trigger
  cases entry : record.routingEntry with
  | none => simp [entry] at active
  | some declared =>
    simp only [entry, Bool.and_eq_true, Bool.not_eq_true'] at active
    exact schedulable declared entry active.2

/-- Whether a record can be scheduled depends on its routing entry alone. -/
theorem Schedulable.of_routingEntry {record other : TimerRecord} (schedulable : record.Schedulable)
    (same : other.routingEntry = record.routingEntry) : other.Schedulable := by
  intro entry declared
  exact schedulable entry (same.symm.trans declared)

/-- What the record asks of the engine: nothing while it is inactive, else a job of its shape. -/
def demand (record : TimerRecord) : Option (Option TriggerShape) :=
  if record.isActive then some (TriggerShape.of record) else none

theorem demand_of_active {record : TimerRecord} (active : record.isActive = true) :
    record.demand = some (TriggerShape.of record) := by
  simp [demand, active]

theorem demand_of_inactive {record : TimerRecord} (inactive : record.isActive = false) :
    record.demand = none := by
  simp [demand, inactive]

theorem demand_eq_none_iff {record : TimerRecord} :
    record.demand = none ↔ record.isActive = false := by
  cases active : record.isActive <;> simp [demand, active]

theorem inactive_of_disabled {record : TimerRecord} (disabled : record.enabled = false) :
    record.isActive = false := by
  unfold isActive
  split <;> simp [disabled]

/-- The demand depends on the routing entry and the flag alone. -/
theorem demand_congr {record other : TimerRecord} (enabled : other.enabled = record.enabled)
    (entry : other.routingEntry = record.routingEntry) : other.demand = record.demand := by
  have active : other.isActive = record.isActive := by
    unfold isActive
    rw [entry, enabled]
  have shape : TriggerShape.of other = TriggerShape.of record := by
    unfold TriggerShape.of
    rw [entry]
  unfold demand
  rw [active, shape]

theorem isActive_eq_of_demand {record other : TimerRecord} (same : record.demand = other.demand) :
    record.isActive = other.isActive := by
  cases active : record.isActive with
  | true =>
    cases otherActive : other.isActive with
    | true => rfl
    | false => simp [demand, active, otherActive] at same
  | false =>
    rw [demand_of_inactive active] at same
    exact (demand_eq_none_iff.mp same.symm).symm

/-- Active records with one demand have one trigger. -/
theorem trigger_eq_of_demand {record other : TimerRecord} {trigger : TriggerSpec}
    (same : record.demand = other.demand) (active : record.isActive = true)
    (computed : record.trigger = .ok trigger) : other.trigger = .ok trigger := by
  have otherActive : other.isActive = true := isActive_eq_of_demand same ▸ active
  rw [demand_of_active active, demand_of_active otherActive, Option.some.injEq] at same
  exact trigger_congr same computed

end TimerRecord

/-- What a record asks of the engine, if there is one. -/
def demandOf (record : Option TimerRecord) : Option (Option TriggerShape) :=
  record.bind TimerRecord.demand

@[simp] theorem demandOf_none : demandOf none = none := rfl

@[simp] theorem demandOf_some (record : TimerRecord) : demandOf (some record) = record.demand := rfl

/-- Only an active record asks for a job. -/
theorem exists_active_of_demandOf {record : Option TimerRecord} (asked : demandOf record ≠ none) :
    ∃ active, record = some active ∧ active.isActive = true := by
  cases record with
  | none => simp at asked
  | some active =>
    refine ⟨active, rfl, ?_⟩
    by_contra inactive
    exact asked (TimerRecord.demand_of_inactive (by simpa using inactive))

theorem demandOf_ne_none_of_active {record : TimerRecord} (active : record.isActive = true) :
    demandOf (some record) ≠ none := by
  simp [TimerRecord.demand_of_active active]

/-- The job under an id once the engine has been brought in line with the next version of the record
there. A registration does not touch a job that is there already, and a job that gets another
trigger keeps its data. -/
def settle (ctx : Context) (id : Uuid) (old new : Option TimerRecord) (job : Option Job) :
    Option Job :=
  if demandOf old = demandOf new then job
  else match new.filter (·.isActive) with
    | none => none
    | some record => match record.trigger, job with
      | .error _, job => job
      | .ok trigger, none => some ⟨trigger, Reconcile.jobData ctx record id⟩
      | .ok trigger, some job =>
        if (demandOf old).isSome then some { job with trigger } else some job

variable {ctx : Context} {id : Uuid} {old new : Option TimerRecord} {record : TimerRecord}
  {trigger : TriggerSpec} {job : Option Job}

theorem settle_of_demand_eq (same : demandOf old = demandOf new) :
    settle ctx id old new job = job :=
  if_pos same

/-- What becomes of a job depends on the version before only by its demand. -/
theorem settle_congr {other : Option TimerRecord} (same : demandOf old = demandOf other) :
    settle ctx id old new job = settle ctx id other new job := by
  simp [settle, same]

theorem settle_drop (before : demandOf old ≠ none) (dropped : demandOf new = none) :
    settle ctx id old new job = none := by
  unfold settle
  rw [if_neg (fun same => before (same.trans dropped))]
  cases new with
  | none => rfl
  | some record =>
    have inactive := TimerRecord.demand_eq_none_iff.mp dropped
    simp [Option.filter, inactive]

/-- It makes no difference whether the next version asks for nothing or there is none. -/
theorem settle_unasked (unasked : demandOf new = none) :
    settle ctx id old new job = settle ctx id old none job := by
  by_cases before : demandOf old = none
  · rw [settle_of_demand_eq (before.trans unasked.symm), settle_of_demand_eq before]
  · rw [settle_drop before unasked, settle_drop before demandOf_none]

theorem settle_register (differs : demandOf old ≠ record.demand) (active : record.isActive = true)
    (computed : record.trigger = .ok trigger) :
    settle ctx id old (some record) none = some ⟨trigger, Reconcile.jobData ctx record id⟩ := by
  simp [settle, differs, Option.filter, active, computed]

theorem settle_replace {held : Job} (before : demandOf old ≠ none)
    (differs : demandOf old ≠ record.demand) (active : record.isActive = true)
    (computed : record.trigger = .ok trigger) :
    settle ctx id old (some record) (some held) = some { held with trigger } := by
  have present : (demandOf old).isSome := Option.isSome_iff_ne_none.mpr before
  simp [settle, differs, Option.filter, active, computed, present]

/-- Where no job was asked for, a job that is there is left alone. -/
theorem settle_taken {held : Job} (before : demandOf old = none) :
    settle ctx id old new (some held) = some held := by
  unfold settle
  rw [before]
  split
  · rfl
  · rename_i differs
    cases new with
    | none => simp at differs
    | some record =>
      have active : record.isActive = true := by
        by_contra inactive
        exact differs (TimerRecord.demand_of_inactive (by simpa using inactive)).symm
      cases computed : record.trigger <;> simp [Option.filter, active, computed]

/-- Settling never alters for whom a job fires. -/
theorem data_of_settle {held left : Job} (settled : settle ctx id old new (some held) = some left) :
    left.data = held.data := by
  unfold settle at settled
  grind

/-- Where a settled job comes from: it is the job that was there, because nothing else is asked for
or because it was not asked for and is in the way, or it is registered, or it has got another
trigger. -/
theorem settle_inv {left : Job} (schedulable : ∀ record, new = some record → record.Schedulable)
    (settled : settle ctx id old new job = some left) :
    job = some left ∧ demandOf old = demandOf new ∨
      ∃ record trigger, new = some record ∧ record.isActive = true ∧ record.trigger = .ok trigger ∧
        (job = some left ∧ demandOf old = none ∨
          job = none ∧ left = ⟨trigger, Reconcile.jobData ctx record id⟩ ∨
          ∃ earlier, job = some earlier ∧ demandOf old ≠ none ∧
            left = { earlier with trigger }) := by
  by_cases same : demandOf old = demandOf new
  · rw [settle_of_demand_eq same] at settled
    exact .inl ⟨settled, same⟩
  · by_cases dropped : demandOf new = none
    · rw [settle_drop (fun unasked => same (unasked.trans dropped.symm)) dropped] at settled
      simp at settled
    · obtain ⟨record, rfl, active⟩ := exists_active_of_demandOf dropped
      obtain ⟨trigger, computed⟩ := (schedulable record rfl).exists_trigger active
      refine .inr ⟨record, trigger, rfl, active, computed, ?_⟩
      cases job with
      | none =>
        rw [settle_register same active computed, Option.some.injEq] at settled
        exact .inr (.inl ⟨rfl, settled.symm⟩)
      | some earlier =>
        by_cases unasked : demandOf old = none
        · rw [settle_taken unasked] at settled
          exact .inl ⟨settled, unasked⟩
        · rw [settle_replace unasked same active computed, Option.some.injEq] at settled
          exact .inr (.inr ⟨earlier, rfl, unasked, settled.symm⟩)

/-- A record that asks for a job has one once the engine has been brought in line, if it had one
when it asked for the same before. -/
theorem isSome_settle (schedulable : record.Schedulable) (active : record.isActive = true)
    (held : demandOf old = record.demand → job.isSome) :
    (settle ctx id old (some record) job).isSome := by
  obtain ⟨trigger, computed⟩ := schedulable.exists_trigger active
  by_cases same : demandOf old = record.demand
  · rw [settle_of_demand_eq same]
    exact held same
  · cases job with
    | none => rw [settle_register same active computed, Option.isSome_some]
    | some earlier =>
      by_cases unasked : demandOf old = none
      · rw [settle_taken unasked, Option.isSome_some]
      · rw [settle_replace unasked same active computed, Option.isSome_some]

end Horarium
