/-
Module: Horarium.Proofs.PreparedRecord
Purpose: What the registry knows of a record that has passed its checks: which timer it is, that its
  trigger can be computed, and that it would pass them again. None of this depends on the id, the
  flag or the metadata that a record is stored with.
Trusted boundary: none
Main exports: TimerRecord.Redeclares, TimerRecord.Restates, TimerRecord.schedulable_of_prepare,
  TimerRecord.prepare_idem
-/
import Horarium.Proofs.Settlement
import Horarium.Registry.Prepare

namespace Horarium

/-- What may be wrong with the trigger of a routing entry lies in what the entry says. -/
theorem RoutingEntry.isValidation_of_trigger {entry : RoutingEntry} {e : TriggerError}
    (refused : entry.trigger = .error e) : e.isValidation = true := by
  unfold RoutingEntry.trigger Interval.trigger CronSchedule.trigger at refused
  grind [TriggerError.isValidation]

namespace TimerRecord

/-- The records declare one timer; they may differ in id, flag and metadata. -/
structure Redeclares (record other : TimerRecord) : Prop where
  kind : record.kind = other.kind
  moduleName : record.moduleName = other.moduleName
  moduleId : record.moduleId = other.moduleId
  routingEntry : record.routingEntry = other.routingEntry

/-- The records describe the same timer; they may differ in id and metadata. -/
structure Restates (record other : TimerRecord) : Prop extends Redeclares record other where
  enabled : record.enabled = other.enabled

theorem Restates.demand {record other : TimerRecord} (restates : record.Restates other) :
    record.demand = other.demand :=
  demand_congr restates.enabled restates.routingEntry

variable {record other named : TimerRecord}

/-- Deriving the module name changes nothing but the module name. -/
theorem resolveModuleName_restates (resolved : record.resolveModuleName = .ok named) :
    named.kind = record.kind ∧ named.enabled = record.enabled ∧
      named.routingEntry = record.routingEntry ∧ named.id = record.id := by
  unfold resolveModuleName at resolved
  cases given : record.moduleId with
  | none =>
    simp only [given, Except.ok.injEq] at resolved
    subst resolved
    exact ⟨rfl, rfl, rfl, rfl⟩
  | some moduleId =>
    simp only [given] at resolved
    split at resolved
    · cases resolved
      exact ⟨rfl, rfl, rfl, rfl⟩
    · cases derived : ModuleName.ofId moduleId with
      | error e => simp [derived, bind, Except.bind] at resolved
      | ok name =>
        simp only [derived, bind, Except.bind, pure, Except.pure, Except.ok.injEq] at resolved
        subst resolved
        exact ⟨rfl, rfl, rfl, rfl⟩

/-- What a record has to have to pass the checks. -/
theorem prepare_eq_ok_iff : record.prepare = .ok named ↔
    ∃ kind entry, record.kind = some kind ∧ record.routingEntry = some entry ∧
      entry.validate = .ok ⟨⟩ ∧
      record.resolveModuleName = .ok named ∧ named.lacksModule = false ∧
      (entry.hasZeroInterval = false → ∃ trigger, entry.trigger = .ok trigger) := by
  unfold prepare
  cases record.kind with
  | none => simp
  | some kind =>
    cases record.routingEntry with
    | none => simp
    | some entry =>
      cases valid : entry.validate with
      | error e => simp [valid]
      | ok u =>
        cases resolved : record.resolveModuleName with
        | error e => simp [valid]
        | ok derived =>
          cases lacks : derived.lacksModule <;> cases zero : entry.hasZeroInterval <;>
            cases computed : entry.trigger <;> grind

/-- A record passes the checks only with a kind, a module name and, unless it repeats at an interval
of zero, a trigger. -/
theorem prepare_inv (prepared : record.prepare = .ok named) :
    ∃ kind entry, record.kind = some kind ∧ record.routingEntry = some entry ∧
      record.resolveModuleName = .ok named ∧ named.lacksModule = false ∧
      (entry.hasZeroInterval = false → ∃ trigger, entry.trigger = .ok trigger) := by
  obtain ⟨kind, entry, kindGiven, declared, _, rest⟩ := prepare_eq_ok_iff.mp prepared
  exact ⟨kind, entry, kindGiven, declared, rest⟩

/-- A record that is refused is refused for what it says. -/
theorem exists_validation_of_prepare {e : RegistryError} (refused : record.prepare = .error e) :
    ∃ cause, e = .validation cause := by
  unfold prepare at refused
  split at refused
  · exact ⟨_, (Except.error.inj refused).symm⟩
  · exact ⟨_, (Except.error.inj refused).symm⟩
  · rename_i kind entry _ _
    split at refused
    · exact ⟨_, (Except.error.inj refused).symm⟩
    · split at refused
      · exact ⟨_, (Except.error.inj refused).symm⟩
      · split at refused
        · exact ⟨_, (Except.error.inj refused).symm⟩
        · split at refused
          · simp at refused
          · split at refused
            · rename_i cause computed
              refine ⟨.trigger cause, ?_⟩
              rw [← Except.error.inj refused, RegistryError.ofTrigger,
                RoutingEntry.isValidation_of_trigger computed, if_pos rfl]
            · simp at refused

theorem schedulable_of_prepare (prepared : record.prepare = .ok named) : named.Schedulable := by
  obtain ⟨kind, entry, _, declared, resolved, _, computed⟩ := prepare_inv prepared
  intro other given positive
  have same : named.routingEntry = record.routingEntry :=
    (resolveModuleName_restates resolved).2.2.1
  rw [same, declared, Option.some.injEq] at given
  subst given
  exact computed positive

/-- A record that passes the checks has a natural key. -/
theorem exists_naturalKey_of_prepare (prepared : record.prepare = .ok named) :
    ∃ key, named.naturalKey = .ok key := by
  obtain ⟨kind, entry, kindGiven, _, resolved, hasModule, _⟩ := prepare_inv prepared
  have sameKind : named.kind = some kind := (resolveModuleName_restates resolved).1.trans kindGiven
  unfold lacksModule at hasModule
  cases moduleName : named.moduleName with
  | none => simp [moduleName] at hasModule
  | some name =>
    rw [moduleName, Option.all_some] at hasModule
    simp [naturalKey, Horarium.naturalKey, sameKind, moduleName, hasModule]

theorem id_of_prepare (prepared : record.prepare = .ok named) : named.id = record.id := by
  obtain ⟨_, _, _, _, resolved, _, _⟩ := prepare_inv prepared
  exact (resolveModuleName_restates resolved).2.2.2

/-- The timer that an entry declares for a module of this id and name. -/
def declaredBy (moduleId moduleName : String) (entry : RoutingEntry) : TimerRecord :=
  { ofModule moduleId entry with moduleName := some moduleName }

/-- A timer that a module declares keeps its entry and gets the name of the module. -/
theorem prepare_ofModule {moduleId : String} {entry : RoutingEntry}
    (prepared : (ofModule moduleId entry).prepare = .ok named) :
    ∃ name, ModuleName.ofId moduleId = .ok name ∧ named = declaredBy moduleId name entry := by
  obtain ⟨_, _, _, _, resolved, hasModule, _⟩ := prepare_inv prepared
  unfold resolveModuleName at resolved
  simp only [ofModule] at resolved
  split at resolved
  · -- Without a module id there is no module name, which the checks refuse.
    cases resolved
    simp [lacksModule, default] at hasModule
  · cases derived : ModuleName.ofId moduleId with
    | error e => simp [derived, bind, Except.bind] at resolved
    | ok name =>
      simp only [derived, bind, Except.bind, pure, Except.pure, Except.ok.injEq] at resolved
      exact ⟨name, rfl, resolved.symm⟩

/-- Deriving the module name changes nothing exactly if the record has the name that its module id
has. -/
theorem resolveModuleName_eq_self_iff : record.resolveModuleName = .ok record ↔
    ∀ moduleId, record.moduleId = some moduleId → Text.isAllBlank moduleId.toList = false →
      ∃ name, ModuleName.ofId moduleId = .ok name ∧ record.moduleName = some name := by
  obtain ⟨id, kind, moduleName, moduleId, enabled, routingEntry, metadata⟩ := record
  unfold resolveModuleName
  cases moduleId with
  | none => simp
  | some given =>
    cases blank : Text.isAllBlank given.toList with
    | true => simp [blank]
    | false =>
      cases derived : ModuleName.ofId given with
      | error e => simp [blank, derived, bind, Except.bind]
      | ok name =>
        simp only [blank, derived, bind, Except.bind, pure, Except.pure, Bool.false_eq_true,
          if_false, Except.ok.injEq, TimerRecord.mk.injEq, true_and, and_true, Option.some.injEq]
        constructor
        · rintro same _ rfl _
          exact ⟨name, derived, same.symm⟩
        · intro all
          obtain ⟨_, again, same⟩ := all given rfl blank
          rw [same, Except.ok.inj (derived.symm.trans again)]

/-- A module name that has been derived is derived again. -/
theorem resolveModuleName_idem (resolved : record.resolveModuleName = .ok named) :
    named.resolveModuleName = .ok named ∧ named.moduleId = record.moduleId := by
  rw [resolveModuleName_eq_self_iff]
  unfold resolveModuleName at resolved
  cases given : record.moduleId with
  | none =>
    rw [given] at resolved
    obtain rfl := Except.ok.inj resolved
    simp [given]
  | some moduleId =>
    simp only [given] at resolved
    cases blank : Text.isAllBlank moduleId.toList with
    | true =>
      rw [blank, if_pos rfl] at resolved
      obtain rfl := Except.ok.inj resolved
      simp [given, blank]
    | false =>
      rw [blank, if_neg (by simp)] at resolved
      cases derived : ModuleName.ofId moduleId with
      | error e => simp [derived, bind, Except.bind] at resolved
      | ok name =>
        simp only [derived, bind, Except.bind, pure, Except.pure, Except.ok.injEq] at resolved
        subst resolved
        simp [derived]

/-- What has passed the checks passes them again, and nothing is derived anew. -/
theorem prepare_idem (prepared : record.prepare = .ok named) : named.prepare = .ok named := by
  obtain ⟨kind, entry, kindGiven, declared, valid, resolved, hasModule, computed⟩ :=
    prepare_eq_ok_iff.mp prepared
  obtain ⟨sameKind, _, sameEntry, _⟩ := resolveModuleName_restates resolved
  exact prepare_eq_ok_iff.mpr ⟨kind, entry, sameKind.trans kindGiven,
    sameEntry.trans declared, valid, (resolveModuleName_idem resolved).1, hasModule, computed⟩

namespace Redeclares

variable (redeclares : record.Redeclares other)
include redeclares

theorem schedulable (schedulable : other.Schedulable) : record.Schedulable :=
  schedulable.of_routingEntry redeclares.routingEntry

theorem naturalKey : record.naturalKey = other.naturalKey := by
  unfold TimerRecord.naturalKey
  rw [redeclares.kind, redeclares.moduleName, redeclares.routingEntry]

/-- The checks do not look at id, flag and metadata. -/
theorem prepare (prepared : other.prepare = .ok other) : record.prepare = .ok record := by
  obtain ⟨kind, entry, kindGiven, declared, valid, resolved, hasModule, computed⟩ :=
    prepare_eq_ok_iff.mp prepared
  refine prepare_eq_ok_iff.mpr ⟨kind, entry, redeclares.kind.trans kindGiven,
    redeclares.routingEntry.trans declared, valid, ?_, ?_, computed⟩
  · rw [resolveModuleName_eq_self_iff, redeclares.moduleId, redeclares.moduleName]
    exact resolveModuleName_eq_self_iff.mp resolved
  · unfold lacksModule
    rw [redeclares.moduleName]
    exact hasModule

end Redeclares

/-- A timer of a module that fires every minute. -/
def minutely : TimerRecord :=
  .ofModule "mod-1.0.0" ⟨["POST"], none, some "/run", some ⟨"1", .minute⟩, none⟩

end TimerRecord

end Horarium
