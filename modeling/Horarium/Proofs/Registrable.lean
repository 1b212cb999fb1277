/-
Module: Horarium.Proofs.Registrable
Purpose: Which records can be registered. The checks are spread over the routing entry, the module
  name and the trigger, and the delay of an interval is read and multiplied in each of the first and
  the last on its own. Together they ask for no more and no less than what is written down here.
Trusted boundary: none
Main exports: RoutingEntry.Declares, TimerRecord.Registrable, TimerRecord.registrable_iff
-/
import Horarium.Proofs.EngineForms
import Horarium.Proofs.PreparedRecord

namespace Horarium

/-- The module that a record belongs to. A module id that is not blank decides, so a name has to be
derivable from it; without one it is the module that the record names, and that name must not be
blank. -/
inductive TimerRecord.BelongsTo (record : TimerRecord) (name : String) : Prop where
  | identified (moduleId : String) (given : record.moduleId = some moduleId)
      (present : Text.isAllBlank moduleId.toList = false)
      (derived : ModuleName.ofId moduleId = .ok name)
  | named (unidentified : ∀ moduleId, record.moduleId = some moduleId →
      Text.isAllBlank moduleId.toList = true)
      (given : record.moduleName = some name) (present : Text.isAllBlank name.toList = false)

/-- An interval of `d` units: their number is read from the delay without the blanks around it, and
their product is a number of 64 bits that is zero or no less than a second. -/
structure Interval.Spans (interval : Interval) (d : Nat) : Prop where
  read : Text.readNat? Text.max64 (Text.trim interval.delay.toList) = some d
  fits : d * interval.unit.millis ≤ Nat.pow 2 64 - 1
  spaced : d * interval.unit.millis = 0 ∨ 1000 ≤ d * interval.unit.millis

/-- The zone of a schedule is known, and its expression stands for one of the engine's. -/
structure CronSchedule.Translates (schedule : CronSchedule) : Prop where
  zone : isZoneName schedule.zoneOrDefault = true
  cron : ∃ engine, Cron.toEngine schedule.cron = .ok engine

/-- At most one method, and one trigger of the two kinds. -/
structure RoutingEntry.Declares (entry : RoutingEntry) : Prop where
  methods : entry.methods.length ≤ 1
  trigger :
    (∃ interval d, entry.interval = some interval ∧ entry.schedule = none ∧ interval.Spans d) ∨
    ∃ schedule, entry.interval = none ∧ entry.schedule = some schedule ∧ schedule.Translates

/-- A record that can be registered. -/
structure TimerRecord.Registrable (record : TimerRecord) : Prop where
  kind : record.kind.isSome
  entry : ∃ entry, record.routingEntry = some entry ∧ entry.Declares
  belongs : ∃ name, record.BelongsTo name

/-! ### Module names -/

namespace ModuleName

theorem beforeVersion?_prefix {cs name : List Char} (found : beforeVersion? cs = some name) :
    name <+: cs := by
  induction cs generalizing name with
  | nil => simp [beforeVersion?] at found
  | cons c cs ih =>
    unfold beforeVersion? at found
    split at found
    · obtain rfl := Option.some.inj found
      exact List.nil_prefix
    · obtain ⟨inner, before, rfl⟩ := Option.map_eq_some_iff.mp found
      exact (List.prefix_cons_inj c).mpr (ih before)

/-- A name that is derived is not blank: it begins where the blanks before the id end. -/
theorem ofId_present {moduleId name : String} (derived : ofId moduleId = .ok name) :
    Text.isAllBlank name.toList = false := by
  unfold ofId at derived
  simp only at derived
  split at derived
  · simp at derived
  rename_i present
  obtain rfl := Except.ok.inj derived
  have leads : (beforeVersion? (Text.trim moduleId.toList)).getD (Text.trim moduleId.toList) <+:
      Text.trim moduleId.toList := by
    cases found : beforeVersion? (Text.trim moduleId.toList) with
    | none => exact List.prefix_rfl
    | some before => exact beforeVersion?_prefix found
  have begins := (Text.unpadded_trim moduleId.toList).begins
  generalize (beforeVersion? (Text.trim moduleId.toList)).getD (Text.trim moduleId.toList) = given
    at present leads
  obtain ⟨rest, whole⟩ := leads
  cases given with
  | nil => simp at present
  | cons c cs =>
    rw [← whole] at begins
    simp [Text.isAllBlank, begins c rfl]

end ModuleName

/-! ### Triggers -/

theorem TimeUnit.millis_pos (unit : TimeUnit) : 0 < unit.millis := by
  cases unit <;> decide

namespace Interval

variable {interval : Interval} {d m : Nat}

theorem millis_eq_ok_iff : interval.millis = .ok m ↔
    ∃ d, interval.delay? = some d ∧ d * interval.unit.millis ≤ Text.max64 ∧
      m = d * interval.unit.millis := by
  unfold millis delayValue
  cases interval.delay? with
  | none => simp [bind, Except.bind]
  | some d =>
    by_cases fits : d * interval.unit.millis ≤ Text.max64
    · simp [bind, Except.bind, fits, eq_comm]
    · simp [bind, Except.bind, fits]

/-- The routing entry lets pass the intervals that span some number of units. -/
theorem exists_spans_iff :
    (∃ m, interval.millis = .ok m ∧ ¬ (m ≠ 0 ∧ m < minIntervalMillis)) ↔ ∃ d, interval.Spans d := by
  constructor
  · rintro ⟨m, computed, spaced⟩
    obtain ⟨d, read, fits, rfl⟩ := millis_eq_ok_iff.mp computed
    refine ⟨d, read, fits, ?_⟩
    unfold minIntervalMillis at spaced
    omega
  · rintro ⟨d, read, fits, spaced⟩
    refine ⟨_, millis_eq_ok_iff.mpr ⟨d, read, fits, rfl⟩, ?_⟩
    unfold minIntervalMillis
    omega

/-- An interval is zero exactly if its length is. -/
theorem Spans.isZero_iff (spans : interval.Spans d) :
    interval.isZero = true ↔ d * interval.unit.millis = 0 := by
  have read : interval.delay? = some d := spans.read
  rw [isZero, read, beq_iff_eq, Option.some.injEq, Nat.mul_eq_zero]
  exact (or_iff_left interval.unit.millis_pos.ne').symm

/-- The trigger of an interval that is not zero has the length of the interval. -/
theorem Spans.trigger_eq (spans : interval.Spans d) (positive : interval.isZero = false) :
    interval.trigger = .ok (.interval (d * interval.unit.millis)) := by
  have read : interval.delay? = some d := spans.read
  have fits : ¬ Text.max64 < d * interval.unit.millis := Nat.not_lt.mpr spans.fits
  have nonzero : ¬ d * interval.unit.millis = 0 := by simp [← spans.isZero_iff, positive]
  have long : ¬ d * interval.unit.millis < minIntervalMillis :=
    Nat.not_lt.mpr (spans.spaced.resolve_left nonzero)
  unfold trigger
  simp only [read, fits, long, if_false]

end Interval

namespace CronSchedule

variable {schedule : CronSchedule}

theorem exists_trigger_iff : (∃ trigger, schedule.trigger = .ok trigger) ↔ schedule.Translates := by
  unfold trigger
  by_cases known : isZoneName schedule.zoneOrDefault = true
  · cases stands : Cron.toEngine schedule.cron with
    | error e =>
      refine iff_of_false (by simp [known]) ?_
      rintro ⟨_, engine, same⟩
      simp [stands] at same
    | ok engine => exact iff_of_true (by simp [known]) ⟨known, engine, stands⟩
  · refine iff_of_false (by simp [known]) ?_
    exact fun translates => known translates.zone

/-- A blank expression has no fields, so it stands for nothing. -/
theorem Translates.present (translates : schedule.Translates) :
    Text.isAllBlank schedule.cron.toList = false := by
  obtain ⟨engine, stands⟩ := translates.cron
  by_contra blank
  have wordless : ∀ text, Text.isAllBlank text = true → Text.words text = [] := by
    intro text blank
    induction text with
    | nil => rfl
    | cons c cs ih =>
      simp only [Text.isAllBlank, List.all_cons, Bool.and_eq_true] at blank
      rw [Text.words_cons_of_isBlank blank.1]
      exact ih blank.2
  have formed := (Cron.toEngine_eq_ok_iff.mp stands).1
  unfold Cron.engineForm at formed
  simp [wordless _ (by simpa using blank)] at formed

end CronSchedule

namespace RoutingEntry

variable {entry : RoutingEntry}

/-- The checks of an entry with an interval, and of its trigger unless the interval is zero. -/
theorem interval_declares_iff {interval : Interval} (few : entry.methods.length ≤ 1)
    (given : entry.interval = some interval) (alone : entry.schedule = none) :
    entry.validate = .ok ⟨⟩ ∧
    (entry.hasZeroInterval = false → ∃ trigger, entry.trigger = .ok trigger) ↔
      ∃ d, interval.Spans d := by
  have zero : entry.hasZeroInterval = interval.isZero := by
    rw [hasZeroInterval, given, Option.any_some]
  have computed : entry.trigger = interval.trigger := by simp only [trigger, given, alone]
  have checked : entry.validate = .ok ⟨⟩ ↔
      ∃ m, interval.millis = .ok m ∧ ¬ (m ≠ 0 ∧ m < minIntervalMillis) := by
    unfold validate
    simp only [if_neg (Nat.not_lt.mpr few), given, alone]
    cases interval.millis with
    | error e => simp [bind, Except.bind]
    | ok m =>
      simp only [bind, Except.bind, Except.ok.injEq, exists_eq_left']
      split <;> simp_all
  rw [zero, computed, checked, Interval.exists_spans_iff]
  refine ⟨And.left, fun spanning => ⟨spanning, fun positive => ?_⟩⟩
  obtain ⟨d, spans⟩ := spanning
  exact ⟨_, spans.trigger_eq positive⟩

/-- The checks of an entry with a schedule, and of its trigger. -/
theorem schedule_declares_iff {schedule : CronSchedule} (few : entry.methods.length ≤ 1)
    (alone : entry.interval = none) (given : entry.schedule = some schedule) :
    entry.validate = .ok ⟨⟩ ∧
    (entry.hasZeroInterval = false → ∃ trigger, entry.trigger = .ok trigger) ↔
      schedule.Translates := by
  have nonzero : entry.hasZeroInterval = false := by rw [hasZeroInterval, alone, Option.any_none]
  have computed : entry.trigger = schedule.trigger := by simp only [trigger, given, alone]
  have checked : entry.validate = .ok ⟨⟩ ↔ Text.isAllBlank schedule.cron.toList = false := by
    unfold validate
    rw [if_neg (Nat.not_lt.mpr few), given, alone]
    cases blank : Text.isAllBlank schedule.cron.toList <;> simp [blank]
  rw [nonzero, computed, checked, CronSchedule.exists_trigger_iff]
  constructor
  · rintro ⟨_, translates⟩
    exact translates rfl
  · intro translates
    exact ⟨translates.present, fun _ => translates⟩

/-- The checks of a routing entry and of its trigger let pass what declares one trigger as it
should. -/
theorem declares_iff :
    entry.validate = .ok ⟨⟩ ∧
    (entry.hasZeroInterval = false → ∃ trigger, entry.trigger = .ok trigger) ↔
      entry.Declares := by
  by_cases few : entry.methods.length ≤ 1
  swap
  · refine iff_of_false ?_ fun declares => few declares.methods
    rintro ⟨checked, _⟩
    simp [validate, Nat.not_le.mp few] at checked
  cases given : entry.interval with
  | some interval =>
    cases other : entry.schedule with
    | some schedule =>
      refine iff_of_false ?_ ?_
      · rintro ⟨checked, _⟩
        simp [validate, Nat.not_lt.mpr few, given, other] at checked
      · rintro ⟨_, ⟨_, _, _, alone, _⟩ | ⟨_, alone, _⟩⟩
        · simp [other] at alone
        · simp [given] at alone
    | none =>
      rw [interval_declares_iff few given other]
      constructor
      · rintro ⟨d, spans⟩
        exact ⟨few, .inl ⟨interval, d, given, other, spans⟩⟩
      · rintro ⟨_, ⟨_, d, same, _, spans⟩ | ⟨_, alone, _⟩⟩
        · obtain rfl := Option.some.inj (given.symm.trans same)
          exact ⟨d, spans⟩
        · simp [given] at alone
  | none =>
    cases other : entry.schedule with
    | some schedule =>
      rw [schedule_declares_iff few given other]
      constructor
      · intro translates
        exact ⟨few, .inr ⟨schedule, given, other, translates⟩⟩
      · rintro ⟨_, ⟨_, _, _, alone, _⟩ | ⟨_, _, same, translates⟩⟩
        · simp [other] at alone
        · obtain rfl := Option.some.inj (other.symm.trans same)
          exact translates
    | none =>
      refine iff_of_false ?_ ?_
      · rintro ⟨checked, _⟩
        simp [validate, Nat.not_lt.mpr few, given, other] at checked
      · rintro ⟨_, ⟨_, _, present, _⟩ | ⟨_, _, present, _⟩⟩
        · simp [given] at present
        · simp [other] at present

end RoutingEntry

namespace TimerRecord

variable {record named : TimerRecord}

theorem lacksModule_eq_false_iff :
    record.lacksModule = false ↔ ∃ name, record.moduleName = some name ∧
      Text.isAllBlank name.toList = false := by
  unfold lacksModule
  cases record.moduleName <;> simp

theorem withModuleName_self {name : String} (given : record.moduleName = some name) :
    { record with moduleName := some name } = record := by
  rw [← given]

/-- Without a module id that is not blank, the record keeps the module name that it has. -/
theorem resolveModuleName_unidentified
    (unidentified : ∀ moduleId, record.moduleId = some moduleId →
      Text.isAllBlank moduleId.toList = true) :
    record.resolveModuleName = .ok record := by
  rw [resolveModuleName_eq_self_iff]
  intro moduleId given present
  simp [unidentified moduleId given] at present

/-- With one, it gets the name that is derived from it. -/
theorem resolveModuleName_identified {moduleId : String} (given : record.moduleId = some moduleId)
    (present : Text.isAllBlank moduleId.toList = false) :
    record.resolveModuleName =
      (ModuleName.ofId moduleId).map fun name => { record with moduleName := some name } := by
  unfold resolveModuleName
  simp only [given, present, Bool.false_eq_true, if_false]
  cases ModuleName.ofId moduleId <;> rfl

/-- Deriving the module name leads to a record with a module exactly if the record belongs to one,
which then names it. -/
theorem belongsTo_iff :
    record.resolveModuleName = .ok named ∧ named.lacksModule = false ↔
      ∃ name, record.BelongsTo name ∧ named = { record with moduleName := some name } := by
  by_cases identified : ∃ moduleId, record.moduleId = some moduleId ∧
    Text.isAllBlank moduleId.toList = false
  · obtain ⟨moduleId, given, present⟩ := identified
    rw [resolveModuleName_identified given present]
    constructor
    · rintro ⟨resolved, _⟩
      cases derived : ModuleName.ofId moduleId with
      | error e => simp [derived, Except.map] at resolved
      | ok name =>
        rw [derived] at resolved
        exact ⟨name, .identified moduleId given present derived, (Except.ok.inj resolved).symm⟩
    · rintro ⟨name, ⟨other, same, _, derived⟩ | ⟨unidentified, _⟩, rfl⟩
      · obtain rfl := Option.some.inj (given.symm.trans same)
        rw [derived]
        exact ⟨rfl, lacksModule_eq_false_iff.mpr ⟨name, rfl, ModuleName.ofId_present derived⟩⟩
      · simp [unidentified moduleId given] at present
  · have unidentified : ∀ moduleId, record.moduleId = some moduleId →
        Text.isAllBlank moduleId.toList = true := by
      intro moduleId given
      by_contra present
      exact identified ⟨moduleId, given, by simpa using present⟩
    rw [resolveModuleName_unidentified unidentified]
    constructor
    · rintro ⟨same, hasModule⟩
      obtain rfl := Except.ok.inj same
      obtain ⟨name, given, present⟩ := lacksModule_eq_false_iff.mp hasModule
      exact ⟨name, .named unidentified given present, (withModuleName_self given).symm⟩
    · rintro ⟨name, ⟨moduleId, given, present, _⟩ | ⟨_, given, present⟩, rfl⟩
      · exact absurd ⟨moduleId, given, present⟩ identified
      · exact ⟨congrArg Except.ok (withModuleName_self given).symm,
          lacksModule_eq_false_iff.mpr ⟨name, rfl, present⟩⟩

/-- What comes out of the checks, for records that pass them. -/
theorem prepare_eq_ok_iff_registrable : record.prepare = .ok named ↔
    record.Registrable ∧ ∃ name, record.BelongsTo name ∧
      named = { record with moduleName := some name } := by
  rw [prepare_eq_ok_iff]
  constructor
  · rintro ⟨kind, entry, kindGiven, declared, valid, resolved, hasModule, computed⟩
    have belongs := belongsTo_iff.mp ⟨resolved, hasModule⟩
    refine ⟨⟨?_, ⟨entry, declared, RoutingEntry.declares_iff.mp ⟨valid, computed⟩⟩, ?_⟩, belongs⟩
    · rw [kindGiven, Option.isSome_some]
    · exact belongs.imp fun name => And.left
  · rintro ⟨⟨kindGiven, ⟨entry, declared, declares⟩, _⟩, belongs⟩
    obtain ⟨kind, kindGiven⟩ := Option.isSome_iff_exists.mp kindGiven
    obtain ⟨valid, computed⟩ := RoutingEntry.declares_iff.mpr declares
    obtain ⟨resolved, hasModule⟩ := belongsTo_iff.mpr belongs
    exact ⟨kind, entry, kindGiven, declared, valid, resolved, hasModule, computed⟩

/-- The trigger of an active record that can be registered. -/
theorem Registrable.trigger_of_active (registrable : record.Registrable)
    (active : record.isActive = true) :
    ∃ trigger, record.trigger = .ok trigger ∧
      ∀ entry interval, record.routingEntry = some entry → entry.interval = some interval →
        ∃ d, interval.Spans d ∧ trigger = .interval (d * interval.unit.millis) := by
  obtain ⟨entry, declared, declares⟩ := registrable.entry
  have positive : entry.hasZeroInterval = false := by
    unfold isActive at active
    simp only [declared, Bool.and_eq_true, Bool.not_eq_true'] at active
    exact active.2
  have computes : record.trigger = entry.trigger := by simp only [TimerRecord.trigger, declared]
  rw [computes, declared]
  rcases declares.trigger with ⟨interval, d, given, alone, spans⟩ | ⟨schedule, alone,
    given, translates⟩
  · have computed : entry.trigger = interval.trigger := by
      simp only [RoutingEntry.trigger, given, alone]
    have nonzero : interval.isZero = false := by
      rwa [RoutingEntry.hasZeroInterval, given, Option.any_some] at positive
    refine ⟨_, computed.trans (spans.trigger_eq nonzero), ?_⟩
    rintro _ _ ⟨⟩ same
    obtain rfl := Option.some.inj (given.symm.trans same)
    exact ⟨d, spans, rfl⟩
  · have computed : entry.trigger = schedule.trigger := by
      simp only [RoutingEntry.trigger, given, alone]
    obtain ⟨trigger, fires⟩ := CronSchedule.exists_trigger_iff.mpr translates
    refine ⟨trigger, computed.trans fires, ?_⟩
    rintro _ _ ⟨⟩ same
    simp [alone] at same

/-- A record passes the checks exactly if it can be registered. It comes out of them with the name
of its module and otherwise as it was; and if it is active its trigger can be computed, which is for
an interval the product of the delay and the unit. -/
theorem registrable_iff (record : TimerRecord) :
    ((∃ named, record.prepare = .ok named) ↔ record.Registrable) ∧
      ∀ named, record.prepare = .ok named →
        (∃ name, record.BelongsTo name ∧ named = { record with moduleName := some name }) ∧
        (named.isActive = true → ∃ trigger, named.trigger = .ok trigger ∧
          ∀ entry interval, named.routingEntry = some entry → entry.interval = some interval →
            ∃ d, interval.Spans d ∧ trigger = .interval (d * interval.unit.millis)) := by
  refine ⟨⟨?_, ?_⟩, ?_⟩
  · rintro ⟨named, prepared⟩
    exact (prepare_eq_ok_iff_registrable.mp prepared).1
  · intro registrable
    obtain ⟨name, belongs⟩ := registrable.belongs
    exact ⟨_, prepare_eq_ok_iff_registrable.mpr ⟨registrable, name, belongs, rfl⟩⟩
  · intro named prepared
    obtain ⟨_, belongs⟩ := prepare_eq_ok_iff_registrable.mp prepared
    have registrable := (prepare_eq_ok_iff_registrable.mp (prepare_idem prepared)).1
    exact ⟨belongs, registrable.trigger_of_active⟩

/-- A timer of a module that fires every 42 seconds, with a delay that is not written in the
shortest way. -/
def paddedDelay : TimerRecord :=
  ofModule "mod-a-1.2.3" ⟨[], some "/run", none, some ⟨" +0042\t", .second⟩, none⟩

theorem paddedDelay_registrable :
    paddedDelay.Registrable ∧ ∃ named, paddedDelay.prepare = .ok named ∧
    named.moduleName = some "mod-a" ∧ named.trigger = .ok (.interval 42000) := by
  have prepared : paddedDelay.prepare = .ok { paddedDelay with moduleName := some "mod-a" } := by
    decide +kernel
  have active : ({ paddedDelay with moduleName := some "mod-a" } : TimerRecord).isActive =
      true := by decide +kernel
  have number : Text.readNat? Text.max64 (Text.trim " +0042\t".toList) = some 42 := by
    decide +kernel
  have accepted := registrable_iff paddedDelay
  obtain ⟨trigger, computed, ofInterval⟩ := (accepted.2 _ prepared).2 active
  obtain ⟨d, spans, rfl⟩ := ofInterval _ _ rfl rfl
  obtain rfl : d = 42 := Option.some.inj (spans.read.symm.trans number)
  exact ⟨accepted.1.mp ⟨_, prepared⟩, _, prepared, rfl, computed⟩

end TimerRecord

end Horarium
