/-
Module: Horarium.Proofs.TriggerShape
Purpose: Records of one trigger shape have one trigger, and an engine that checks triggers has a
  plan for every trigger that a record can have. The first is why an update of equal shape may leave
  the engine alone.
Trusted boundary: none
Main exports: TimerRecord.trigger_congr, TimerRecord.plan_of_trigger
-/
import Horarium.Engine.Local
import Horarium.Trigger
import Mathlib.Data.List.Induction

namespace Horarium
namespace Text

variable {c : Char} {cs : List Char}

theorem pieces_append_cut {cut : Char → Bool} (cuts : cut c = true) (cs : List Char) :
    pieces cut (cs ++ [c]) = pieces cut cs ++ [[]] := by
  induction cs with
  | nil => simp [pieces, cuts]
  | cons d cs ih =>
    simp only [List.cons_append, pieces, ih]
    split
    · rfl
    · cases split : pieces cut cs with
      | nil => exact absurd split (pieces_ne_nil cut cs)
      | cons piece rest => rfl

theorem words_cons_of_isBlank (blank : isBlank c = true) (cs : List Char) :
    words (c :: cs) = words cs := by
  simp [words, pieces, blank]

theorem words_concat_of_isBlank (blank : isBlank c = true) (cs : List Char) :
    words (cs ++ [c]) = words cs := by
  simp [words, pieces_append_cut blank]

theorem words_trimStart (cs : List Char) : words (trimStart cs) = words cs := by
  induction cs with
  | nil => rfl
  | cons c cs ih =>
    cases blank : isBlank c with
    | true =>
      rw [words_cons_of_isBlank blank, ← ih]
      simp [trimStart, blank]
    | false => simp [trimStart, blank]

theorem words_trimEnd (cs : List Char) : words (trimEnd cs) = words cs := by
  induction cs using List.reverseRecOn with
  | nil => rfl
  | append_singleton cs c ih =>
    cases blank : isBlank c with
    | true =>
      rw [words_concat_of_isBlank blank, ← ih]
      simp [trimEnd, blank]
    | false => simp [trimEnd, blank]

/-- Blanks at the ends of a text belong to none of its words. -/
theorem words_trim (cs : List Char) : words (trim cs) = words cs := by
  rw [trim, words_trimEnd, words_trimStart]

end Text

namespace Cron

/-- Expressions that differ in the blanks at their ends stand for the same engine expression. -/
theorem engineForm_congr {first second : List Char} (same : Text.trim first = Text.trim second) :
    engineForm first = engineForm second := by
  have words : Text.words first = Text.words second := by
    rw [← Text.words_trim first, same, Text.words_trim]
  unfold engineForm
  rw [words, same]

/-- What an expression stands for is accepted by the engine. -/
theorem parse_of_toEngine {expression engine : String}
    (stands : toEngine expression = .ok engine) :
    ∃ schedule, Schedule.parse engine = .ok schedule := by
  unfold toEngine at stands
  cases formed : engineForm expression.toList with
  | error reason => simp [formed] at stands
  | ok form =>
    cases parsed : Schedule.parse (String.ofList form) with
    | error e => simp [formed, parsed] at stands
    | ok schedule =>
      simp only [formed, parsed, Except.ok.injEq] at stands
      exact ⟨schedule, stands ▸ parsed⟩

theorem toEngine_congr {first second engine : String}
    (same : Text.trim first.toList = Text.trim second.toList)
    (stands : toEngine first = .ok engine) : toEngine second = .ok engine := by
  unfold toEngine at stands ⊢
  rw [← engineForm_congr same]
  cases formed : engineForm first.toList with
  | error reason => simp [formed] at stands
  | ok form =>
    cases parsed : Schedule.parse (String.ofList form) with
    | error e => simp [formed, parsed] at stands
    | ok schedule => simpa [formed, parsed] using stands

end Cron

theorem trimmed_eq_iff {first second : String} :
    trimmed first = trimmed second ↔ Text.trim first.toList = Text.trim second.toList := by
  unfold trimmed
  rw [String.ofList_inj]

theorem Interval.trigger_congr {first second : Interval}
    (delay : trimmed first.delay = trimmed second.delay) (unit : first.unit = second.unit)
    {trigger : TriggerSpec} (computed : first.trigger = .ok trigger) :
    second.trigger = .ok trigger := by
  have read : first.delay? = second.delay? := by
    unfold Interval.delay?
    rw [trimmed_eq_iff.mp delay]
  unfold Interval.trigger at computed ⊢
  rw [← read, ← unit]
  cases number : first.delay? with
  | none => simp [number] at computed
  | some n =>
    simp only [number] at computed ⊢
    split at computed
    · simp at computed
    · split at computed
      · simp at computed
      · rename_i small short
        rw [if_neg small, if_neg short]
        exact computed

theorem CronSchedule.trigger_congr {first second : CronSchedule}
    (cron : trimmed first.cron = trimmed second.cron)
    (zone : first.zoneOrDefault = second.zoneOrDefault)
    {trigger : TriggerSpec} (computed : first.trigger = .ok trigger) :
    second.trigger = .ok trigger := by
  unfold CronSchedule.trigger at computed ⊢
  simp only [← zone] at computed ⊢
  split at computed
  · cases stands : Cron.toEngine first.cron with
    | error e => simp [stands] at computed
    | ok engine =>
      simp only [stands] at computed
      rw [Cron.toEngine_congr (trimmed_eq_iff.mp cron) stands]
      rename_i known
      simpa [known] using computed
  · simp at computed


/-- Records that declare the same trigger have the same one. -/
theorem TimerRecord.trigger_congr {first second : TimerRecord} {trigger : TriggerSpec}
    (same : TriggerShape.of first = TriggerShape.of second)
    (computed : first.trigger = .ok trigger) : second.trigger = .ok trigger := by
  unfold TriggerShape.of at same
  unfold TimerRecord.trigger at computed ⊢
  cases entry : first.routingEntry with
  | none => simp [entry] at computed
  | some declared =>
    simp only [entry, RoutingEntry.trigger] at same computed
    cases other : second.routingEntry with
    | none => cases i : declared.interval <;> cases s : declared.schedule <;> simp_all
    | some redeclared =>
      simp only [other, RoutingEntry.trigger] at same ⊢
      cases i : declared.interval <;> cases s : declared.schedule <;>
        cases j : redeclared.interval <;> cases u : redeclared.schedule <;>
        simp only [i, s, j, u, Option.some.injEq, TriggerShape.interval.injEq,
          TriggerShape.cron.injEq, reduceCtorEq] at same computed ⊢
      · exact CronSchedule.trigger_congr same.1 same.2 computed
      · exact Interval.trigger_congr same.1 same.2 computed

theorem Interval.plan_of_trigger {interval : Interval} {trigger : TriggerSpec}
    (computed : interval.trigger = .ok trigger) (key : String) :
    ∃ plan, FirePlan.ofTrigger key trigger = .ok plan := by
  unfold Interval.trigger at computed
  cases number : interval.delay? with
  | none => simp [number] at computed
  | some n =>
    simp only [number] at computed
    split at computed
    · simp at computed
    · split at computed
      · simp at computed
      · rename_i short
        injection computed with computed
        have positive : n * interval.unit.millis ≠ 0 := by
          intro zero
          exact short (by simp [zero, minIntervalMillis])
        exact ⟨.every (n * interval.unit.millis),
          by simp [← computed, FirePlan.ofTrigger, positive]⟩

theorem CronSchedule.plan_of_trigger {schedule : CronSchedule} {trigger : TriggerSpec}
    (computed : schedule.trigger = .ok trigger) (key : String) :
    ∃ plan, FirePlan.ofTrigger key trigger = .ok plan := by
  unfold CronSchedule.trigger at computed
  simp only at computed
  split at computed
  · rename_i known
    obtain ⟨rule, found⟩ := Option.isSome_iff_exists.mp known
    cases stands : Cron.toEngine schedule.cron with
    | error e => simp [stands] at computed
    | ok engine =>
      obtain ⟨parsed, parses⟩ := Cron.parse_of_toEngine stands
      simp only [stands, Except.ok.injEq] at computed
      exact ⟨.cron parsed rule, by simp [← computed, FirePlan.ofTrigger, found, parses]⟩
  · simp at computed

/-- The local engine has a plan for every trigger that a record can have. -/
theorem TimerRecord.plan_of_trigger {record : TimerRecord} {trigger : TriggerSpec}
    (computed : record.trigger = .ok trigger) (key : String) :
    ∃ plan, FirePlan.ofTrigger key trigger = .ok plan := by
  unfold TimerRecord.trigger at computed
  cases entry : record.routingEntry with
  | none => simp [entry] at computed
  | some declared =>
    simp only [entry, RoutingEntry.trigger] at computed
    cases i : declared.interval <;> cases s : declared.schedule <;>
      simp only [i, s, reduceCtorEq] at computed
    · exact CronSchedule.plan_of_trigger computed key
    · exact Interval.plan_of_trigger computed key

end Horarium
