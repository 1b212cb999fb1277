/-
Module: Horarium.Proofs.DayRule
Purpose: On which dates a translated expression fires. Unix cron fires on the days that one of its
  two day fields matches, where both of them restrict the days; the engine wants every field to
  match. The translation keeps both fields, so on the dates of which exactly one of them holds it
  does not follow the rule, and on all others it does.
Trusted boundary: none
Main exports: Cron.UnixSchedule.admitsDate_iff_dayRule
-/
import Horarium.Cron.Fire
import Horarium.Proofs.UnixTranslation

namespace Horarium

theorem Date.weekday_lt (date : Date) : date.weekday < 7 := by
  unfold Date.weekday
  omega

namespace Cron

/-! ### The rule of Unix cron -/

/-- Whether a day field restricts the days: it does unless it is a star or a question mark. -/
def Restricts (word : List Char) : Prop := word ≠ ['*'] ∧ word ≠ ['?']

instance (word : List Char) : Decidable (Restricts word) := inferInstanceAs (Decidable (_ ∧ _))

namespace UnixSchedule

def MatchesMonth (unix : UnixSchedule) (date : Date) : Prop :=
  UnixField.month.Selects unix.months date.month

def MatchesDay (unix : UnixSchedule) (date : Date) : Prop :=
  UnixField.dayOfMonth.Selects unix.daysOfMonth date.day

/-- Whether the weekday field selects the weekday of a date; Sunday is both 0 and 7. -/
def MatchesWeekday (unix : UnixSchedule) (date : Date) : Prop :=
  ∃ d, UnixField.weekday.Selects unix.weekdays d ∧ d % 7 = date.weekday

/-- The rule for the two day fields: a date matches one of them if both restrict the days, else it
matches the one that does. -/
def DayRule (unix : UnixSchedule) (dayOfMonth weekday : List Char) (date : Date) : Prop :=
  if Restricts dayOfMonth ∧ Restricts weekday then unix.MatchesDay date ∨ unix.MatchesWeekday date
  else (Restricts dayOfMonth → unix.MatchesDay date) ∧
    (Restricts weekday → unix.MatchesWeekday date)

end UnixSchedule

/-! ### Fields that restrict nothing -/

/-- A star is spelled by no part but all values of the field. -/
theorem UnixField.Spells.star {field : UnixField}
    (letters : ∀ entry ∈ field.names, Letters entry.1.toList) {part : UnixPart} {text : List Char}
    (spells : field.Spells part text) (star : text = ['*']) :
    part = .all 1 := by
  have word : ∀ {n text}, field.Named n text → Letters text :=
    fun named => letters_of_lower rfl (letters _ named)
  cases spells with
  | all stepped =>
    obtain rfl := (List.cons.inj star).2
    cases stepped
    rfl
  | value numeral _ _ => exact absurd star numeral.ne_star
  | name named =>
    exact absurd ((star ▸ word named : Letters ['*']).2 '*' List.mem_cons_self) (by decide)
  | range _ _ _ _ _ _ | nameRange _ _ _ =>
    have hyphen : '-' ∈ ['*'] := star ▸ List.mem_append_right _ List.mem_cons_self
    simp at hyphen

/-- A field that restricts nothing selects every value in its range. -/
theorem UnixField.ReadsDay.selects {field : UnixField}
    (letters : ∀ entry ∈ field.names, Letters entry.1.toList) {parts : List UnixPart}
    {text : List Char} (reads : field.ReadsDay parts text) (free : ¬ Restricts text) {v : Nat}
    (low : field.low ≤ v) (high : v ≤ field.high) : field.Selects parts v := by
  have any : isAnyDay text = true := by
    unfold Restricts at free
    simp only [isAnyDay, Bool.or_eq_true, decide_eq_true_eq]
    tauto
  have starred := reads.starred letters
  rw [starred_of_isAnyDay any] at starred
  unfold UnixField.Reads at starred
  cases starred with
  | cons first _ =>
    obtain rfl := first.star letters rfl
    exact ⟨.all 1, List.mem_cons_self, low, high, Nat.one_dvd _⟩

/-! ### The dates of a translated expression -/

theorem map_folded_eq_self {parts : List UnixPart} (week : ∀ part ∈ parts, ¬ part.IsWholeWeek) :
    parts.map UnixPart.folded = parts :=
  (List.map_congr_left fun part member => UnixPart.folded_of_not_whole (week part member)).trans
    (List.map_id parts)

theorem mem_years_iff (y : Int) :
    (0 ≤ y ∧ y.toNat ∈ FieldRange.year.all) ↔ 1970 ≤ y ∧ y ≤ 2100 := by
  simp only [FieldRange.all, FieldRange.year, List.mem_range'_1]
  omega

namespace UnixSchedule

variable {unix : UnixSchedule} {expression engine : String}
  {minute hour dayOfMonth month weekday : List Char}

/-- The translation fires on the dates that match the month and both of the day fields. -/
theorem Spells.admitsDate_iff (spells : unix.Spells expression)
    (week : ∀ part ∈ unix.weekdays, ¬ part.IsWholeWeek)
    (translated : toEngine expression = .ok engine) :
    ∃ schedule, Schedule.parse engine = .ok schedule ∧ ∀ date : Date,
      schedule.admitsDate date = true ↔ (1970 ≤ date.year ∧ date.year ≤ 2100) ∧
        unix.MatchesMonth date ∧ unix.MatchesDay date ∧ unix.MatchesWeekday date := by
  obtain ⟨schedule, parsed, kept, weekdays⟩ := spells.translated translated
  rw [map_folded_eq_self week] at weekdays
  refine ⟨schedule, parsed, fun date => ?_⟩
  have sameDay : date.weekday + 1 ∈ schedule.daysOfWeek ↔ unix.MatchesWeekday date := by
    rw [weekdays]
    refine exists_congr fun d => and_congr_right fun _ => ?_
    unfold shiftDay
    omega
  simp only [Schedule.admitsDate, Bool.and_eq_true, decide_eq_true_eq, List.contains_iff_mem,
    kept.years, mem_years_iff, kept.months, kept.daysOfMonth, sameDay, and_assoc]
  rfl

/-- A date matches the day fields that restrict nothing. -/
theorem Spells.matches_of_free
    (words : Text.words expression.toList = [minute, hour, dayOfMonth, month, weekday])
    (spells : unix.Spells expression) (date : Date) :
    (¬ Restricts dayOfMonth → unix.MatchesDay date) ∧
    (¬ Restricts weekday → unix.MatchesWeekday date) := by
  obtain @⟨_, _, _, _, _, words', -, -, daysOfMonth, -, weekdays⟩ := spells
  obtain ⟨rfl, rfl, rfl, rfl, rfl⟩ : _ ∧ _ ∧ _ ∧ _ ∧ _ := by simpa using words'.symm.trans words
  refine ⟨fun free => ?_, fun free => ?_⟩
  · have inMonth := daysInMonth_le date.year date.month
    exact daysOfMonth.selects UnixField.fits_dayOfMonth.letters free date.isDay.2.2.1
      (date.isDay.2.2.2.trans inMonth)
  · have inWeek := date.weekday_lt
    exact ⟨date.weekday, weekdays.selects (by decide) free (Nat.zero_le _) inWeek.le,
      Nat.mod_eq_of_lt inWeek⟩

/-- The dates on which the translation fires, from 1970 to 2100, are those of the rule of Unix cron
but for the dates in a month of the expression that match exactly one of two day fields which both
restrict the days. -/
theorem admitsDate_iff_dayRule
    (words : Text.words expression.toList = [minute, hour, dayOfMonth, month, weekday])
    (spells : unix.Spells expression) (week : ∀ part ∈ unix.weekdays, ¬ part.IsWholeWeek)
    (translated : toEngine expression = .ok engine) :
    ∃ schedule, Schedule.parse engine = .ok schedule ∧ ∀ date : Date,
      (schedule.admitsDate date = true → 1970 ≤ date.year ∧ date.year ≤ 2100) ∧
      (1970 ≤ date.year → date.year ≤ 2100 →
        ((schedule.admitsDate date = true ↔ unix.MatchesMonth date ∧
          unix.DayRule dayOfMonth weekday date) ↔
          ¬ (Restricts dayOfMonth ∧ Restricts weekday ∧ unix.MatchesMonth date ∧
            ¬ (unix.MatchesDay date ↔ unix.MatchesWeekday date)))) := by
  obtain ⟨schedule, parsed, admits⟩ := spells.admitsDate_iff week translated
  refine ⟨schedule, parsed,
    fun date => ⟨fun fires => ((admits date).mp fires).1, fun since till => ?_⟩⟩
  obtain ⟨freeDay, freeWeekday⟩ := spells.matches_of_free words date
  rw [admits date, and_iff_right ⟨since, till⟩, DayRule]
  by_cases both : Restricts dayOfMonth ∧ Restricts weekday
  · -- Both fields have to match where one of them is enough.
    have either : (unix.MatchesDay date ∧ unix.MatchesWeekday date ↔
        unix.MatchesDay date ∨ unix.MatchesWeekday date) ↔
          (unix.MatchesDay date ↔ unix.MatchesWeekday date) := by
      tauto
    rw [if_pos both, and_congr_right_iff, either, ← and_assoc, and_iff_right both, not_and, not_not]
  · -- One of the fields matches every date, so that both match exactly if the other one does.
    have same : unix.MatchesDay date ∧ unix.MatchesWeekday date ↔
        (Restricts dayOfMonth → unix.MatchesDay date) ∧
        (Restricts weekday → unix.MatchesWeekday date) := by
      tauto
    rw [if_neg both, same]
    exact iff_of_true Iff.rfl fun differ => both ⟨differ.1, differ.2.1⟩

end UnixSchedule

/-- Midnight on the thirteenth and on Fridays. -/
def thirteenthOrFriday : UnixSchedule where
  minutes := [.value 0]
  hours := [.value 0]
  daysOfMonth := [.value 13]
  months := [.all 1]
  weekdays := [.value 5]

theorem words_thirteenthOrFriday :
    Text.words "0 0 13 * 5".toList = [['0'], ['0'], ['1', '3'], ['*'], ['5']] := by
  decide +kernel

theorem thirteenthOrFriday_spells : thirteenthOrFriday.Spells "0 0 13 * 5" := by
  have zero : UnixField.minute.Spells (.value 0) ['0'] ∧ UnixField.hour.Spells (.value 0) ['0'] :=
    ⟨.value (by decide) (by decide) (by decide), .value (by decide) (by decide) (by decide)⟩
  have thirteenth : UnixField.dayOfMonth.Spells (.value 13) ['1', '3'] :=
    .value (by decide) (by decide) (by decide)
  have friday : UnixField.weekday.Spells (.value 5) ['5'] :=
    .value (by decide) (by decide) (by decide)
  exact .fields words_thirteenthOrFriday (.cons zero.1 .nil) (.cons zero.2 .nil)
    (.inl (.cons thirteenth .nil)) (.cons (.all .absent) .nil) (.inl (.cons friday .nil))

/-- The translation keeps to the rule on Fridays the thirteenth, and on the days that are
neither. -/
theorem thirteenthOrFriday_dates :
    toEngine "0 0 13 * 5" = .ok "0 0 0 13 * 6 *" ∧
    ∃ schedule, Schedule.parse "0 0 0 13 * 6 *" = .ok schedule ∧
      ∀ date : Date, 1970 ≤ date.year → date.year ≤ 2100 →
        ((schedule.admitsDate date = true ↔ thirteenthOrFriday.MatchesMonth date ∧
            thirteenthOrFriday.DayRule ['1', '3'] ['5'] date) ↔
          ¬ (thirteenthOrFriday.MatchesMonth date ∧
            ¬ (thirteenthOrFriday.MatchesDay date ↔ thirteenthOrFriday.MatchesWeekday date))) := by
  have translated : toEngine "0 0 13 * 5" = .ok "0 0 0 13 * 6 *" := by decide +kernel
  have week : ∀ part ∈ thirteenthOrFriday.weekdays, ¬ part.IsWholeWeek := by
    simp [thirteenthOrFriday, UnixPart.IsWholeWeek]
  have restricted : Restricts ['1', '3'] ∧ Restricts ['5'] := by decide
  obtain ⟨schedule, parsed, dates⟩ :=
    UnixSchedule.admitsDate_iff_dayRule words_thirteenthOrFriday thirteenthOrFriday_spells
      week translated
  refine ⟨translated, schedule, parsed, fun date since till => ?_⟩
  simpa only [restricted, true_and] using (dates date).2 since till

/-- The first Friday of a month in which it is not the thirteenth. -/
def firstFriday : Date := ⟨2024, 1, 5, by decide⟩

/-- The translation does not fire on a Friday that is not the thirteenth, though Unix cron does. -/
theorem firstFriday_not_admitted :
    thirteenthOrFriday.Spells "0 0 13 * 5" ∧
    (∀ d, UnixField.weekday.Selects thirteenthOrFriday.weekdays d → d ≤ 6) ∧
    toEngine "0 0 13 * 5" = .ok "0 0 0 13 * 6 *" ∧
    ∃ schedule, Schedule.parse "0 0 0 13 * 6 *" = .ok schedule ∧
      schedule.admitsDate firstFriday = false ∧
      thirteenthOrFriday.MatchesMonth firstFriday ∧
      thirteenthOrFriday.DayRule ['1', '3'] ['5'] firstFriday := by
  have parsed : Schedule.parse "0 0 0 13 * 6 *" =
      .ok ⟨[0], [0], [0], [13], FieldRange.month.all, [6], FieldRange.year.all⟩ := by
    decide +kernel
  have friday : thirteenthOrFriday.MatchesWeekday firstFriday :=
    ⟨5, ⟨.value 5, List.mem_cons_self, rfl⟩, by decide⟩
  refine ⟨thirteenthOrFriday_spells, ?_, by decide +kernel, _, parsed, by decide +kernel, ?_, ?_⟩
  · rintro d ⟨part, member, selects⟩
    obtain rfl := List.mem_singleton.mp member
    obtain rfl : d = 5 := selects
    decide
  · exact ⟨.all 1, List.mem_cons_self, by decide, by decide, Nat.one_dvd _⟩
  · rw [UnixSchedule.DayRule, if_pos (by decide)]
    exact .inr friday

end Cron
end Horarium
