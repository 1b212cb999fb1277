/-
Module: Horarium.Proofs.RecordOrder
Purpose: The order of listings, told by numbers. Dates are in the order of their day numbers, so
  instants are in the order of time; identifiers are in the order of the numbers that they spell;
  and a record comes before another if it was created earlier, nothing being the earliest date, or
  at the same time under the smaller identifier.
Trusted boundary: none
Main exports: TimerRecord.place, TimerTable.before_iff, TimerRecord.id_of_place
-/
import Mathlib
import Horarium.Proofs.TimerTable

namespace Horarium

/-! ### Dates -/

namespace Date

variable {a b : Date}

/-- Days from a fixed day to the first of March of a year. -/
def daysToMarch (year : Int) : Int := 365 * year + year / 4 - year / 100 + year / 400

/-- Days from the first of March to the first of a month. -/
def daysFromMarch (month : Nat) : Nat := (153 * ((month + 9) % 12) + 2) / 5

/-- The year of the last first of March. -/
def yearFromMarch (d : Date) : Int := if d.month ≤ 2 then d.year - 1 else d.year

theorem dayNumber_eq (d : Date) :
    d.dayNumber = daysToMarch d.yearFromMarch + daysFromMarch d.month + d.day - 719469 := rfl

theorem daysToMarch_succ (year : Int) :
    daysToMarch (year + 1) = daysToMarch year + if isLeapYear (year + 1) then 366 else 365 := by
  have fourth : (year + 1) / 4 = year / 4 + if (year + 1) % 4 = 0 then 1 else 0 := by
    split <;> omega
  have century : (year + 1) / 100 = year / 100 + if (year + 1) % 100 = 0 then 1 else 0 := by
    split <;> omega
  have cycle : (year + 1) / 400 = year / 400 + if (year + 1) % 400 = 0 then 1 else 0 := by
    split <;> omega
  unfold daysToMarch isLeapYear
  rw [fourth, century, cycle]
  by_cases leap : (year + 1) % 4 = 0 <;> by_cases secular : (year + 1) % 100 = 0 <;>
    by_cases kept : (year + 1) % 400 = 0 <;> simp [leap, secular, kept] <;> omega

theorem daysToMarch_add_le (year : Int) (n : Nat) :
    daysToMarch year + 365 * n ≤ daysToMarch (year + n) := by
  induction n with
  | zero => simp
  | succ n ih =>
    have step := daysToMarch_succ (year + n)
    rw [Int.natCast_succ, ← Int.add_assoc]
    split at step <;> omega

/-- A month other than February is over before any later one of the year from March on. -/
theorem daysFromMarch_add_le : ∀ month < 13, ∀ later < 13, (month + 9) % 12 < (later + 9) % 12 →
    daysFromMarch month + (if month = 4 ∨ month = 6 ∨ month = 9 ∨ month = 11 then 30 else 31) ≤
      daysFromMarch later := by
  decide

/-- The year from March on has room for all of its days. -/
theorem daysFromMarch_add_day_le (d : Date) :
    (daysFromMarch d.month + d.day : Int) ≤
      daysToMarch (d.yearFromMarch + 1) - daysToMarch d.yearFromMarch := by
  have ⟨lowest, highest, _, last⟩ := d.isDay
  have length := daysToMarch_succ d.yearFromMarch
  unfold daysFromMarch
  by_cases february : d.month = 2
  · have ends : d.yearFromMarch + 1 = d.year := by simp [yearFromMarch, february]
    rw [ends] at length ⊢
    unfold daysInMonth at last
    rw [if_pos february] at last
    split at last <;> simp_all <;> omega
  · have atMost := daysInMonth_le d.year d.month
    split at length <;> omega

/-- Within the year from March on, months and days follow one another. -/
theorem daysFromMarch_lt (same : a.yearFromMarch = b.yearFromMarch) (first : a.before b = true) :
    daysFromMarch a.month + a.day < daysFromMarch b.month + b.day := by
  have ⟨lowestA, highestA, _, lastA⟩ := a.isDay
  have ⟨lowestB, highestB, firstB, _⟩ := b.isDay
  simp only [before, Bool.or_eq_true, Bool.and_eq_true, decide_eq_true_eq] at first
  unfold yearFromMarch at same
  by_cases month : a.month = b.month
  · rw [month] at same first ⊢
    split at same <;> omega
  · have onward : (a.month + 9) % 12 < (b.month + 9) % 12 := by
      split at same <;> split at same <;> omega
    have past := daysFromMarch_add_le a.month (by omega) b.month (by omega) onward
    -- the later month shows that the earlier one is not February, the last month of such a year
    unfold daysInMonth at lastA
    rw [if_neg (by omega)] at lastA
    omega

theorem dayNumber_lt_of_before (first : a.before b = true) : a.dayNumber < b.dayNumber := by
  rw [dayNumber_eq, dayNumber_eq]
  have lastA := daysFromMarch_add_day_le a
  have firstB := b.isDay.2.2.1
  rcases Int.lt_trichotomy a.yearFromMarch b.yearFromMarch with earlier | same | later
  · obtain ⟨n, years⟩ : ∃ n : Nat, b.yearFromMarch = a.yearFromMarch + 1 + n :=
      ⟨(b.yearFromMarch - (a.yearFromMarch + 1)).toNat, by omega⟩
    have onward := daysToMarch_add_le (a.yearFromMarch + 1) n
    rw [← years] at onward
    omega
  · have within := daysFromMarch_lt same first
    rw [same]
    omega
  · simp only [before, Bool.or_eq_true, Bool.and_eq_true, decide_eq_true_eq] at first
    unfold yearFromMarch at later
    split at later <;> split at later <;> omega

theorem before_trichotomy (a b : Date) : a.before b = true ∨ a = b ∨ b.before a = true := by
  obtain ⟨yearA, monthA, dayA, _⟩ := a
  obtain ⟨yearB, monthB, dayB, _⟩ := b
  simp only [before, Bool.or_eq_true, Bool.and_eq_true, decide_eq_true_eq, mk.injEq]
  omega

/-- The earlier of two dates is the one with the smaller day number. -/
theorem before_iff : a.before b = true ↔ a.dayNumber < b.dayNumber := by
  refine ⟨dayNumber_lt_of_before, fun less => ?_⟩
  obtain first | rfl | second := before_trichotomy a b
  · exact first
  · exact absurd less (lt_irrefl _)
  · exact absurd less (lt_asymm (dayNumber_lt_of_before second))

theorem dayNumber_inj : a.dayNumber = b.dayNumber ↔ a = b := by
  refine ⟨fun same => ?_, congrArg dayNumber⟩
  obtain first | equal | second := before_trichotomy a b
  · exact absurd same (dayNumber_lt_of_before first).ne
  · exact equal
  · exact absurd same (dayNumber_lt_of_before second).ne'

end Date

/-! ### Instants and identifiers -/

/-- When an instant is: the seconds since the start of 1970, and the nanoseconds beyond them. -/
def Instant.moment (t : Instant) : Int ×ₗ Nat := toLex (t.seconds, t.nano)

theorem Instant.before_iff {a b : Instant} : a.before b = true ↔ a.moment < b.moment := by
  have dayA := a.isTime.1
  have dayB := b.isTime.1
  simp only [before, Bool.or_eq_true, Bool.and_eq_true, decide_eq_true_eq, Date.before_iff,
    ← Date.dayNumber_inj, moment, Prod.Lex.toLex_lt_toLex, seconds]
  omega

/-- The number that an identifier is. -/
def Uuid.number (u : Uuid) : Nat := u.digits.foldl (fun n digit => 16 * n + digit.val) 0

/-- Digits that continue the spelling of two numbers decide between them where the numbers so far
are equal. -/
theorem foldl_digits_lt_iff {xs ys : List (Fin 16)} (same : xs.length = ys.length) (m n : Nat) :
    xs.foldl (fun n digit => 16 * n + digit.val) m <
      ys.foldl (fun n digit => 16 * n + digit.val) n ↔
      m < n ∨ m = n ∧ xs < ys := by
  induction xs generalizing ys m n with
  | nil =>
    obtain rfl := List.length_eq_zero_iff.mp same.symm
    simp
  | cons x xs ih =>
    obtain ⟨y, ys, rfl⟩ := List.exists_cons_of_length_eq_add_one same.symm
    rw [List.foldl_cons, List.foldl_cons, ih (by simpa using same), List.cons_lt_cons_iff,
      Fin.lt_def, Fin.ext_iff]
    by_cases less : xs < ys <;> simp only [less, and_true, and_false, or_false] <;> omega

theorem Uuid.before_iff {a b : Uuid} : a.before b = true ↔ a.number < b.number := by
  unfold before number
  rw [foldl_digits_lt_iff (a.length_digits.trans b.length_digits.symm)]
  simp

theorem Uuid.number_injective : Function.Injective number := by
  intro a b same
  have digits : a.digits = b.digits :=
    List.le_antisymm
      (List.not_lt.mp fun less => (before_iff.mp (decide_eq_true less)).ne same.symm)
      (List.not_lt.mp fun less => (before_iff.mp (decide_eq_true less)).ne same)
  cases a
  cases b
  simpa using digits

/-! ### Records -/

section Optional

variable {α β : Type} [Preorder β] {earlier : α → α → Bool} {f : α → β}

/-- The place of an optional value, nothing being in front of everything. -/
def rank (f : α → β) (a : Option α) : WithBot β := a.elim ⊥ fun a => (f a : WithBot β)

theorem TimerTable.optionBefore_iff (reads : ∀ a b, earlier a b = true ↔ f a < f b)
    (a b : Option α) :
    optionBefore earlier a b = true ↔ rank f a < rank f b := by
  cases a <;> cases b <;> simp [optionBefore, rank, reads]

end Optional

/-- The place of a record in listings: when it was created, and then which identifier it has. -/
def TimerRecord.place (record : TimerRecord) : WithBot (Int ×ₗ Nat) ×ₗ WithBot Nat :=
  toLex (rank Instant.moment record.createdDate, rank Uuid.number record.id)

theorem TimerTable.before_iff {a b : TimerRecord} : before a b = true ↔ a.place < b.place := by
  have dates := optionBefore_iff fun a b => @Instant.before_iff a b
  have ids := optionBefore_iff fun a b => @Uuid.before_iff a b
  unfold before TimerRecord.place
  rw [Prod.Lex.toLex_lt_toLex, Bool.or_eq_true, Bool.and_eq_true, Bool.not_eq_true',
    ← Bool.not_eq_true, dates, dates, ids, not_lt, le_iff_lt_or_eq]
  tauto

/-- Records in the same place have the same identifier. -/
theorem TimerRecord.id_of_place {a b : TimerRecord} (same : a.place = b.place) : a.id = b.id := by
  have ranks : rank Uuid.number a.id = rank Uuid.number b.id :=
    congrArg (fun place => (ofLex place).2) same
  cases first : a.id <;> cases second : b.id <;> simp [rank, first, second] at ranks ⊢
  exact Uuid.number_injective ranks

end Horarium
