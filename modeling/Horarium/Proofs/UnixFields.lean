/-
Module: Horarium.Proofs.UnixFields
Purpose: Unix cron, by its own rules and without the engine: how the fields of an expression are
  spelled, and which values they select. A field is a list of parts between commas. A part is a
  star, a number, a range of numbers, a name or a range of names; stars and ranges of numbers may
  have a step.
Trusted boundary: none
Main exports: Cron.Numeral, Cron.UnixPart, Cron.UnixField.Spells, Cron.UnixSchedule,
  Cron.UnixSchedule.Spells
-/
import Horarium.Text.Blank
import Horarium.Text.Numeral
import Mathlib.Data.List.Forall2

namespace Horarium.Cron

/-- A field of Unix cron: the range of its values, and the names of three letters that stand for
some. -/
structure UnixField where
  low : Nat
  high : Nat
  names : List (String × Nat)

namespace UnixField

def minute : UnixField := ⟨0, 59, []⟩
def hour : UnixField := ⟨0, 23, []⟩
def dayOfMonth : UnixField := ⟨1, 31, []⟩

def month : UnixField := ⟨1, 12,
  [("jan", 1), ("feb", 2), ("mar", 3), ("apr", 4), ("may", 5), ("jun", 6), ("jul", 7), ("aug", 8),
   ("sep", 9), ("oct", 10), ("nov", 11), ("dec", 12)]⟩

/-- Sunday is both 0 and 7, by number and by name. -/
def weekday : UnixField := ⟨0, 7,
  [("sun", 0), ("mon", 1), ("tue", 2), ("wed", 3), ("thu", 4), ("fri", 5), ("sat", 6), ("sun", 7)]⟩

end UnixField

/-- A part of a field: every `step`-th value of the field, one value, or every `step`-th value of a
range. -/
inductive UnixPart where
  | all (step : Nat)
  | value (n : Nat)
  | range (first last step : Nat)
deriving DecidableEq, Repr

/-- Whether a part selects a value. -/
def UnixPart.Selects (field : UnixField) : UnixPart → Nat → Prop
  | .all step, v => field.low ≤ v ∧ v ≤ field.high ∧ step ∣ v - field.low
  | .value n, v => v = n
  | .range first last step, v => first ≤ v ∧ v ≤ last ∧ step ∣ v - first

instance (field : UnixField) (part : UnixPart) (v : Nat) : Decidable (part.Selects field v) := by
  unfold UnixPart.Selects
  cases part <;> infer_instance

/-- One or more digits that spell a number; zeros may stand in front. -/
def Numeral (n : Nat) (text : List Char) : Prop := text ≠ [] ∧ Text.readDigits? 0 text = some n

instance (n : Nat) (text : List Char) : Decidable (Numeral n text) := by
  unfold Numeral
  infer_instance

/-- The end of a part: nothing, or a slash and a step of at least one. -/
inductive StepSpelling : Nat → List Char → Prop where
  | absent : StepSpelling 1 []
  | present {step : Nat} {digits : List Char} (numeral : Numeral step digits)
      (positive : 1 ≤ step) : StepSpelling step ('/' :: digits)

namespace UnixField

/-- A name of the field, in capitals or small letters. -/
def Named (field : UnixField) (n : Nat) (text : List Char) : Prop :=
  (String.ofList (text.map Char.toLower), n) ∈ field.names

instance (field : UnixField) (n : Nat) (text : List Char) : Decidable (field.Named n text) :=
  inferInstanceAs (Decidable (_ ∈ _))

/-- How the parts of a field are spelled. -/
inductive Spells (field : UnixField) : UnixPart → List Char → Prop where
  | all {step : Nat} {tail : List Char} (stepped : StepSpelling step tail) :
      field.Spells (.all step) ('*' :: tail)
  | value {n : Nat} {digits : List Char} (numeral : Numeral n digits) (low : field.low ≤ n)
      (high : n ≤ field.high) : field.Spells (.value n) digits
  | name {n : Nat} {letters : List Char} (named : field.Named n letters) :
      field.Spells (.value n) letters
  | range {first last step : Nat} {digits digits' tail : List Char} (start : Numeral first digits)
      (stop : Numeral last digits') (low : field.low ≤ first) (order : first ≤ last)
      (high : last ≤ field.high) (stepped : StepSpelling step tail) :
      field.Spells (.range first last step) (digits ++ '-' :: (digits' ++ tail))
  | nameRange {first last : Nat} {letters letters' : List Char} (start : field.Named first letters)
      (stop : field.Named last letters') (order : first ≤ last) :
      field.Spells (.range first last 1) (letters ++ '-' :: letters')

/-- The field consists of these parts. -/
def Reads (field : UnixField) (parts : List UnixPart) (text : List Char) : Prop :=
  List.Forall₂ field.Spells parts (Text.splitOn ',' text)

/-- A day field may also be a question mark, which stands for any day. -/
def ReadsDay (field : UnixField) (parts : List UnixPart) (text : List Char) : Prop :=
  field.Reads parts text ∨ text = ['?'] ∧ parts = [.all 1]

/-- Whether one of the parts selects a value. -/
def Selects (field : UnixField) (parts : List UnixPart) (v : Nat) : Prop :=
  ∃ part ∈ parts, part.Selects field v

end UnixField

/-- An expression of Unix cron, by the parts of its five fields. -/
structure UnixSchedule where
  minutes : List UnixPart
  hours : List UnixPart
  daysOfMonth : List UnixPart
  months : List UnixPart
  weekdays : List UnixPart

/-- A text of five well-formed fields with white space between them. -/
inductive UnixSchedule.Spells (unix : UnixSchedule) (expression : String) : Prop where
  | fields {minute hour dayOfMonth month weekday : List Char}
      (words : Text.words expression.toList = [minute, hour, dayOfMonth, month, weekday])
      (minutes : UnixField.minute.Reads unix.minutes minute)
      (hours : UnixField.hour.Reads unix.hours hour)
      (daysOfMonth : UnixField.dayOfMonth.ReadsDay unix.daysOfMonth dayOfMonth)
      (months : UnixField.month.Reads unix.months month)
      (weekdays : UnixField.weekday.ReadsDay unix.weekdays weekday)

/-! ### The characters of a field -/

theorem isSome_digit?_of_readDigits? {value n : Nat} {digits : List Char}
    (read : Text.readDigits? value digits = some n) : ∀ c ∈ digits, (Text.digit? c).isSome := by
  induction digits generalizing value with
  | nil => simp
  | cons c digits ih =>
    obtain ⟨d, digit, rest⟩ := Option.bind_eq_some_iff.mp read
    intro other member
    rcases List.mem_cons.mp member with rfl | later
    · simp [digit]
    · exact ih rest other later

namespace Numeral

variable {n : Nat} {digits : List Char}

theorem isSome_digit? (numeral : Numeral n digits) : ∀ c ∈ digits, (Text.digit? c).isSome :=
  isSome_digit?_of_readDigits? numeral.2

theorem notMem (numeral : Numeral n digits) {c : Char} (other : Text.digit? c = none) :
    c ∉ digits := by
  intro member
  have digit := numeral.isSome_digit? c member
  simp [other] at digit

/-- The written form of a number is one of its numerals. -/
theorem decimal (n : Nat) : Numeral n (Text.decimal n) := by
  refine ⟨?_, Text.readDigits?_decimal n⟩
  rw [Text.decimal]
  split <;> simp

/-- A numeral is read as its number, where it is not too large. -/
theorem readNat? (numeral : Numeral n digits) {limit : Nat} (small : n ≤ limit) :
    Text.readNat? limit digits = some n := by
  have unsigned : '+' ∉ digits := numeral.notMem (by decide)
  obtain ⟨present, read⟩ := numeral
  unfold Text.readNat?
  split
  · simp at unsigned
  · simp [present, read, small]

end Numeral

end Horarium.Cron
