/-
Module: Horarium.Proofs.InstantText
Purpose: The canonical text of an instant in the years 0 to 9999 is read as that instant, leap
  seconds included.
Trusted boundary: none
Main exports: Instant.ofLocal?_zero, Instant.parse?_toText
-/
import Horarium.Calendar.Instant
import Mathlib.Algebra.Group.Nat.Defs

namespace Horarium.Text

theorem isBlank_digit (n : Nat) : isBlank (digit n) = false := by
  have all : ∀ m : Fin 10, isBlank (Char.ofNat (48 + m.val)) = false := by decide
  exact all ⟨n % 10, Nat.mod_lt _ (by decide)⟩

/-- The first of the last digits of a number. -/
theorem fixedDigits_succ (width n : Nat) :
    fixedDigits (width + 1) n = digit (n / 10 ^ width) :: fixedDigits width n := by
  induction width generalizing n with
  | zero => simp [fixedDigits]
  | succ width ih =>
    rw [fixedDigits, ih, fixedDigits, Nat.div_div_eq_div_mul, Nat.pow_succ', List.cons_append]

@[simp] theorem length_fixedDigits (width n : Nat) : (fixedDigits width n).length = width := by
  induction width generalizing n with
  | zero => rfl
  | succ width ih => simp [fixedDigits, ih]

theorem isSome_digit?_of_mem_fixedDigits {width n : Nat} {c : Char}
    (member : c ∈ fixedDigits width n) :
    (digit? c).isSome := by
  induction width generalizing n with
  | zero => simp [fixedDigits] at member
  | succ width ih =>
    rw [fixedDigits, List.mem_append, List.mem_singleton] at member
    rcases member with earlier | rfl
    · exact ih earlier
    · simp [digit?_digit]

theorem readDigits?_fixedDigits (width n : Nat) :
    readDigits? 0 (fixedDigits width n) = some (n % 10 ^ width) := by
  induction width generalizing n with
  | zero => simp [fixedDigits, readDigits?, Nat.mod_one]
  | succ width ih =>
    rw [fixedDigits, readDigits?_append, ih]
    simp only [Option.bind_some, readDigits?, digit?_digit]
    rw [Nat.pow_succ', Nat.mod_mul]
    congr 1
    omega

theorem fixedDigits_zero (width : Nat) : fixedDigits width 0 = List.replicate width '0' := by
  induction width with
  | zero => rfl
  | succ width ih => rw [fixedDigits_succ, Nat.zero_div, ih, List.replicate_succ]; rfl

/-- The numeral of a number that is not too long, filled up with zeros. -/
theorem replicate_append_decimal {width n : Nat} (bound : n < 10 ^ (width + 1)) :
    List.replicate (width + 1 - (decimal n).length) '0' ++ decimal n =
      fixedDigits (width + 1) n := by
  induction width generalizing n with
  | zero =>
    have small : n < 10 := by simpa using bound
    rw [decimal, if_pos small]
    simp [fixedDigits]
  | succ width ih =>
    rw [decimal, fixedDigits]
    split
    · rename_i small
      rw [Nat.div_eq_of_lt small, fixedDigits_zero]
      simp
    · have shorter : n / 10 < 10 ^ (width + 1) := by
        rw [Nat.pow_succ] at bound
        exact Nat.div_lt_of_lt_mul (by omega)
      rw [← ih shorter, List.length_append, List.length_singleton, Nat.add_sub_add_right,
        List.append_assoc]

theorem digit_ne {c : Char} (other : digit? c = none) (n : Nat) : digit n ≠ c := by
  rintro rfl
  simp [digit?_digit] at other

end Horarium.Text

namespace Horarium.Instant

/-! ### Numbers -/

theorem trimStart_digit (n : Nat) (rest : List Char) :
    Text.trimStart (Text.digit n :: rest) = Text.digit n :: rest := by
  simp [Text.trimStart, Text.isBlank_digit]

/-- Digits are taken as long as there are any and no more than the limit. -/
theorem takeDigits_append {limit : Nat} {digits rest : List Char}
    (all : ∀ c ∈ digits, (Text.digit? c).isSome) (fits : digits.length ≤ limit)
    (ends : (rest.take (limit - digits.length)).takeWhile (fun c => (Text.digit? c).isSome) = []) :
    takeDigits limit (digits ++ rest) = (digits, rest) := by
  have taken : ((digits ++ rest).take limit).takeWhile (fun c => (Text.digit? c).isSome) =
      digits := by
    rw [List.take_append, List.take_of_length_le fits, List.takeWhile_append_of_pos all, ends,
      List.append_nil]
  simp [takeDigits, taken]

theorem takeDigits_fixedDigits (width n : Nat) (rest : List Char) :
    takeDigits width (Text.fixedDigits width n ++ rest) = (Text.fixedDigits width n, rest) :=
  takeDigits_append (fun _ => Text.isSome_digit?_of_mem_fixedDigits) (by simp) (by simp)

/-- A number of as many digits as there may be is read to its last digit. -/
theorem number?_fixedDigits (width n : Nat) (rest : List Char) :
    number? (width + 1) (Text.fixedDigits (width + 1) n ++ rest) =
      some (n % 10 ^ (width + 1), rest) := by
  have solid : Text.trimStart (Text.fixedDigits (width + 1) n ++ rest) =
      Text.fixedDigits (width + 1) n ++ rest := by
    rw [Text.fixedDigits_succ, List.cons_append, trimStart_digit]
  have present : Text.fixedDigits (width + 1) n ≠ [] := by simp [Text.fixedDigits_succ]
  simp [number?, solid, takeDigits_fixedDigits, present, Text.readDigits?_fixedDigits]

theorem year?_fixedDigits (n : Nat) (rest : List Char) :
    year? (Text.fixedDigits 4 n ++ rest) = some (((n % 10 ^ 4 : Nat) : Int), rest) := by
  have minus := Text.digit_ne (c := '-') (by decide) (n / 10 ^ 3)
  have plus := Text.digit_ne (c := '+') (by decide) (n / 10 ^ 3)
  have read := number?_fixedDigits 3 n rest
  unfold year?
  rw [Text.fixedDigits_succ, List.cons_append] at read ⊢
  rw [trimStart_digit]
  split
  · rename_i signed
    exact absurd (List.cons.inj signed).1 minus
  · rename_i signed
    exact absurd (List.cons.inj signed).1 plus
  · rw [read]
    rfl

theorem mark?_cons {c : Char} (visible : Text.isBlank c = false) (rest : List Char) :
    mark? c (c :: rest) = some rest := by
  simp [mark?, Text.trimStart, visible]

theorem fraction?_fixedDigits (width : Nat) {n : Nat} (small : width + 1 ≤ 9)
    (bound : n < 10 ^ (width + 1)) :
    fraction? ('.' :: (Text.fixedDigits (width + 1) n ++ ['Z'])) =
      some (n * 10 ^ (9 - (width + 1)), ['Z']) := by
  have letter : Text.digit? 'Z' = none := by decide
  have ends : ∀ k, (['Z'].take k).takeWhile (fun c => (Text.digit? c).isSome) = [] := by
    intro k
    cases k <;> simp [letter]
  have taken :=
    takeDigits_append (fun _ => Text.isSome_digit?_of_mem_fixedDigits) (by simpa using small)
    (ends (9 - (Text.fixedDigits (width + 1) n).length))
  have present : Text.fixedDigits (width + 1) n ≠ [] := by simp [Text.fixedDigits_succ]
  simp [fraction?, taken, present, Text.readDigits?_fixedDigits, Nat.mod_eq_of_lt bound, letter]

/-- The fraction of a second is read from any of its written forms. -/
theorem fraction?_fractionChars {nano : Nat} (bound : nano < 1000000000) :
    fraction? (fractionChars nano ++ ['Z']) = some (nano, ['Z']) := by
  unfold fractionChars
  split
  · rename_i whole
    rw [whole]
    rfl
  split
  · rename_i millis
    rw [List.cons_append,
      fraction?_fixedDigits 2 (by decide) (show nano / 1000000 < 10 ^ 3 by omega)]
    exact congrArg (fun n => some (n, ['Z'])) (Nat.div_mul_cancel (Nat.dvd_of_mod_eq_zero millis))
  split
  · rename_i micros
    rw [List.cons_append, fraction?_fixedDigits 5 (by decide) (show nano / 1000 < 10 ^ 6 by omega)]
    exact congrArg (fun n => some (n, ['Z'])) (Nat.div_mul_cancel (Nat.dvd_of_mod_eq_zero micros))
  · rw [List.cons_append, fraction?_fixedDigits 8 (by decide) (show nano < 10 ^ 9 by omega)]
    simp

/-! ### Dates and times -/

theorem yearChars_of_four {year : Int} (first : 0 ≤ year) (last : year ≤ 9999) :
    yearChars year = Text.fixedDigits 4 year.natAbs := by
  have bound : year.natAbs < 10 ^ (3 + 1) := by omega
  rw [yearChars, if_neg (by omega), if_neg (by omega), Text.replicate_append_decimal bound]

theorem shift_zero {date : Date} {second : Nat} (inside : second < 86400) :
    shift date second 0 = (date, second) := by
  simp only [shift]
  rw [if_neg (by omega), if_neg (by omega)]
  simp

theorem ofLocal?_zero (t : Instant) (readable : isYear t.date.year = true) :
    ofLocal? t.date t.second t.nano 0 = some t := by
  simp [ofLocal?, shift_zero t.isTime.1, t.isTime, readable]

theorem of?_numbers (d : Date) : Date.of? d.year d.month d.day = some d := by
  simp [Date.of?, d.isDay]

/-- The canonical text is read as the instant. -/
theorem parse?_toText {t : Instant} (first : 0 ≤ t.date.year) (last : t.date.year ≤ 9999) :
    parse? t.toText = some t := by
  obtain ⟨monthFirst, monthLast, dayFirst, dayLast⟩ := t.date.isDay
  have dayBound := Nat.le_trans dayLast (daysInMonth_le t.date.year t.date.month)
  have secondBound := t.isTime.1
  have year : (((t.date.year.natAbs % 10 ^ 4 : Nat)) : Int) = t.date.year := by omega
  have month : t.date.month % 10 ^ 2 = t.date.month := by omega
  have day : t.date.day % 10 ^ 2 = t.date.day := by omega
  have hour : t.second / 3600 % 10 ^ 2 = t.second / 3600 := by omega
  have minute : t.second / 60 % 60 % 10 ^ 2 = t.second / 60 % 60 := by omega
  have hyphen := mark?_cons (c := '-') (by decide)
  have colon := mark?_cons (c := ':') (by decide)
  have given : ∀ {α β : Type} (a : α) (next : α → Option β), (some a >>= next) = next a :=
    fun _ _ => rfl
  unfold parse? toText chars dateChars clockChars
  simp only [String.toList_ofList, yearChars_of_four first last, List.append_assoc,
    List.cons_append, year?_fixedDigits, hyphen, colon, number?_fixedDigits 1, given, year, month,
    day, hour, minute, of?_numbers]
  have nano : t.nano % 1000000000 < 1000000000 := Nat.mod_lt _ (by decide)
  have offset : offset? (Text.trimStart ['Z']) = some (0, []) := rfl
  have ended : Text.isAllBlank [] = true := rfl
  have readable : isYear t.date.year = true := by
    simp only [isYear, Bool.and_eq_true, decide_eq_true_eq]
    omega
  simp only [fraction?_fractionChars nano, given, offset, ended, and_true]
  by_cases leap : 1000000000 ≤ t.nano
  · -- The leap second is written as the sixtieth, and read as the last one with its nanoseconds
    -- beyond.
    obtain ⟨sixtieth, lastSecond⟩ : t.nano < 2000000000 ∧ t.second % 60 = 59 := by
      have valid := t.isTime.2
      omega
    have shown : (t.second % 60 + t.nano / 1000000000) % 10 ^ (1 + 1) = 60 := by omega
    have second : t.second / 3600 * 3600 + t.second / 60 % 60 * 60 + 59 = t.second := by omega
    have beyond : t.nano % 1000000000 + 1000000000 = t.nano := by omega
    rw [shown, if_pos (by omega), if_pos rfl, second, beyond, ofLocal?_zero t readable]
  · have shown : (t.second % 60 + t.nano / 1000000000) % 10 ^ (1 + 1) = t.second % 60 := by omega
    have second : t.second / 3600 * 3600 + t.second / 60 % 60 * 60 + t.second % 60 = t.second := by
      omega
    have within : t.nano % 1000000000 = t.nano := by omega
    rw [shown, if_pos (by omega), if_neg (by omega), second, within, ofLocal?_zero t readable]

end Horarium.Instant
