/-
Module: Horarium.Text.Numeral
Purpose: Decimal numerals: how a natural number is written, and how a text is read as one. Reading
  takes ASCII digits only, allows leading zeros and one leading plus sign, and refuses a value above
  a given limit.
Trusted boundary: human-reviewed definitions
Main exports: Text.digit?, Text.decimal, Text.readDigits?, Text.readNat?, Text.max16, Text.max32,
  Text.max64
-/

namespace Horarium.Text

/-- The digit that stands for `n` below ten. -/
def digit (n : Nat) : Char := Char.ofNat (48 + n % 10)

/-- What an ASCII digit stands for. -/
def digit? (c : Char) : Option Nat :=
  if '0' ≤ c ∧ c ≤ '9' then some (c.toNat - 48) else none

/-- The shortest decimal numeral of `n`. -/
def decimal (n : Nat) : List Char :=
  if n < 10 then [digit n] else decimal (n / 10) ++ [digit n]

/-- The last `width` decimal digits of `n`, with leading zeros where `n` has fewer. -/
def fixedDigits : Nat → Nat → List Char
  | 0, _ => []
  | width + 1, n => fixedDigits width (n / 10) ++ [digit n]

/-- The value of a run of digits that follows digits worth `value`. -/
def readDigits? (value : Nat) : List Char → Option Nat
  | [] => some value
  | c :: cs => (digit? c).bind fun d => readDigits? (10 * value + d) cs

/-- A natural number up to `limit`: at least one digit, after a plus sign or none. -/
def readNat? (limit : Nat) (cs : List Char) : Option Nat :=
  let digits := match cs with
    | '+' :: rest => rest
    | _ => cs
  if digits.isEmpty then none
  else (readDigits? 0 digits).filter (· ≤ limit)

/-- The largest number of 16 bits. -/
def max16 : Nat := Nat.pow 2 16 - 1

/-- The largest number of 32 bits. -/
def max32 : Nat := Nat.pow 2 32 - 1

/-- The largest number of 64 bits. -/
def max64 : Nat := Nat.pow 2 64 - 1

theorem digit?_digit (n : Nat) : digit? (digit n) = some (n % 10) := by
  have hlt : n % 10 < 10 := Nat.mod_lt _ (by decide)
  simp only [digit]
  generalize n % 10 = m at hlt
  match m, hlt with
  | 0, _ | 1, _ | 2, _ | 3, _ | 4, _ | 5, _ | 6, _ | 7, _ | 8, _ | 9, _ => decide

theorem readDigits?_append (value : Nat) (xs ys : List Char) :
    readDigits? value (xs ++ ys) = (readDigits? value xs).bind fun v => readDigits? v ys := by
  induction xs generalizing value with
  | nil => rfl
  | cons c cs ih =>
    simp only [List.cons_append, readDigits?]
    cases digit? c with
    | none => rfl
    | some d => simpa using ih _

/-- Reading a numeral gives back the number that was written. -/
theorem readDigits?_decimal (n : Nat) : readDigits? 0 (decimal n) = some n := by
  induction n using Nat.strongRecOn with
  | ind n ih =>
    rw [decimal]
    split
    · rename_i hlt
      simp [readDigits?, digit?_digit, Nat.mod_eq_of_lt hlt]
    · rw [readDigits?_append, ih (n / 10) (by omega)]
      simp only [Option.bind_some, readDigits?, digit?_digit]
      congr 1
      omega

end Horarium.Text
