/-
Module: Horarium.Text.Hex
Purpose: Hexadecimal digits: written in lower case, read in either case.
Trusted boundary: human-reviewed definitions
Main exports: Text.hexDigit, Text.hexDigitUpper, Text.hexDigit?, Text.hexDigit?_hexDigit
-/
import Horarium.Text.Numeral

namespace Horarium.Text

/-- The lower-case hexadecimal digit that stands for `n` below sixteen. -/
def hexDigit (n : Nat) : Char :=
  if n % 16 < 10 then Char.ofNat (48 + n % 16) else Char.ofNat (87 + n % 16)

/-- The upper-case hexadecimal digit that stands for `n` below sixteen. -/
def hexDigitUpper (n : Nat) : Char :=
  if n % 16 < 10 then Char.ofNat (48 + n % 16) else Char.ofNat (55 + n % 16)

/-- What a hexadecimal digit of either case stands for. -/
def hexDigit? (c : Char) : Option Nat :=
  if '0' ≤ c ∧ c ≤ '9' then some (c.toNat - 48)
  else if 'a' ≤ c ∧ c ≤ 'f' then some (c.toNat - 87)
  else if 'A' ≤ c ∧ c ≤ 'F' then some (c.toNat - 55)
  else none

theorem hexDigit?_hexDigit (n : Nat) : hexDigit? (hexDigit n) = some (n % 16) := by
  have all : ∀ m : Fin 16,
      hexDigit? (if m.val < 10 then Char.ofNat (48 + m.val) else Char.ofNat (87 + m.val))
        = some m.val := by decide
  exact all ⟨n % 16, Nat.mod_lt _ (by decide)⟩

end Horarium.Text
