/-
Module: Horarium.Uuid
Purpose: Universally unique identifiers: 32 hexadecimal digits. They are written in groups of 8, 4,
  4, 4 and 12 with hyphens between; reading takes either case, also without hyphens, within braces,
  and as a URN.
Trusted boundary: human-reviewed definitions
Main exports: Uuid, Uuid.ofBits, Uuid.hex, Uuid.chars, Uuid.toText, Uuid.parse?, Uuid.before
-/
import Horarium.Text.Blank
import Horarium.Text.Hex

namespace Horarium

/-- An identifier of 128 bits, as its hexadecimal digits from the left. -/
structure Uuid where
  digits : List (Fin 16)
  length_digits : digits.length = 32
deriving DecidableEq

namespace Uuid

/-- The identifier whose digits are all zero. -/
def nil : Uuid := ⟨List.replicate 32 0, by simp⟩

instance : Inhabited Uuid := ⟨nil⟩

/-- The identifier of version 4 that takes its other digits from a number. -/
def ofBits (bits : Nat) : Uuid where
  digits := (List.range 32).map fun i =>
    let digit : Fin 16 := Fin.ofNat 16 (bits / Nat.pow 16 i)
    if i = 12 then 4 else if i = 16 then 8 ||| digit % 4 else digit
  length_digits := by simp

/-- The digits as written, without hyphens. -/
def hex (u : Uuid) : List Char := u.digits.map fun d => Text.hexDigit d.val

/-- The written form: lower case, in hyphenated groups. -/
def chars (u : Uuid) : List Char :=
  let h := u.hex
  h.take 8 ++ '-' :: (h.drop 8).take 4 ++ '-' :: (h.drop 12).take 4 ++ '-' :: (h.drop 16).take 4
    ++ '-' :: h.drop 20

/-- The written form as a string. -/
def toText (u : Uuid) : String := String.ofList u.chars

/-- The digit that a character stands for. -/
def digitOf? (c : Char) : Option (Fin 16) :=
  (Text.hexDigit? c).bind fun n => if h : n < 16 then some ⟨n, h⟩ else none

/-- An identifier from exactly 32 hexadecimal digits. -/
def ofHex? (cs : List Char) : Option Uuid :=
  (cs.mapM digitOf?).bind fun digits =>
    if h : digits.length = 32 then some ⟨digits, h⟩ else none

/-- An identifier from digits in groups of 8, 4, 4, 4 and 12. -/
def ofGroups? (cs : List Char) : Option Uuid :=
  if (Text.splitOn '-' cs).map List.length = [8, 4, 4, 4, 12] then
    ofHex? (Text.splitOn '-' cs).flatten
  else none

/-- The name space that an identifier may be written with, in capitals or in small letters. -/
def urn : List Char := "urn:uuid:".toList

/-- The grouped form inside braces or behind the name space, if it stands so. -/
def unwrap (cs : List Char) : List Char :=
  if cs.head? = some '\x7b' ∧ cs.getLast? = some '\x7d' ∧ cs.length = 38 then cs.tail.dropLast
  else if cs.take 9 = urn ∨ cs.take 9 = urn.map Char.toUpper then cs.drop 9
  else cs

/-- The identifier that a text is a spelling of. -/
def parse? (text : String) : Option Uuid :=
  let cs := text.toList
  if cs.length = 32 then ofHex? cs else ofGroups? (unwrap cs)

/-- Identifiers in the order of the numbers they are. -/
def before (a b : Uuid) : Bool := a.digits < b.digits

end Uuid

end Horarium
