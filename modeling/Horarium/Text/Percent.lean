/-
Module: Horarium.Text.Percent
Purpose: Percent-encoding: a byte is written as a percent sign and two hexadecimal digits, so that
  characters which mean something in an address, or cannot stand in one, can be part of what it
  names.
Trusted boundary: human-reviewed definitions
Main exports: Text.percentEncode, Text.percentBytes, Text.percentDecode?
-/
import Horarium.Text.Hex

namespace Horarium.Text

/-- The bytes of a text in UTF-8. -/
def utf8 (cs : List Char) : List UInt8 := cs.flatMap String.utf8EncodeChar

/-- The text with these bytes, if they are the UTF-8 of one. -/
def ofUtf8? (bytes : List UInt8) : Option String := String.fromUTF8? ⟨bytes.toArray⟩

/-- How a byte is written. -/
def percentByte (b : UInt8) : List Char :=
  ['%', hexDigitUpper (b.toNat / 16), hexDigitUpper b.toNat]

/-- The text with every character that satisfies `reserved` written as its bytes. -/
def percentEncode (reserved : Char → Bool) (cs : List Char) : List Char :=
  cs.flatMap fun c =>
    if reserved c then (String.utf8EncodeChar c).flatMap percentByte else [c]

/-- The bytes that a text stands for. A percent sign without two hexadecimal digits stands for
itself. -/
def percentBytes : List Char → List UInt8
  | [] => []
  | '%' :: h :: l :: rest =>
    match hexDigit? h, hexDigit? l with
    | some high, some low => UInt8.ofNat (16 * high + low) :: percentBytes rest
    | _, _ => utf8 ['%'] ++ percentBytes (h :: l :: rest)
  | c :: rest => utf8 [c] ++ percentBytes rest

/-- What a text stands for, if that is a text. -/
def percentDecode? (cs : List Char) : Option String := ofUtf8? (percentBytes cs)

end Horarium.Text
