/-
Module: Horarium.Calendar.Instant
Purpose: Instants of coordinated universal time, to the nanosecond, and their text in the manner of
  RFC 3339.
Trusted boundary: human-reviewed definitions
Main exports: Instant, Instant.before, Instant.shift, Instant.dateChars, Instant.clockChars,
  Instant.toText, Instant.parse?
-/
import Horarium.Calendar.Date
import Horarium.Text.Blank
import Horarium.Text.Numeral

/-!
Reading is liberal: the separator may be `T`, `t` or a blank, blanks may stand between the parts,
and the offset may be `Z`, `UTC` or hours and minutes with or without a colon. Writing is canonical:
the offset is `Z`, and the fraction has no digit, or three, six or nine, the fewest that hold it
exactly.
-/

namespace Horarium

/-- An instant: the day, the second of the day and the nanosecond. A leap second is the last second
of its minute with a nanosecond beyond one thousand million. -/
structure Instant where
  date : Date
  second : Nat
  nano : Nat
  isTime : second < 86400 ∧ (nano < 1000000000 ∨ (nano < 2000000000 ∧ second % 60 = 59))
deriving DecidableEq

namespace Instant

instance : Inhabited Instant := ⟨⟨default, 0, 0, by decide⟩⟩

/-- Seconds since the start of 1970, nanoseconds left out. -/
def seconds (t : Instant) : Int := t.date.dayNumber * 86400 + t.second

/-- The instant a time after the start of 1970. -/
def ofEpoch (seconds nano : Nat) : Instant where
  date := Nat.repeat Date.next (seconds / 86400) default
  second := seconds % 86400
  nano := nano % 1000000000
  isTime := ⟨Nat.mod_lt _ (by decide), .inl (Nat.mod_lt _ (by decide))⟩

/-- The earlier of two instants comes first. -/
def before (a b : Instant) : Bool :=
  a.date.before b.date
    || (a.date = b.date && (a.second < b.second || (a.second = b.second && a.nano < b.nano)))

/-- A day and second moved by less than a day. -/
def shift (date : Date) (second : Nat) (delta : Int) : Date × Nat :=
  let moved : Int := second + delta
  if moved < 0 then (date.prev, (moved + 86400).toNat)
  else if 86400 ≤ moved then (date.next, (moved - 86400).toNat)
  else (date, moved.toNat)

/-- The years that an instant can be read in. -/
def isYear (year : Int) : Bool := -262143 ≤ year && year ≤ 262142

/-- The instant that a clock shows as this day and second where it is ahead by `offset` seconds. -/
def ofLocal? (date : Date) (second nano : Nat) (offset : Int) : Option Instant :=
  let moved := shift date second (-offset)
  if h : moved.2 < 86400 ∧ (nano < 1000000000 ∨ (nano < 2000000000 ∧ moved.2 % 60 = 59)) then
    if isYear date.year && isYear moved.1.year then some ⟨moved.1, moved.2, nano, h⟩ else none
  else none

/-! ### Writing -/

/-- The digits of a year: four within the years 0 to 9999, else with a sign and at least four. -/
def yearChars (year : Int) : List Char :=
  let digits := Text.decimal year.natAbs
  let padded := List.replicate (4 - digits.length) '0' ++ digits
  if year < 0 then '-' :: padded else if 9999 < year then '+' :: padded else padded

/-- A date as year, month and day. -/
def dateChars (d : Date) : List Char :=
  yearChars d.year ++ '-' :: Text.fixedDigits 2 d.month ++ '-' :: Text.fixedDigits 2 d.day

/-- A second of the day as hour, minute and second; `extra` is one in a leap second. -/
def clockChars (second extra : Nat) : List Char :=
  Text.fixedDigits 2 (second / 3600) ++ ':' :: Text.fixedDigits 2 (second / 60 % 60)
    ++ ':' :: Text.fixedDigits 2 (second % 60 + extra)

/-- The fraction of a second with the fewest of 0, 3, 6 or 9 digits that hold it. -/
def fractionChars (nano : Nat) : List Char :=
  if nano = 0 then []
  else if nano % 1000000 = 0 then '.' :: Text.fixedDigits 3 (nano / 1000000)
  else if nano % 1000 = 0 then '.' :: Text.fixedDigits 6 (nano / 1000)
  else '.' :: Text.fixedDigits 9 nano

/-- The canonical text of an instant. -/
def chars (t : Instant) : List Char :=
  dateChars t.date ++ 'T' :: clockChars t.second (t.nano / 1000000000)
    ++ fractionChars (t.nano % 1000000000) ++ ['Z']

/-- The canonical text of an instant, as a string. -/
def toText (t : Instant) : String := String.ofList t.chars

/-! ### Reading -/

/-- The digits at the start of a text, at most `limit` of them, and what follows. -/
def takeDigits (limit : Nat) (cs : List Char) : List Char × List Char :=
  let digits := (cs.take limit).takeWhile fun c => (Text.digit? c).isSome
  (digits, cs.drop digits.length)

/-- A number of one to `limit` digits, blanks before it passed over. -/
def number? (limit : Nat) (cs : List Char) : Option (Nat × List Char) :=
  let (digits, rest) := takeDigits limit (Text.trimStart cs)
  if digits.isEmpty then none else (Text.readDigits? 0 digits).map (·, rest)

/-- A year: up to four digits, or a sign and any number of them. -/
def year? (cs : List Char) : Option (Int × List Char) :=
  match Text.trimStart cs with
  | '-' :: rest =>
    let (digits, after) := takeDigits rest.length rest
    if digits.isEmpty then none else (Text.readDigits? 0 digits).map fun n => (-(n : Int), after)
  | '+' :: rest =>
    let (digits, after) := takeDigits rest.length rest
    if digits.isEmpty then none else (Text.readDigits? 0 digits).map fun n => ((n : Int), after)
  | cs' => (number? 4 cs').map fun (n, after) => ((n : Int), after)

/-- What follows a mark, blanks before the mark passed over. -/
def mark? (mark : Char) (cs : List Char) : Option (List Char) :=
  match Text.trimStart cs with
  | c :: rest => if c = mark then some rest else none
  | [] => none

/-- A fraction of a second in nanoseconds, zero where there is none; digits beyond the ninth are
dropped. -/
def fraction? (cs : List Char) : Option (Nat × List Char) :=
  match cs with
  | '.' :: rest =>
    let (digits, after) := takeDigits 9 rest
    if digits.isEmpty then none
    else (Text.readDigits? 0 digits).map fun n =>
      (n * Nat.pow 10 (9 - digits.length), after.dropWhile fun c => (Text.digit? c).isSome)
  | _ => some (0, cs)

/-- An offset in seconds: `Z`, `UTC`, or a sign with two digits each for hours and minutes. -/
def offset? (cs : List Char) : Option (Int × List Char) :=
  match cs with
  | 'Z' :: rest | 'z' :: rest => some (0, rest)
  | sign :: h1 :: h2 :: rest =>
    if (cs.take 3).map Char.toUpper = ['U', 'T', 'C'] then some (0, cs.drop 3)
    else do
      let negative ← if sign = '+' then some false
        else if sign = '-' ∨ sign.toNat = 0x2212 then some true else none
      let tens ← Text.digit? h1
      let ones ← Text.digit? h2
      match rest.dropWhile fun c => c = ':' || Text.isBlank c with
      | m1 :: m2 :: after => do
        let minuteTens ← Text.digit? m1
        let minuteOnes ← Text.digit? m2
        if minuteTens < 6 then
          let seconds : Int := (tens * 10 + ones) * 3600 + (minuteTens * 10 + minuteOnes) * 60
          if seconds < 86400 then some (if negative then -seconds else seconds, after) else none
        else none
      | _ => none
  | _ => none

/-- The instant that a text denotes. Second 60 is the leap second after second 59. -/
def parse? (text : String) : Option Instant := do
  let (year, cs) ← year? text.toList
  let (month, cs) ← number? 2 (← mark? '-' cs)
  let (day, cs) ← number? 2 (← mark? '-' cs)
  let cs ← match cs with
    | 't' :: rest | 'T' :: rest | ' ' :: rest => some rest
    | _ => none
  let (hour, cs) ← number? 2 cs
  let (minute, cs) ← number? 2 (← mark? ':' cs)
  let (second, cs) ← number? 2 (← mark? ':' cs)
  let (nano, cs) ← fraction? cs
  let (offset, cs) ← offset? (Text.trimStart cs)
  let date ← Date.of? year month day
  if hour < 24 ∧ minute < 60 ∧ second ≤ 60 ∧ Text.isAllBlank cs then
    if second = 60 then ofLocal? date (hour * 3600 + minute * 60 + 59) (nano + 1000000000) offset
    else ofLocal? date (hour * 3600 + minute * 60 + second) nano offset
  else none

end Instant

end Horarium
