/-
Module: Horarium.Cron.Field
Purpose: One field of an engine schedule: a list of items separated by commas, each of which admits
  some values of the field's range. The set of a field's values is kept as an ascending list.
Trusted boundary: human-reviewed definitions
Main exports: Cron.FieldRange, Cron.FieldRange.values?, Cron.FieldRange.all
-/
import Horarium.Text.Numeral

/-!
The grammar is read greedily from the left and is loose about blanks: numbers and names take the
blanks around them along, so `1 -5` is one range.
-/

namespace Horarium.Cron

/-- A field of a schedule: the range of its values, and the names that stand for some of them. -/
structure FieldRange where
  low : Nat
  high : Nat
  names : List (String × Nat)

namespace FieldRange

def second : FieldRange := ⟨0, 59, []⟩
def minute : FieldRange := ⟨0, 59, []⟩
def hour : FieldRange := ⟨0, 23, []⟩
def dayOfMonth : FieldRange := ⟨1, 31, []⟩

def month : FieldRange := ⟨1, 12,
  [("jan", 1), ("january", 1), ("feb", 2), ("february", 2), ("mar", 3), ("march", 3), ("apr", 4),
   ("april", 4), ("may", 5), ("jun", 6), ("june", 6), ("jul", 7), ("july", 7), ("aug", 8),
   ("august", 8), ("sep", 9), ("september", 9), ("oct", 10), ("october", 10), ("nov", 11),
   ("november", 11), ("dec", 12), ("december", 12)]⟩

/-- Days of the week, Sunday being 1. -/
def dayOfWeek : FieldRange := ⟨1, 7,
  [("sun", 1), ("sunday", 1), ("mon", 2), ("monday", 2), ("tue", 3), ("tues", 3), ("tuesday", 3),
   ("wed", 4), ("wednesday", 4), ("thu", 5), ("thurs", 5), ("thursday", 5), ("fri", 6),
   ("friday", 6), ("sat", 7), ("saturday", 7)]⟩

def year : FieldRange := ⟨1970, 2100, []⟩

/-- Every value of the field, ascending. -/
def all (u : FieldRange) : List Nat := List.range' u.low (u.high + 1 - u.low)

/-- The value that a name stands for, in any case. -/
def named? (u : FieldRange) (name : List Char) : Option Nat :=
  u.names.lookup (String.ofList (name.map Char.toLower))

end FieldRange

/-- What an item selects before its step is applied. -/
inductive Base where
  | all
  | single (value : Nat)
  | range (first last : Nat)
deriving DecidableEq, Repr

/-- An item of a field: every `step`-th value of its base, or all of them. A single value with a
step starts a range that ends with the field's range. -/
structure Item where
  base : Base
  step : Option Nat
deriving DecidableEq, Repr

namespace Item

/-- The first and the last value of the base. -/
def bounds (u : FieldRange) (item : Item) : Nat × Nat :=
  match item.base with
  | .all => (u.low, u.high)
  | .single n => (n, if item.step.isSome then u.high else n)
  | .range a b => (a, b)

/-- An item with values in the field's range, a range that does not run backwards, and a step
between one and the largest value. -/
def isValid (u : FieldRange) (item : Item) : Bool :=
  let stepFits := match item.step with
    | none => true
    | some s => 1 ≤ s && s ≤ u.high
  let baseFits := match item.base with
    | .all => true
    | .single n => u.low ≤ n && n ≤ u.high
    | .range a b => a ≤ b && u.low ≤ a && b ≤ u.high
  stepFits && baseFits

/-- Whether the item selects a value of the field. -/
def admits (u : FieldRange) (item : Item) (value : Nat) : Bool :=
  let (first, last) := item.bounds u
  first ≤ value && value ≤ last && (value - first) % item.step.getD 1 == 0

end Item

/-- The values that a list of items selects, ascending, if every item is valid. -/
def FieldRange.values? (u : FieldRange) (items : List Item) : Option (List Nat) :=
  if items.all (·.isValid u) then some (u.all.filter fun v => items.any (·.admits u v)) else none

/-! ### Reading -/

/-- The blanks that may surround numbers, names and fields. -/
def isGap (c : Char) : Bool := c = ' ' || c = '\t' || c = '\r' || c = '\n'

/-- The text without the blanks before it. -/
def skipGap (cs : List Char) : List Char := cs.dropWhile isGap

/-- The text without the blanks around it. -/
def trimGaps (cs : List Char) : List Char := (skipGap (skipGap cs).reverse).reverse

/-- A number of 32 bits with the blanks around it. -/
def number? (cs : List Char) : Option (Nat × List Char) :=
  let cs := skipGap cs
  let digits := cs.takeWhile fun c => (Text.digit? c).isSome
  if digits.isEmpty then none
  else (Text.readDigits? 0 digits).bind fun n =>
    if n ≤ Text.max32 then some (n, skipGap (cs.drop digits.length)) else none

/-- A run of ASCII letters with the blanks around it. -/
def name? (cs : List Char) : Option (List Char × List Char) :=
  let cs := skipGap cs
  let letters := cs.takeWhile Char.isAlpha
  if letters.isEmpty then none else some (letters, skipGap (cs.drop letters.length))

/-- The step of an item, if one follows. -/
def withStep (base : Base) (cs : List Char) : Item × List Char :=
  match cs with
  | '/' :: rest => match number? rest with
    | some (step, after) => (⟨base, some step⟩, after)
    | none => (⟨base, none⟩, cs)
  | _ => (⟨base, none⟩, cs)

/-- What follows a hyphen, if a hyphen is next. -/
def afterHyphen? (cs : List Char) : Option (List Char) :=
  match cs with
  | '-' :: rest => some rest
  | _ => none

/-- An item: `*`, a number, a range of numbers or a range of names, each with or without a step, or
a name alone. -/
def item? (u : FieldRange) (cs : List Char) : Option (Item × List Char) :=
  match cs with
  | '*' :: rest => some (withStep .all rest)
  | _ =>
    match number? cs with
    | some (first, rest) =>
      match (afterHyphen? rest).bind number? with
      | some (last, rest') => some (withStep (.range first last) rest')
      | none => some (withStep (.single first) rest)
    | none => do
      let (name, rest) ← name? cs
      let first ← u.named? name
      match (afterHyphen? rest).bind name? with
      | some (name', rest') => do
        let last ← u.named? name'
        return withStep (.range first last) rest'
      | none => return (⟨.single first, none⟩, rest)

/-- One more item after each comma, at most `budget` of them. -/
def moreItems (u : FieldRange) : Nat → List Char → Option (List Item × List Char)
  | 0, cs => some ([], cs)
  | budget + 1, cs =>
    match cs with
    | ',' :: rest => do
      let (item, rest) ← item? u rest
      let (items, rest) ← moreItems u budget rest
      return (item :: items, rest)
    | _ => some ([], cs)

/-- The items of a field, with the blanks around the field. -/
def items? (u : FieldRange) (cs : List Char) : Option (List Item × List Char) := do
  let (item, rest) ← item? u (skipGap cs)
  let (items, rest) ← moreItems u rest.length rest
  return (item :: items, skipGap rest)

/-- The values of the field at the start of a text. -/
def field? (u : FieldRange) (cs : List Char) : Option (List Nat × List Char) := do
  let (items, rest) ← items? u cs
  let values ← u.values? items
  return (values, rest)

end Horarium.Cron
