/-
Module: Horarium.Json.Lookup
Purpose: Looking into drafts without a type in mind: members of objects by their key, and values as
  the kind that they happen to have. A draft can also be written out again.
Trusted boundary: human-reviewed definitions
Main exports: Json.Draft.get?, Json.Draft.text?, Json.Draft.textMembers
-/
import Horarium.Json.Draft
import Horarium.Json.Value

namespace Horarium.Json.Draft

/-- The member under a key, the last one where there are several. -/
def get? (key : String) : Draft → Option Draft
  | .object members => (members.reverse.find? (·.1 == some key)).map (·.2)
  | _ => none

/-- The value as a text. -/
def text? : Draft → Option String
  | .text s => s
  | _ => none

/-- The value as a natural number. -/
def natural? : Draft → Option Nat
  | .natural n => some n
  | _ => none

/-- The value as a truth value. -/
def bool? : Draft → Option Bool
  | .bool b => some b
  | _ => none

/-- The items of an array; anything else has none. -/
def items : Draft → List Draft
  | .array items => items
  | _ => []

/-- The members of an object that have a key; anything else has none. -/
def members : Draft → List (String × Draft)
  | .object members => members.filterMap fun (key, value) => key.map (·, value)
  | _ => []

/-- The members whose values are texts. -/
def textMembers (d : Draft) : List (String × String) :=
  d.members.filterMap fun (key, value) => value.text?.map (key, ·)

mutual

/-- The text of a draft. Numbers that are not natural are written by their digits and the power of
ten that scales them; what is broken or stands for no text is left empty. -/
def print : Draft → List Char
  | .null => ['n', 'u', 'l', 'l']
  | .bool true => ['t', 'r', 'u', 'e']
  | .bool false => ['f', 'a', 'l', 's', 'e']
  | .natural n => Text.decimal n
  | .decimal d =>
    let sign (negative : Bool) : List Char := if negative then ['-'] else []
    sign d.negative ++ Text.decimal d.significand
      ++ 'e' :: (sign (d.exponent < 0) ++ Text.decimal d.exponent.natAbs)
  | .text s => quoted (s.getD "")
  | .array items => '[' :: printItems items ++ [']']
  | .object members => '\x7b' :: printMembers members ++ ['\x7d']
  | .broken => []

/-- Items with commas between them. -/
def printItems : List Draft → List Char
  | [] => []
  | [item] => print item
  | item :: rest => print item ++ ',' :: printItems rest

/-- Members with commas between them. -/
def printMembers : List (Option String × Draft) → List Char
  | [] => []
  | [(key, value)] => quoted (key.getD "") ++ ':' :: print value
  | (key, value) :: rest => quoted (key.getD "") ++ ':' :: print value ++ ',' :: printMembers rest

end

end Horarium.Json.Draft
