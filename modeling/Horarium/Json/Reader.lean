/-
Module: Horarium.Json.Reader
Purpose: Reading typed values from drafts. A reader goes through a draft in document order and stops
  at the first fault: `malformed` where the text stops being JSON, `mismatch` where it is JSON but
  not what the type asks for.
Trusted boundary: human-reviewed definitions
Main exports: Json.Fault, Json.Reader, Json.Reader.text, Json.Reader.optional, Json.Field,
  Json.field, Json.Reader.record
-/
import Horarium.Json.Draft

/-!
A record may be spelled as an object, whose unknown members are passed over and whose known members
may occur once, or as an array that lists the fields in their order.
-/

namespace Horarium.Json

/-- Why a text is not a value of the expected type. -/
inductive Fault where
  | malformed
  | mismatch
deriving DecidableEq, Repr

/-- A reader of values of type `α`. -/
abbrev Reader (α : Type) : Type := Draft → Except Fault α

namespace Draft

/-- The fault of a value of the wrong kind. Texts and numbers are read before they are refused, so a
fault inside them comes first; containers are not entered. -/
def refusal : Draft → Fault
  | .broken => .malformed
  | .text none => .malformed
  | .natural n => if n < unboundedFrom then .mismatch else .malformed
  | .decimal d => if d.overflows then .malformed else .mismatch
  | _ => .mismatch

end Draft

namespace Reader

/-- A text. -/
def text : Reader String
  | .text (some s) => .ok s
  | draft => .error draft.refusal

/-- A truth value. -/
def bool : Reader Bool
  | .bool b => .ok b
  | draft => .error draft.refusal

/-- A number without sign, fraction and exponent, up to `limit`. -/
def natural (limit : Nat) : Reader Nat
  | .natural n => if n ≤ limit then .ok n else .error (Draft.natural n).refusal
  | draft => .error draft.refusal

/-- A text that `parse?` understands. -/
def parsed {α : Type} (parse? : String → Option α) : Reader α := fun draft => do
  match parse? (← text draft) with
  | some a => .ok a
  | none => .error .mismatch

/-- `null`, or a value. -/
def optional {α : Type} (reader : Reader α) : Reader (Option α)
  | .null => .ok none
  | draft => (reader draft).map some

/-- The values of a list of drafts, the first fault in their order. -/
def all {α : Type} (reader : Reader α) : List Draft → Except Fault (List α)
  | [] => .ok []
  | item :: rest => do
    let first ← reader item
    let others ← all reader rest
    .ok (first :: others)

/-- An array of values. -/
def list {α : Type} (reader : Reader α) : Reader (List α)
  | .array items => all reader items
  | draft => .error draft.refusal

/-- One of several names; the name may also be the only key of an object, with `null` for its value.
Where `emptyForNull` holds, the empty object passes for that `null`. -/
def variant {α : Type} (emptyForNull : Bool) (find? : String → Option α) : Reader α
  | .text (some name) => match find? name with
    | some a => .ok a
    | none => .error .mismatch
  | .object ((some name, payload) :: others) =>
    match find? name with
    | none => .error .mismatch
    | some a =>
      let isUnit := match payload with
        | .null => true
        | .object [] => emptyForNull
        | _ => false
      if !isUnit then .error payload.refusal
      else if others.isEmpty then .ok a else .error .malformed
  | _ => .error .malformed

/-- An object whose only key says how its value is to be read. -/
def tagged {α : Type} (find? : String → Option (Reader α)) : Reader α
  | .object ((some name, payload) :: others) =>
    match find? name with
    | none => .error .mismatch
    | some reader => do
      let a ← reader payload
      if others.isEmpty then .ok a else .error .malformed
  | .text (some _) => .error .mismatch
  | _ => .error .malformed

end Reader

/-- What it means for a record that a field is absent. A `required` field never is; an `optional`
one may be absent from an object but keeps its place in an array; a `defaulted` one may be absent
from either. -/
inductive Presence where
  | required
  | optional
  | defaulted
deriving DecidableEq, Repr

/-- A field of a record of type `α`: its key, and how its value enters the record. -/
structure Field (α : Type) where
  key : String
  presence : Presence
  put : Draft → α → Except Fault α

/-- The field that `reader` reads and `set` stores. -/
def field {α β : Type} (key : String) (presence : Presence) (reader : Reader β)
    (set : β → α → α) : Field α :=
  ⟨key, presence, fun draft record => (reader draft).map (set · record)⟩

namespace Reader

variable {α : Type}

/-- The record after the members of an object, with the keys that have been met. -/
def members (fields : List (Field α)) : List String → α → List (Option String × Draft) →
    Except Fault (List String × α)
  | met, record, [] => .ok (met, record)
  | _, _, (none, _) :: _ => .error .malformed
  | met, record, (some key, value) :: rest =>
    match fields.find? (·.key == key) with
    | none => if value.isWhole then members fields met record rest else .error .malformed
    | some f =>
      if met.contains key then .error .mismatch
      else do
        let record ← f.put value record
        members fields (key :: met) record rest

/-- The record after the items of an array, in the order of the fields. -/
def places : List (Field α) → α → List Draft → Except Fault α
  | [], record, [] => .ok record
  | [], _, _ :: _ => .error .malformed
  | f :: fields, record, [] =>
    if f.presence = .defaulted then places fields record [] else .error .mismatch
  | f :: fields, record, item :: items => do
    let record ← f.put item record
    places fields record items

/-- A record that starts as `blank` and receives its fields. -/
def record (fields : List (Field α)) (blank : α) : Reader α
  | .object entries => do
    let (met, result) ← members fields [] blank entries
    if fields.all fun f => f.presence != .required || met.contains f.key then .ok result
    else .error .mismatch
  | .array items => places fields blank items
  | draft => .error draft.refusal

/-- The value of a whole text. -/
def run (reader : Reader α) (text : String) : Except Fault α := do
  let document := Document.ofText text
  let value ← reader document.root
  if document.endsThere then .ok value else .error .malformed

end Reader

end Horarium.Json
