/-
Module: Horarium.Json.Token
Purpose: The tokens of JSON text. The division into tokens goes through the text character by
  character and never looks back: each state says what has been read of the token at hand. A
  character that can neither continue that token nor start another yields the token `junk`, after
  which nothing is read.
Trusted boundary: human-reviewed definitions
Main exports: Json.Token, Json.LexState, Json.tokens, Json.Decimal.overflows
-/
import Horarium.Text.Hex

namespace Horarium.Json

/-- A number as written: the sign, and the digits with the power of ten that scales them. -/
structure Decimal where
  negative : Bool
  significand : Nat
  exponent : Int
deriving DecidableEq, Repr

/-- The least natural number that no binary floating-point number of 64 bits can hold, because it
rounds beyond the largest of them. -/
def unboundedFrom : Nat := Nat.pow 2 1024 - Nat.pow 2 970

/-- Whether a number is too large for a floating-point number of 64 bits. A zero never is, whatever
its exponent; the second bound keeps the power that is computed small. -/
def Decimal.overflows (d : Decimal) : Bool :=
  if d.significand = 0 then false
  else if 400 ≤ d.exponent then true
  else if 0 ≤ d.exponent then unboundedFrom ≤ d.significand * Nat.pow 10 d.exponent.toNat
  else if d.exponent ≤ -((Text.decimal d.significand).length : Int) then false
  else unboundedFrom ≤ d.significand / Nat.pow 10 (-d.exponent).toNat

/-- A token. `natural` is a number without sign, fraction and exponent, `decimal` any other number;
`text none` is a text in which some escape stands for no character. -/
inductive Token where
  | openBrace
  | closeBrace
  | openBracket
  | closeBracket
  | comma
  | colon
  | null
  | bool (value : Bool)
  | natural (value : Nat)
  | decimal (value : Decimal)
  | text (value : Option String)
  | junk
deriving DecidableEq, Repr

/-- Where in the grammar of numbers the last character stood. -/
inductive NumberPart where
  | sign
  | zero
  | whole
  | point
  | fraction
  | mark
  | markSign
  | exponent
deriving DecidableEq, Repr

/-- A number of which some characters have been read. -/
structure PartialNumber where
  part : NumberPart
  negative : Bool
  significand : Nat
  places : Nat
  exponentNegative : Bool
  exponent : Nat
deriving DecidableEq, Repr

namespace PartialNumber

/-- The number that starts with a digit. -/
def ofDigit (negative : Bool) (d : Nat) : PartialNumber :=
  ⟨if d = 0 then .zero else .whole, negative, d, 0, false, 0⟩

/-- The number with one more character, if it can have it. A zero is not followed by digits. -/
def push? (n : PartialNumber) (c : Char) : Option PartialNumber :=
  match n.part, Text.digit? c with
  | .sign, some d => some (ofDigit true d)
  | .whole, some d => some { n with significand := 10 * n.significand + d }
  | .point, some d | .fraction, some d =>
    some { n with part := .fraction, significand := 10 * n.significand + d, places := n.places + 1 }
  | .mark, some d | .markSign, some d | .exponent, some d =>
    some { n with part := .exponent, exponent := 10 * n.exponent + d }
  | .zero, none | .whole, none =>
    if c = '.' then some { n with part := .point }
    else if c = 'e' ∨ c = 'E' then some { n with part := .mark }
    else none
  | .fraction, none => if c = 'e' ∨ c = 'E' then some { n with part := .mark } else none
  | .mark, none =>
    if c = '+' then some { n with part := .markSign }
    else if c = '-' then some { n with part := .markSign, exponentNegative := true }
    else none
  | _, _ => none

/-- The token of a number that ends here; a number cannot end on its sign, point or exponent
mark. -/
def token (n : PartialNumber) : Token :=
  match n.part with
  | .zero | .whole =>
    if n.negative then .decimal ⟨true, n.significand, 0⟩ else .natural n.significand
  | .fraction => .decimal ⟨n.negative, n.significand, -(n.places : Int)⟩
  | .exponent =>
    let power : Int := if n.exponentNegative then -(n.exponent : Int) else n.exponent
    .decimal ⟨n.negative, n.significand, power - n.places⟩
  | _ => .junk

end PartialNumber

/-- A text of which some characters have been read, the newest first. `lead` is the first half of a
surrogate pair that waits for its second half; `sound` is lost once an escape stands for no
character. -/
structure PartialText where
  chars : List Char
  lead : Option Nat
  sound : Bool
deriving DecidableEq, Repr

namespace PartialText

/-- The text before its first character. -/
def empty : PartialText := ⟨[], none, true⟩

/-- The text with a plain character; a waiting first half stays alone. -/
def push (t : PartialText) (c : Char) : PartialText :=
  ⟨c :: t.chars, none, t.sound && t.lead.isNone⟩

/-- The text with the sixteen-bit unit `n` of an escape. -/
def pushUnit (t : PartialText) (n : Nat) : PartialText :=
  match t.lead with
  | some lead =>
    if 0xDC00 ≤ n ∧ n ≤ 0xDFFF then
      ⟨Char.ofNat (0x10000 + (lead - 0xD800) * 0x400 + (n - 0xDC00)) :: t.chars, none, t.sound⟩
    else ⟨t.chars, none, false⟩
  | none =>
    if 0xD800 ≤ n ∧ n ≤ 0xDBFF then { t with lead := some n }
    else if 0xDC00 ≤ n ∧ n ≤ 0xDFFF then { t with sound := false }
    else t.push (Char.ofNat n)

/-- The token of a text that ends here. -/
def token (t : PartialText) : Token :=
  .text (if t.sound && t.lead.isNone then some (String.ofList t.chars.reverse) else none)

end PartialText

/-- What has been read of the token at hand. -/
inductive LexState where
  | between
  | word (rest : List Char) (token : Token)
  | number (read : PartialNumber)
  | text (read : PartialText)
  | escape (read : PartialText)
  | unicode (read : PartialText) (missing : Nat) (value : Nat)
  | stuck
deriving DecidableEq, Repr

/-- The character that a one-letter escape stands for. -/
def simpleEscape? (c : Char) : Option Char :=
  match c with
  | '"' => some '"'
  | '\\' => some '\\'
  | '/' => some '/'
  | 'b' => some (Char.ofNat 8)
  | 'f' => some (Char.ofNat 12)
  | 'n' => some '\n'
  | 'r' => some '\r'
  | 't' => some '\t'
  | _ => none

/-- The white space that may stand between tokens. -/
def isGap (c : Char) : Bool := c = ' ' || c = '\n' || c = '\t' || c = '\r'

/-- A character between two tokens. -/
def begin (c : Char) : List Token × LexState :=
  match c with
  | '{' => ([.openBrace], .between)
  | '}' => ([.closeBrace], .between)
  | '[' => ([.openBracket], .between)
  | ']' => ([.closeBracket], .between)
  | ',' => ([.comma], .between)
  | ':' => ([.colon], .between)
  | '"' => ([], .text .empty)
  | 't' => ([], .word ['r', 'u', 'e'] (.bool true))
  | 'f' => ([], .word ['a', 'l', 's', 'e'] (.bool false))
  | 'n' => ([], .word ['u', 'l', 'l'] .null)
  | '-' => ([], .number ⟨.sign, true, 0, 0, false, 0⟩)
  | _ =>
    if isGap c then ([], .between)
    else match Text.digit? c with
      | some d => ([], .number (.ofDigit false d))
      | none => ([.junk], .stuck)

/-- The tokens that a character completes, and what has been read after it. -/
def LexState.step : LexState → Char → List Token × LexState
  | .between, c => begin c
  | .word (expected :: rest) token, c =>
    if c = expected then
      if rest.isEmpty then ([token], .between) else ([], .word rest token)
    else ([.junk], .stuck)
  | .word [] token, c => let (out, next) := begin c; (token :: out, next)
  | .number read, c =>
    match read.push? c with
    | some more => ([], .number more)
    | none =>
      if read.token = .junk then ([.junk], .stuck)
      else let (out, next) := begin c; (read.token :: out, next)
  | .text read, c =>
    if c = '"' then ([read.token], .between)
    else if c = '\\' then ([], .escape read)
    else if c.toNat < 32 then ([.junk], .stuck)
    else ([], .text (read.push c))
  | .escape read, c =>
    if c = 'u' then ([], .unicode read 4 0)
    else match simpleEscape? c with
      | some meant => ([], .text (read.push meant))
      | none => ([.junk], .stuck)
  | .unicode read missing value, c =>
    match Text.hexDigit? c with
    | some d =>
      if missing ≤ 1 then ([], .text (read.pushUnit (16 * value + d)))
      else ([], .unicode read (missing - 1) (16 * value + d))
    | none => ([.junk], .stuck)
  | .stuck, _ => ([], .stuck)

/-- The token that the end of the text completes. -/
def LexState.finish : LexState → List Token
  | .between | .stuck => []
  | .number read => [read.token]
  | _ => [.junk]

/-- The tokens of a text of which the token at hand has been read as far as the state says. -/
def tokensFrom : LexState → List Char → List Token
  | state, [] => state.finish
  | state, c :: cs => let (out, next) := state.step c; out ++ tokensFrom next cs

/-- The tokens of a text. -/
def tokens (cs : List Char) : List Token := tokensFrom .between cs

end Horarium.Json
