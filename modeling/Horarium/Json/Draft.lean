/-
Module: Horarium.Json.Draft
Purpose: JSON text as it is met from the left. A draft is the value that a text spells, as far as
  the text is JSON: where it stops being so, the draft holds `broken`, and nothing after that place.
  Whoever reads a draft in document order therefore meets the first fault of the text first, be it a
  break or a value of the wrong kind.
Trusted boundary: human-reviewed definitions
Main exports: Json.Draft, Json.Document.ofText, Json.Draft.canHold, Json.toDraft
-/
import Horarium.Json.Token
import Horarium.Json.Value

/-!
Tokens are put together with an explicit stack of the containers that are still open, so the depth
of a text is no concern here.
-/

namespace Horarium.Json

/-- A value as spelled by a text that may break off. A text that no sequence of characters
corresponds to is `text none`, as value and as key. -/
inductive Draft where
  | null
  | bool (value : Bool)
  | natural (value : Nat)
  | decimal (value : Decimal)
  | text (value : Option String)
  | array (items : List Draft)
  | object (members : List (Option String × Draft))
  | broken
deriving Inhabited

/-- A whole text: its value, and whether nothing follows it. -/
structure Document where
  root : Draft
  endsThere : Bool

/-- A container that is still open, newest item first. -/
inductive Frame where
  | array (items : List Draft)
  | object (members : List (Option String × Draft)) (key : Option String)

/-- What the next token has to be. -/
inductive Want where
  | value
  | valueOrEnd
  | separator
  | key
  | keyOrEnd
  | colon
deriving DecidableEq

/-- What one token leads to. -/
inductive Move where
  | more (stack : List Frame) (want : Want)
  | finished (root : Draft)
  | stuck

/-- The innermost open container receives a value; without one the value is the whole. -/
def complete (value : Draft) : List Frame → Move
  | [] => .finished value
  | .array items :: outer => .more (.array (value :: items) :: outer) .separator
  | .object members key :: outer =>
    .more (.object ((key, value) :: members) none :: outer) .separator

/-- The whole when the text breaks off with the value `value` at the innermost place. -/
def close (value : Draft) : List Frame → Draft
  | [] => value
  | .array items :: outer => close (.array (value :: items).reverse) outer
  | .object members key :: outer => close (.object ((key, value) :: members).reverse) outer

/-- A token where a value is due. -/
def startValue (stack : List Frame) : Token → Move
  | .null => complete .null stack
  | .bool b => complete (.bool b) stack
  | .natural n => complete (.natural n) stack
  | .decimal d => complete (.decimal d) stack
  | .text s => complete (.text s) stack
  | .openBracket => .more (.array [] :: stack) .valueOrEnd
  | .openBrace => .more (.object [] none :: stack) .keyOrEnd
  | _ => .stuck

/-- One token. -/
def advance (stack : List Frame) (want : Want) (token : Token) : Move :=
  match want with
  | .value => startValue stack token
  | .valueOrEnd =>
    match token, stack with
    | .closeBracket, .array items :: outer => complete (.array items.reverse) outer
    | _, _ => startValue stack token
  | .separator =>
    match token, stack with
    | .comma, .array _ :: _ => .more stack .value
    | .closeBracket, .array items :: outer => complete (.array items.reverse) outer
    | .comma, .object _ _ :: _ => .more stack .key
    | .closeBrace, .object members _ :: outer => complete (.object members.reverse) outer
    | _, _ => .stuck
  | .key | .keyOrEnd =>
    match token, stack with
    | .text key, .object members _ :: outer => .more (.object members key :: outer) .colon
    | .closeBrace, .object members _ :: outer =>
      if want = .keyOrEnd then complete (.object members.reverse) outer else .stuck
    | _, _ => .stuck
  | .colon =>
    match token with
    | .colon => .more stack .value
    | _ => .stuck

/-- The document that the remaining tokens complete. -/
def assemble (stack : List Frame) (want : Want) : List Token → Document
  | [] => ⟨close .broken stack, false⟩
  | token :: rest =>
    match advance stack want token with
    | .more deeper next => assemble deeper next rest
    | .finished root => ⟨root, rest.isEmpty⟩
    | .stuck => ⟨close .broken stack, false⟩

/-- The document that a text spells. -/
def Document.ofText (text : String) : Document := assemble [] .value (tokens text.toList)

namespace Draft

mutual

/-- A value that can be passed over: the text does not break inside it. -/
def isWhole : Draft → Bool
  | .broken => false
  | .array items => areWhole items
  | .object members => membersAreWhole members
  | _ => true

/-- Items that can be passed over. -/
def areWhole : List Draft → Bool
  | [] => true
  | item :: rest => item.isWhole && areWhole rest

/-- Members that can be passed over, their keys included. -/
def membersAreWhole : List (Option String × Draft) → Bool
  | [] => true
  | (_, value) :: rest => value.isWhole && membersAreWhole rest

end

mutual

/-- A value that can be held as a whole: every text and number in it has a value, and containers
nest no deeper than `depth`. -/
def canHold (depth : Nat) : Draft → Bool
  | .broken => false
  | .text s => s.isSome
  | .natural n => n < unboundedFrom
  | .decimal d => !d.overflows
  | .array items => match depth with
    | 0 => false
    | inner + 1 => canHoldAll inner items
  | .object members => match depth with
    | 0 => false
    | inner + 1 => canHoldMembers inner members
  | _ => true

/-- Items that can be held. -/
def canHoldAll (depth : Nat) : List Draft → Bool
  | [] => true
  | item :: rest => item.canHold depth && canHoldAll depth rest

/-- Members that can be held, their keys included. -/
def canHoldMembers (depth : Nat) : List (Option String × Draft) → Bool
  | [] => true
  | (key, value) :: rest => key.isSome && value.canHold depth && canHoldMembers depth rest

end

end Draft

mutual

/-- The draft of a text that spells exactly this value. -/
def toDraft : Json → Draft
  | .null => .null
  | .bool b => .bool b
  | .number n => .natural n
  | .text s => .text (some s)
  | .array items => .array (itemsToDraft items)
  | .object members => .object (membersToDraft members)

/-- The drafts of items. -/
def itemsToDraft : List Json → List Draft
  | [] => []
  | item :: rest => toDraft item :: itemsToDraft rest

/-- The drafts of members. -/
def membersToDraft : List (String × Json) → List (Option String × Draft)
  | [] => []
  | (key, value) :: rest => (some key, toDraft value) :: membersToDraft rest

end

end Horarium.Json
