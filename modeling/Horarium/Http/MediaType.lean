/-
Module: Horarium.Http.MediaType
Purpose: Media types, as far as it takes to tell whether a body claims to be JSON. A type is read
  strictly: blanks are allowed before a parameter and behind a quoted value, and nowhere else.
Trusted boundary: human-reviewed definitions
Main exports: MediaType, MediaType.parse?, MediaType.isJson
-/
import Horarium.Text.Blank

namespace Horarium

/-- A media type: the part before the slash, the part behind it, and the suffix that follows the
last plus sign of the latter, all in small letters. -/
structure MediaType where
  main : String
  sub : String
  suffix : Option String
deriving DecidableEq, Repr

namespace MediaType

/-- The characters of names and unquoted values. -/
def isTokenChar (c : Char) : Bool := c.isAlphanum || "!#$%&'*+-.^_\u0060|~".toList.contains c

/-- Whether a text can be quoted as a value. -/
def isQuotable (c : Char) : Bool := 31 < c.toNat && c.toNat != 127

/-- What follows a quoted value of at least one character: the rest behind the next semicolon, or
none at the end of the text. -/
def afterQuoted? (cs : List Char) : Option (List Char) :=
  match cs with
  | [] => none
  | first :: rest =>
    let inner := rest.takeWhile (· != '"')
    if (first :: inner).all isQuotable then
      match rest.drop inner.length with
      | '"' :: after =>
        match after.dropWhile (· == ' ') with
        | [] => some []
        | ';' :: next => some next
        | _ => none
      | _ => none
    else none

/-- What follows the value of a parameter. -/
def afterValue? (cs : List Char) : Option (List Char) :=
  match cs with
  | '"' :: rest => afterQuoted? rest
  | _ =>
    let value := cs.takeWhile isTokenChar
    match cs.drop value.length with
    | [] => some []
    | ';' :: next => if value.isEmpty then none else some next
    | _ => none

/-- What follows one parameter. -/
def afterParameter? (cs : List Char) : Option (List Char) :=
  let text := cs.dropWhile (· == ' ')
  let name := text.takeWhile isTokenChar
  match text.drop name.length with
  | '=' :: value => if name.isEmpty then none else afterValue? value
  | _ => none

/-- Whether a text is a list of parameters, `budget` bounding their number. -/
def areParameters : Nat → List Char → Bool
  | 0, cs => cs.all (· == ' ')
  | budget + 1, cs =>
    if cs.all (· == ' ') then true
    else match afterParameter? cs with
      | none => false
      | some rest => areParameters budget rest

/-- The name behind the slash without its suffix, and the suffix. A plus sign at the start is part
of the name. -/
def splitSuffix (sub : List Char) : List Char × Option (List Char) :=
  let suffix := (sub.reverse.takeWhile (· != '+')).reverse
  let before := sub.take (sub.length - suffix.length - 1)
  if suffix.length < sub.length ∧ !before.isEmpty then (before, some suffix) else (sub, none)

/-- The media type that a text is. -/
def parse? (text : String) : Option MediaType := do
  let cs := text.toList.map Char.toLower
  let main := cs.takeWhile isTokenChar
  match cs.drop main.length with
  | '/' :: rest =>
    let sub := rest.takeWhile isTokenChar
    let isSound := match rest.drop sub.length with
      | [] => true
      | ';' :: parameters => !sub.isEmpty && areParameters parameters.length parameters
      | _ => false
    if !main.isEmpty && isSound then
      let (name, suffix) := splitSuffix sub
      return ⟨String.ofList main, String.ofList name, suffix.map String.ofList⟩
    else none
  | _ => none

/-- Whether a body of the type is JSON: `application/json`, or another application format in the
syntax of JSON. -/
def isJson (m : MediaType) : Bool :=
  m.main == "application" && (m.sub == "json" || m.suffix == some "json")

end MediaType

end Horarium
