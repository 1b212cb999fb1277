/-
Module: Horarium.Http.Method
Purpose: The request methods that a timer may use to call its target.
Trusted boundary: human-reviewed definitions
Main exports: HttpMethod, HttpMethod.name, HttpMethod.fallback, HttpMethod.parse?,
  HttpMethod.ofDeclared
-/
import Horarium.Text.Blank

namespace Horarium

/-- A method of calling a target. -/
inductive HttpMethod where
  | get
  | post
  | put
  | patch
  | delete
deriving DecidableEq, Repr

namespace HttpMethod

/-- The name as it is sent. -/
def name : HttpMethod → String
  | .get => "GET"
  | .post => "POST"
  | .put => "PUT"
  | .patch => "PATCH"
  | .delete => "DELETE"

/-- The method of a timer that declares none. -/
def fallback : HttpMethod := .post

/-- The method that a text names, in any case of its letters and with blanks around it. -/
def parse? (text : String) : Option HttpMethod :=
  match String.ofList ((Text.trim text.toList).map Char.toUpper) with
  | "GET" => some .get
  | "POST" => some .post
  | "PUT" => some .put
  | "PATCH" => some .patch
  | "DELETE" => some .delete
  | _ => none

/-- The method of a timer that declares these: the first of them. One that is not among the methods
is handed back. -/
def ofDeclared : List String → Except String HttpMethod
  | [] => .ok fallback
  | declared :: _ => match parse? declared with
    | some method => .ok method
    | none => .error declared

end HttpMethod

end Horarium
