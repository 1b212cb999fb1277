/-
Module: Horarium.Http.Request
Purpose: Requests to the service and its responses.
Trusted boundary: human-reviewed definitions; the server that reads requests has read the body to
  its end
Main exports: HttpRequest, HttpRequest.hasJsonBody, HttpResponse, HttpResponse.ofStatus,
  HttpResponse.ofText, HttpResponse.ofJson, HttpResponse.withHeader
-/
import Horarium.Http.MediaType
import Horarium.Json.Value
import Horarium.Text.Blank

namespace Horarium

/-- A request: its method, the path as it was sent, the query behind it, headers and body. The body
is one that the server was ready to read to its end. -/
structure HttpRequest where
  method : String
  path : String
  query : String
  headers : List (String × String)
  body : String
deriving Repr

namespace HttpRequest

/-- The request for a target, which is a path with a query or without; a fragment is no part of
it. -/
def ofTarget (method target : String) (headers : List (String × String)) (body : String) :
    HttpRequest :=
  let whole := target.toList.takeWhile (· != '#')
  let (path, query) := (Text.splitFirst? '?' whole).getD (whole, [])
  ⟨method, String.ofList path, String.ofList query, headers, body⟩

/-- A character that may stand in a header that is read as text. -/
def isVisible (c : Char) : Bool := (32 ≤ c.toNat && c.toNat < 127) || c == '\t'

/-- A name in small letters, ASCII being all that header names are made of. -/
def lowerName (name : String) : String := String.ofList (name.toList.map Char.toLower)

/-- The value of a header, whatever the case of its name. -/
def header? (r : HttpRequest) (name : String) : Option String :=
  (r.headers.find? fun (given, _) => lowerName given == name).map (·.2)

/-- The value of a header without the blanks around it, where it is plain text and not blank. -/
def field? (r : HttpRequest) (name : String) : Option String :=
  ((r.header? name).filter fun v => v.toList.all isVisible).bind fun v =>
    let trimmed := Text.trim v.toList
    if trimmed.isEmpty then none else some (String.ofList trimmed)

/-- Whether the body claims to be JSON. -/
def hasJsonBody (r : HttpRequest) : Bool :=
  (((r.header? "content-type").filter fun v => v.toList.all isVisible).bind MediaType.parse?).any
    (·.isJson)

end HttpRequest

/-- The body of a response. -/
inductive ResponseBody where
  | empty
  | text (content : String)
  | json (content : Json)

/-- A response: status, headers and body. -/
structure HttpResponse where
  status : Nat
  headers : List (String × String)
  body : ResponseBody

namespace HttpResponse

/-- A response without a body. -/
def ofStatus (status : Nat) : HttpResponse := ⟨status, [], .empty⟩

/-- A response that tells something in words. -/
def ofText (status : Nat) (content : String) : HttpResponse := ⟨status, [], .text content⟩

/-- A response with a JSON value. -/
def ofJson (status : Nat) (content : Json) : HttpResponse := ⟨status, [], .json content⟩

/-- The response with one more header. -/
def withHeader (r : HttpResponse) (name value : String) : HttpResponse :=
  { r with headers := r.headers ++ [(name, value)] }

end HttpResponse

end Horarium
