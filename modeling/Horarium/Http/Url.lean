/-
Module: Horarium.Http.Url
Purpose: Web addresses: which texts are absolute addresses of the schemes `http` and `https`, and
  what is asked of the server there. Reading is liberal in the manner of browsers: tabs and line
  ends are dropped, backslashes pass for slashes, and any number of slashes may follow the scheme.
  The path that is sent has its dot segments resolved and its awkward characters percent-encoded; a
  fragment is not sent.
Trusted boundary: human-reviewed definitions
Main exports: Url, Url.afterScheme?, Url.parse?
-/
import Horarium.Text.Blank
import Horarium.Text.Numeral
import Horarium.Text.Percent

namespace Horarium

/-- An absolute address: whether it is served over an encrypted connection, the server's name and
the number behind its colon, and the path with the query. -/
structure Url where
  secure : Bool
  host : String
  tcpPort : Option Nat
  target : String
deriving DecidableEq, Repr

namespace Url

/-- Characters that are never written as they are: controls, and all beyond ASCII. -/
def isUnwritable (c : Char) : Bool := c.toNat < 0x20 || 0x7E < c.toNat

/-- Characters that are encoded in a path. -/
def isReservedInPath (c : Char) : Bool :=
  isUnwritable c || " \"#<>?\u0060\x7b\x7d".toList.contains c

/-- Characters that are encoded in a query. -/
def isReservedInQuery (c : Char) : Bool := isUnwritable c || " \"#<>'".toList.contains c

/-- Characters that cannot be part of a server's name. -/
def isForbiddenInHost (c : Char) : Bool :=
  c.toNat ≤ 0x20 || c.toNat == 0x7F || "#/:<>?@[\\]^|%".toList.contains c

/-- Where the part of a path ends. -/
def isSlash (c : Char) : Bool := c == '/' || c == '\\'

/-- The text without tabs and line ends, and without the controls and spaces at its ends. -/
def clean (cs : List Char) : List Char :=
  let blank (c : Char) : Bool := c.toNat ≤ 0x20
  let inner := ((cs.dropWhile blank).reverse.dropWhile blank).reverse
  inner.filter fun c => c != '\t' && c != '\n' && c != '\r'

/-- Whether a segment denotes the directory itself. -/
def isSingleDot (segment : List Char) : Bool :=
  let s := String.ofList (segment.map Char.toLower)
  s == "." || s == "%2e"

/-- Whether a segment denotes the directory above. -/
def isDoubleDot (segment : List Char) : Bool :=
  let s := String.ofList (segment.map Char.toLower)
  s == ".." || s == ".%2e" || s == "%2e." || s == "%2e%2e"

/-- The segments of a path with its dot segments resolved, behind segments that are already, nearest
first. A dot segment at the end leaves an empty one. -/
def resolve : List (List Char) → List (List Char) → List (List Char)
  | done, [] => done.reverse
  | done, segment :: rest =>
    let last := rest.isEmpty
    if isDoubleDot segment then
      let above := done.tail
      resolve (if last then [] :: above else above) rest
    else if isSingleDot segment then resolve (if last then [] :: done else done) rest
    else resolve (segment :: done) rest

/-- The path as it is sent. -/
def pathChars (path : List Char) : List Char :=
  let segments := match Text.pieces isSlash path with
    | [] :: rest => if rest.isEmpty then [[]] else rest
    | all => all
  (resolve [] segments).flatMap fun segment => '/' :: Text.percentEncode isReservedInPath segment

/-- The name of a server: not empty, and either an address in brackets or free of characters that
would end or split it. -/
def isHost (host : List Char) : Bool :=
  match host with
  | '[' :: rest =>
    rest.getLast? == some ']' && 2 < rest.length
      && rest.dropLast.all fun c => (Text.hexDigit? c).isSome || c == ':' || c == '.'
  | _ => !host.isEmpty && !host.any isForbiddenInHost

/-- The server's name and the number behind its colon, which may be left out. -/
def hostAndNumber? (authority : List Char) : Option (String × Option Nat) :=
  let server := (authority.reverse.takeWhile (· != '@')).reverse
  let host := match server with
    | '[' :: _ => server.takeWhile (· != ']') ++ (server.dropWhile (· != ']')).take 1
    | _ => server.takeWhile (· != ':')
  if isHost host then
    match server.drop host.length with
    | [] | [':'] => some (String.ofList host, none)
    | ':' :: digits => do
      let number ← Text.readDigits? 0 digits
      if number ≤ Text.max16 then return (String.ofList host, some number) else none
    | _ => none
  else none

/-- The address behind a scheme. -/
def afterScheme? (secure : Bool) (cs : List Char) : Option Url := do
  let whole := cs.takeWhile (· != '#')
  let rest := whole.dropWhile isSlash
  let authority := rest.takeWhile fun c => !isSlash c && c != '?'
  let (host, number) ← hostAndNumber? authority
  let after := rest.drop authority.length
  let path := after.takeWhile (· != '?')
  let query := match after.drop path.length with
    | '?' :: query => '?' :: Text.percentEncode isReservedInQuery query
    | _ => []
  return ⟨secure, host, number, String.ofList (pathChars path ++ query)⟩

/-- The address that a text is. -/
def parse? (text : String) : Option Url := do
  let (scheme, rest) ← Text.splitFirst? ':' (clean text.toList)
  match String.ofList (scheme.map Char.toLower) with
  | "http" => afterScheme? false rest
  | "https" => afterScheme? true rest
  | _ => none

end Url

end Horarium
