/-
Module: Horarium.Config.EnvFile
Purpose: Environment files: lines of the form `NAME=value`, with comments, quotes, escapes and
  references to other variables.
Trusted boundary: human-reviewed definitions
Main exports: EnvFile.load, EnvFile.Quoting, EnvFile.ValueState
-/
import Horarium.Config.Environment
import Horarium.Text.Blank
import Horarium.Text.LetterCase

/-!
A file is first divided into entries, since a quoted value may run over several lines; each entry is
then read by itself. Loading stops at the first entry that is malformed and keeps what came before
it, and it never changes a variable that is set already.
-/

namespace Horarium.EnvFile

/-! ### The division into entries -/

/-- How far the quotes and escapes of an entry are closed. -/
inductive Quoting where
  | plain
  | gap
  | escaped
  | single
  | singleEscaped
  | double
  | doubleEscaped
deriving DecidableEq, Repr

namespace Quoting

/-- A character outside quotes. -/
def ofPlain (c : Char) : Quoting :=
  if c = '\\' then .escaped else if c = '"' then .double else if c = '\'' then .single else .plain

/-- One character; none where a comment begins, which is a hash sign behind a blank. -/
def step : Quoting → Char → Option Quoting
  | .plain, c => if Text.isBlank c ∧ c ≠ '\n' ∧ c ≠ '\r' then some .gap else some (ofPlain c)
  | .gap, c => if c = '#' then none else some (ofPlain c)
  | .escaped, _ => some .plain
  | .single, c => some (if c = '\\' then .singleEscaped else if c = '\'' then .plain else .single)
  | .singleEscaped, _ => some .single
  | .double, c => some (if c = '\\' then .doubleEscaped else if c = '"' then .plain else .double)
  | .doubleEscaped, _ => some .double

/-- The state after a line, or what of the line stands before its comment. -/
def scan (before : List Char) : Quoting → List Char → Except (List Char) Quoting
  | quoting, [] => .ok quoting
  | quoting, c :: cs => match quoting.step c with
    | none => .error before.reverse
    | some next => scan (c :: before) next cs

end Quoting

/-- The lines of a text, each with the line end that closes it. -/
def lines : List Char → List (List Char)
  | [] => []
  | c :: cs =>
    if c = '\n' then ['\n'] :: lines cs
    else match lines cs with
      | line :: rest => (c :: line) :: rest
      | [] => [[c]]

/-- A line without the line end that closes it. -/
def chop (line : List Char) : List Char :=
  match line.reverse with
  | '\n' :: '\r' :: rest => rest.reverse
  | '\n' :: rest => rest.reverse
  | _ => line

/-- The entries of lines, of which the text `pending` has been read up to a state. What remains open
at the end is no entry, which `none` tells. -/
def entries (pending : List Char) (quoting : Quoting) : List (List Char) → List (Option (List Char))
  | [] => if quoting = .plain then [] else [none]
  | line :: rest =>
    let text := pending ++ line
    if (Text.trimStart text).head? = some '#' then some [] :: entries [] .plain rest
    else match quoting.scan [] line with
      | .error before => some (pending ++ before) :: entries [] .plain rest
      | .ok .plain => some (chop text) :: entries [] .plain rest
      | .ok open_ => entries text open_ rest

/-! ### Values -/

/-- Where in a value the next character stands. A reference to a variable starts with a dollar sign;
it goes as far as letters and digits do, or to the closing brace. -/
inductive ValueState where
  | text (quoted : Bool)
  | single
  | escape (quoted : Bool)
  | reference (quoted braced : Bool) (name : List Char)
  | ended
  | comment
deriving DecidableEq, Repr

namespace ValueState

/-- Letters and digits, as they may follow a dollar sign. -/
def isNameChar (c : Char) : Bool := c.isAlphanum || Text.inRanges Text.cased c

/-- What a reference stands for: the variable's value, or nothing. -/
def resolve (env : Environment) (name : List Char) : List Char :=
  ((env.get? (String.ofList name)).getD "").toList

/-- What a character adds to the value, and where the next one stands; none where the value is
malformed. -/
def step (env : Environment) : ValueState → Char → Option (List Char × ValueState)
  | .ended, c =>
    if c = ' ' ∨ c = '\t' then some ([], .ended) else if c = '#' then some ([], .comment) else none
  | .comment, _ => some ([], .comment)
  | .escape quoted, c =>
    if c = 'n' then some (['\n'], .text quoted)
    else if ['\\', '\'', '"', '$', ' '].contains c then some ([c], .text quoted)
    else none
  | .single, c => if c = '\'' then some ([], .text false) else some ([c], .single)
  | .reference quoted true name, c =>
    if c = '\x7d' then some (resolve env name, .text quoted)
    else some ([], .reference quoted true (name ++ [c]))
  | .reference quoted false name, c =>
    if isNameChar c then some ([], .reference quoted false (name ++ [c]))
    else if c = '\x7b' ∧ name = [] then some ([], .reference quoted true [])
    else if c = '$' then some (resolve env name, .reference quoted false [])
    else some (resolve env name ++ [c], .text quoted)
  | .text quoted, c =>
    if c = '$' then some ([], .reference quoted false [])
    else if c = '"' then some ([], .text !quoted)
    else if c = '\\' then some ([], .escape quoted)
    else if quoted then some ([c], .text true)
    else if c = '\'' then some ([], .single)
    else if c = ' ' ∨ c = '\t' then some ([], .ended)
    else some ([c], .text false)

/-- What the end of the text adds to the value; none where something is still open. -/
def finish (env : Environment) : ValueState → Option (List Char)
  | .text quoted => if quoted then none else some []
  | .escape quoted => if quoted then none else some []
  | .reference quoted braced name => if quoted || braced then none else some (resolve env name)
  | .single => none
  | .ended | .comment => some []

end ValueState

/-- The value that a text spells from a place on. -/
def value? (env : Environment) : ValueState → List Char → Option (List Char)
  | state, [] => state.finish env
  | state, c :: cs => do
    let (out, next) ← state.step env c
    let rest ← value? env next cs
    return out ++ rest

/-! ### Entries -/

/-- A name: an ASCII letter or underscore, then letters, digits, underscores and points. -/
def name? (cs : List Char) : Option (List Char × List Char) :=
  match cs with
  | c :: _ =>
    if c.isAlpha || c = '_' then
      let name := cs.takeWhile fun c => c.isAlphanum || c = '_' || c = '.'
      some (name, cs.drop name.length)
    else none
  | [] => none

/-- What follows an equals sign, blanks around it passed over. -/
def afterEquals? (cs : List Char) : Option (List Char) :=
  match Text.trimStart cs with
  | '=' :: rest => some (Text.trimStart rest)
  | _ => none

/-- The name of an entry and the text of its value. The word `export` may stand before the name. -/
def assignment? (cs : List Char) : Option (List Char × List Char) := do
  let (name, rest) ← name? cs
  match afterEquals? rest with
  | some value => return (name, value)
  | none =>
    if name = "export".toList then do
      let (name, rest) ← name? (Text.trimStart rest)
      let value ← afterEquals? rest
      return (name, value)
    else none

/-- The environment with an entry loaded; none where the entry is malformed. An entry that is blank
or a comment adds nothing. -/
def loadEntry? (env : Environment) (entry : List Char) : Option Environment :=
  let cs := Text.trim entry
  if cs.isEmpty || cs.head? = some '#' then some env
  else do
    let (name, value) ← assignment? cs
    let value ←
      if value.isEmpty || value.head? = some '#' then some [] else value? env (.text false) value
    return env.setDefault (String.ofList name) (String.ofList value)

/-- The environment with entries loaded up to the first that is malformed. -/
def loadEntries (env : Environment) : List (Option (List Char)) → Environment
  | [] => env
  | none :: _ => env
  | some entry :: rest => match loadEntry? env entry with
    | none => env
    | some env => loadEntries env rest

/-- The environment with the variables of a file. A byte order mark at the start is passed over. -/
def load (file : String) (env : Environment) : Environment :=
  let cs := match file.toList with
    | '\ufeff' :: rest => rest
    | cs => cs
  loadEntries env (entries [] .plain (lines cs))

end Horarium.EnvFile
