/-
Module: Horarium.Http.Query
Purpose: Query strings in the form that browsers give to submitted fields: pairs of name and value
  between ampersands, with plus signs for spaces and other characters percent-encoded.
Trusted boundary: human-reviewed definitions
Main exports: Query.pair, Query.pairs, Query.values
-/
import Horarium.Text.Blank
import Horarium.Text.Percent

namespace Horarium.Query

/-- What an encoded piece stands for, if that is a text. Plus signs are replaced before anything is
decoded, so that an encoded plus sign stays one. -/
def piece? (cs : List Char) : Option String :=
  Text.percentDecode? (cs.map fun c => if c == '+' then ' ' else c)

/-- One pair. Without an equals sign the value is empty. -/
def pair (cs : List Char) : Option String × Option String :=
  match Text.splitFirst? '=' cs with
  | some (name, value) => (piece? name, piece? value)
  | none => (piece? cs, some "")

/-- The pairs of a query string. -/
def pairs (query : String) : List (Option String × Option String) :=
  ((Text.splitOn '&' query.toList).filter (!·.isEmpty)).map pair

/-- The values given under a name. -/
def values (query name : String) : List (Option String) :=
  ((pairs query).filter (·.1 == some name)).map (·.2)

end Horarium.Query
