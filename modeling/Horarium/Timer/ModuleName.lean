/-
Module: Horarium.Timer.ModuleName
Purpose: Module names. A module id is a name followed by a hyphen and a version of three numbers;
  all versions of a module share the name, which is what stands before the first hyphen that a
  version follows.
Trusted boundary: human-reviewed definitions
Main exports: ModuleName.startsVersion, ModuleName.beforeVersion?, ModuleName.ofId
-/
import Horarium.Timer.Error
import Horarium.Text.Blank
import Horarium.Text.Numeral

namespace Horarium.ModuleName

/-- Whether a text starts with a version: three runs of digits with points between, then the end of
the text, a hyphen or a plus sign. -/
def startsVersion (cs : List Char) : Bool :=
  let core := cs.takeWhile fun c => c != '-' && c != '+'
  let parts := Text.splitOn '.' core
  parts.length == 3 && parts.all fun part => !part.isEmpty &&
    part.all fun c => (Text.digit? c).isSome

/-- What stands before the first hyphen that a version follows. -/
def beforeVersion? : List Char → Option (List Char)
  | [] => none
  | c :: rest =>
    if c = '-' ∧ startsVersion rest then some []
    else (beforeVersion? rest).map (c :: ·)

/-- The name of the module with this id. An id without a version is a name already; nothing at all,
or nothing but a version, is refused. -/
def ofId (id : String) : Except InputError String :=
  let trimmed := Text.trim id.toList
  let name := (beforeVersion? trimmed).getD trimmed
  if name.isEmpty then .error (.moduleId id) else .ok (String.ofList name)

end Horarium.ModuleName
