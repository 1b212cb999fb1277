/-
Module: Horarium.Config.Environment
Purpose: Environments: the variables that a process is started with, and those that a file adds to
  them.
Trusted boundary: human-reviewed definitions
Main exports: Environment, Environment.get?, Environment.nonEmpty?, Environment.setDefault
-/

namespace Horarium

/-- Variables and their values. -/
structure Environment where
  entries : List (String × String)
deriving DecidableEq, Repr

namespace Environment

/-- The value of a variable. -/
def get? (env : Environment) (name : String) : Option String := env.entries.lookup name

/-- The value of a variable, where an empty one counts as none. -/
def nonEmpty? (env : Environment) (name : String) : Option String :=
  (env.get? name).filter (!·.isEmpty)

/-- The environment with one more variable, unless it has that variable already. -/
def setDefault (env : Environment) (name value : String) : Environment :=
  if (env.get? name).isSome then env else ⟨env.entries ++ [(name, value)]⟩

end Environment

end Horarium
