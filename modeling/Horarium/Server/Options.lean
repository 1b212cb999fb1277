/-
Module: Horarium.Server.Options
Purpose: What a command line says about how the service is started. An option is written `--name
  value` or `--name=value` and given at most once. What the command line leaves open, a variable of
  the environment may say.
Trusted boundary: human-reviewed definitions
Main exports: StartOptions, UsageError, UsageError.message, StartOptions.storeVariable,
  StartOptions.skipVariable, StartOptions.ofArguments, StartOptions.apply
-/
import Horarium.Config.Environment
import Horarium.Server.App

namespace Horarium

/-- How the service is started. -/
structure StartOptions where
  store : StoreChoice
  tcpPort : Option Nat
  skipRebuild : Bool
deriving DecidableEq, Repr

/-- Why a command line is refused. -/
inductive UsageError where
  | unexpected (argument : String)
  | repeated (option : String)
  | valueMissing (option : String)
  | badValue (option value : String)
deriving DecidableEq, Repr

/-- The error in words. -/
def UsageError.message : UsageError → String
  | .unexpected argument => s!"unexpected argument {argument}"
  | .repeated option => s!"option {option} is given more than once"
  | .valueMissing option => s!"option {option} needs a value"
  | .badValue option value => s!"invalid value {value} for {option}"

namespace StartOptions

/-- The variable that names the store. -/
def storeVariable : String := "TOCK_STORE"

/-- The variable that leaves the stored timers unregistered at the start. -/
def skipVariable : String := "TOCK_SKIP_REBUILD"

/-- The texts of a flag that is not set. -/
def offTexts : List String := ["", "n", "no", "f", "false", "off", "0"]

/-- What has been said of each option. -/
structure Given where
  store : Option StoreChoice
  tcpPort : Option Nat
  skipRebuild : Bool
deriving DecidableEq, Repr

namespace Given

/-- One more option with its value. -/
def set (given : Given) (option value : String) : Except UsageError Given :=
  match option with
  | "--store" =>
    if given.store.isSome then .error (.repeated option)
    else match StoreChoice.named? value with
      | some choice => .ok { given with store := some choice }
      | none => .error (.badValue option value)
  | "--port" =>
    if given.tcpPort.isSome then .error (.repeated option)
    else match Text.readNat? Text.max16 value.toList with
      | some number => .ok { given with tcpPort := some number }
      | none => .error (.badValue option value)
  | _ => .error (.unexpected option)

/-- All that arguments say. -/
def read (given : Given) : List String → Except UsageError Given
  | [] => .ok given
  | "--skip-rebuild" :: rest =>
    if given.skipRebuild then .error (.repeated "--skip-rebuild")
    else read { given with skipRebuild := true } rest
  | [option] => match Text.splitFirst? '=' option.toList with
    | some (name, value) => given.set (String.ofList name) (String.ofList value)
    | none =>
      if option = "--store" ∨ option = "--port" then .error (.valueMissing option)
      else .error (.unexpected option)
  | option :: value :: rest => match Text.splitFirst? '=' option.toList with
    | some (name, text) => do
      let given ← given.set (String.ofList name) (String.ofList text)
      read given (value :: rest)
    | none => do
      let given ← given.set option value
      read given rest

end Given

/-- The options that a command line and the environment make together. -/
def ofArguments (env : Environment) (arguments : List String) : Except UsageError StartOptions := do
  let given ← Given.read ⟨none, none, false⟩ arguments
  let store ← match given.store, env.get? storeVariable with
    | some choice, _ => .ok choice
    | none, none => .ok .auto
    | none, some name => match StoreChoice.named? name with
      | some choice => .ok choice
      | none => .error (.badValue "--store" name)
  let skip := (env.get? skipVariable).any fun value => !offTexts.contains (Text.lower value)
  return ⟨store, given.tcpPort, given.skipRebuild || skip⟩

/-- The configuration with what the options change in it. -/
def apply (options : StartOptions) (config : Config) : Config :=
  { config with
    server := { config.server with tcpPort := options.tcpPort.getD config.server.tcpPort } }

end StartOptions

end Horarium
