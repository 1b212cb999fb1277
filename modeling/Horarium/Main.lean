/-
Module: Horarium.Main
Purpose: The service as a program. Its settings are variables of the environment. Requests come from
  standard input, one JSON object with method, path, headers and body a line, and every response is
  one line of standard output. What a request publishes is worked off before the next one is read.
Trusted boundary: the runtime: environment, streams, clock and random bytes
Main exports: Program.serve, Program.run, main
-/
import Horarium.Json.Lookup
import Horarium.Server.Options
import Std.Time.DateTime.Timestamp

namespace Horarium.Program

/-- The variables that have a value, of those with these names. -/
def valuesOf (names : List String) : IO (List (String × String)) :=
  names.filterMapM fun name => return (← IO.getEnv name).map (name, ·)

/-- The variables that the service reads, under the names of its profile as well. -/
def environment : IO Environment := do
  let general ← valuesOf
    (Config.profileVariable :: StartOptions.storeVariable :: StartOptions.skipVariable
      :: Config.variableNames)
  let profile := Text.upper ((general.lookup Config.profileVariable).getD "")
  let own ← valuesOf (Config.variableNames.map fun name => s!"{profile}_{name}")
  return ⟨general ++ own⟩

/-- The clock as it stands now, and ids that start at random. -/
def currentSources : IO Sources := do
  let elapsed ← Std.Time.Timestamp.now
  let nanos := elapsed.toNanosecondsSinceUnixEpoch.val.toNat
  let seed ← IO.getRandomBytes 16
  let bits := seed.toList.foldl (fun n byte => 256 * n + byte.toNat) 0
  return ⟨fun _ => Instant.ofEpoch (nanos / 1000000000) nanos,
    fun n => Uuid.ofBits (bits + n), 0, 0⟩

/-- A queue without messages. Its names start with a word that is drawn at random. -/
def freshQueue : IO MemoryQueue := do
  let sources ← currentSources
  let word (n : Nat) : String := (sources.idAt n).toText ++ "-"
  return .empty (.numbered (word 0)) (.numbered (word 1))

/-- The request that a line spells. -/
def requestOf (line : String) : HttpRequest :=
  let draft := (Json.Document.ofText line).root
  let text (key : String) : String := ((draft.get? key).bind (·.text?)).getD ""
  HttpRequest.ofTarget (text "method") (text "path") ((draft.get? "headers").getD .null).textMembers
    (text "body")

/-- The line for a response. -/
def responseLine (r : HttpResponse) : String :=
  let body : Json := match r.body with
    | .empty => .text ""
    | .text content => .text content
    | .json content => content
  Json.render (.object [("status", .number r.status),
    ("headers", .object (r.headers.map fun (name, value) => (name, .text value))), ("body", body)])

/-- Answers requests until the input ends. -/
partial def serve (config : Config) (input output : IO.FS.Stream) (app : App MemoryStore) :
    IO Unit := do
  let line ← input.getLine
  if line.isEmpty then return
  let sources ← currentSources
  let app := { app with world := { app.world with sources } }
  let (response, app) := app.respond (.ofSetting config.server.corsOrigin) (requestOf line)
  output.putStrLn (responseLine response)
  output.flush
  serve config input output (app.drain config.queue.batchSize config.retry)

/-- The service from its start to the end of its input; answers with the exit status. -/
def run (arguments : List String) : IO UInt32 := do
  let env ← environment
  match StartOptions.ofArguments env arguments with
  | .error e =>
    IO.eprintln e.message
    return 2
  | .ok options =>
    let config := options.apply (Config.ofEnvironment env)
    config.summary.forM IO.eprintln
    match App.build config options.store (← currentSources) (← freshQueue) with
    | .error e =>
      IO.eprintln e.message
      return 1
    | .ok app =>
      let (outcome, app) := if options.skipRebuild then (.ok 0, app) else app.rebuild
      match outcome with
      | .error e =>
        IO.eprintln e.message
        return 1
      | .ok _ =>
        serve config (← IO.getStdin) (← IO.getStdout) app.spawnListener.2
        return 0

end Horarium.Program

/-- The program. -/
def main (arguments : List String) : IO UInt32 := Horarium.Program.run arguments
