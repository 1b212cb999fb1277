/-
Module: Horarium.Config.Basic
Purpose: The configuration of the service, read from the environment. A profile gives every variable
  a second name that is looked up first: with the profile `PROD`, `PROD_PORT` goes before `PORT`.
  Empty values count as unset, and a number that cannot be read counts as its default.
Trusted boundary: human-reviewed definitions
Main exports: ServerSettings, DatabaseSettings, CallbackSettings, Config, Config.variableNames,
  Config.ofEnvironment, Config.summary
-/
import Horarium.Callback.Token
import Horarium.Config.Environment
import Horarium.Queue.Settings
import Horarium.Text.LetterCase

namespace Horarium

/-- Where the service listens, and which origin browsers may call it from. -/
structure ServerSettings where
  host : String
  tcpPort : Nat
  corsOrigin : String
deriving DecidableEq, Repr, Inhabited

/-- The database. -/
structure DatabaseSettings where
  host : String
  tcpPort : Nat
  database : String
  username : Option String
  password : Option String
  sslMode : String
  maxConnections : Nat
deriving DecidableEq, Repr, Inhabited

/-- How callbacks are made. -/
structure CallbackSettings where
  baseUrl : String
  timeoutMillis : Nat
  tokenUrl : Option String
  staticToken : Option String
deriving DecidableEq, Repr, Inhabited

/-- The configuration of the service. The profile is empty where none is chosen. -/
structure Config where
  profile : String
  server : ServerSettings
  database : DatabaseSettings
  callback : CallbackSettings
  retry : RetrySettings
  queue : QueueSettings
deriving DecidableEq, Repr, Inhabited

namespace Environment

/-- The value of a variable under a profile. -/
def profiled? (env : Environment) (profile name : String) : Option String :=
  let own := if profile.isEmpty then none else env.nonEmpty? s!"{profile}_{name}"
  own.or (env.nonEmpty? name)

/-- The value of a variable under a profile, or a default. -/
def text (env : Environment) (profile name absent : String) : String :=
  (env.profiled? profile name).getD absent

/-- The number up to `limit` that a variable holds under a profile, or a default. -/
def natural (env : Environment) (profile : String) (limit : Nat) (name : String) (absent : Nat) :
    Nat :=
  ((env.profiled? profile name).bind fun v => Text.readNat? limit v.toList).getD absent

end Environment

namespace DatabaseSettings

/-- The role that logs in. -/
def login (s : DatabaseSettings) : String := s.username.getD "postgres"

/-- Whether there is a database to connect to. -/
def isConfigured (s : DatabaseSettings) : Bool := s.username.isSome

end DatabaseSettings

namespace CallbackSettings

/-- Where tokens come from: a service goes before a fixed token. -/
def tokens (s : CallbackSettings) : TokenSource :=
  match s.tokenUrl with
  | some url => .service url
  | none => .fixed s.staticToken

/-- The sort of token, as it may be shown. -/
def tokenLabel (s : CallbackSettings) : String :=
  match s.tokens with
  | .service _ => "impersonation"
  | .fixed (some _) => "static"
  | .fixed none => "none"

end CallbackSettings

namespace Config

/-- The variable that names the profile. -/
def profileVariable : String := "TOCK_PROFILE"

/-- The variables that a profile may give a value of their own. -/
def variableNames : List String := [
  "HOST", "PORT", "CORS_ORIGIN", "PG_HOST", "PG_PORT", "PG_DATABASE", "PG_USERNAME", "PG_PASSWORD",
  "PG_SSL_MODE", "PG_MAX_CONNECTIONS", "CALLBACK_BASE_URL", "CALLBACK_TIMEOUT_MS", "TOKEN_URL",
  "STATIC_TOKEN", "SYNC_RETRY_ATTEMPTS", "SYNC_RETRY_DELAY_MS", "QUEUE_POLL_INTERVAL_MS",
  "QUEUE_BATCH_SIZE"]

/-- The configuration under a profile, which is taken in capitals. -/
def ofProfile (name : String) (env : Environment) : Config :=
  let profile := Text.upper name
  let text := env.text profile
  let natural := env.natural profile
  let optional := env.profiled? profile
  { profile
    server := ⟨text "HOST" "0.0.0.0", natural Text.max16 "PORT" 8081, text "CORS_ORIGIN" "*"⟩
    database := ⟨text "PG_HOST" "localhost", natural Text.max16 "PG_PORT" 5432,
      text "PG_DATABASE" "tock", optional "PG_USERNAME", optional "PG_PASSWORD",
      text "PG_SSL_MODE" "prefer", natural Text.max32 "PG_MAX_CONNECTIONS" 10⟩
    callback := ⟨text "CALLBACK_BASE_URL" "http://localhost:9130",
      natural Text.max64 "CALLBACK_TIMEOUT_MS" 30000, optional "TOKEN_URL", optional "STATIC_TOKEN"⟩
    retry :=
      ⟨natural Text.max32 "SYNC_RETRY_ATTEMPTS" 5, natural Text.max64 "SYNC_RETRY_DELAY_MS" 2000⟩
    queue := ⟨natural Text.max64 "QUEUE_POLL_INTERVAL_MS" 500,
      natural Text.max32 "QUEUE_BATCH_SIZE" 10⟩ }

/-- The configuration under the profile that the environment names. -/
def ofEnvironment (env : Environment) : Config := ofProfile ((env.get? profileVariable).getD "") env

/-- The profile as it is shown. -/
def label (c : Config) : String := if c.profile.isEmpty then "default" else c.profile

/-- The lines that tell at the start how the service is configured. No secret is among them. -/
def summary (c : Config) : List String := [
  s!"Config loaded (profile: {c.label}):",
  s!"  server:      {c.server.host}:{c.server.tcpPort}",
  s!"  postgres:    host={c.database.host}, db={c.database.database}, "
    ++ s!"configured={c.database.isConfigured}",
  s!"  callback:    base_url={c.callback.baseUrl}, timeout={c.callback.timeoutMillis}ms, "
    ++ s!"token={c.callback.tokenLabel}",
  s!"  sync:        table-missing retries={c.retry.attempts} delay={c.retry.delayMillis}ms",
  s!"  queue:       poll={c.queue.pollIntervalMillis}ms batch={c.queue.batchSize}"]

end Config

end Horarium
