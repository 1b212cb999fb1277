/-
Module: Horarium.Config.Codec
Purpose: The JSON form of the configuration. Every member is written; optional ones may be missing
  when it is read.
Trusted boundary: human-reviewed definitions
Main exports: QueueSettings.reader, Config.toJson, Config.reader
-/
import Horarium.Config.Basic
import Horarium.Json.Reader

namespace Horarium

namespace ServerSettings

/-- The written form. -/
def toJson (s : ServerSettings) : Json :=
  .object [("host", .text s.host), ("port", .number s.tcpPort), ("cors_origin", .text s.corsOrigin)]

/-- Reads the written form. -/
def reader : Json.Reader ServerSettings :=
  .record [
    Json.field "host" .required .text fun v s => { s with host := v },
    Json.field "port" .required (.natural Text.max16) fun v s => { s with tcpPort := v },
    Json.field "cors_origin" .required .text fun v s => { s with corsOrigin := v }]
    default

end ServerSettings

namespace DatabaseSettings

/-- The written form. -/
def toJson (s : DatabaseSettings) : Json :=
  .object [("host", .text s.host), ("port", .number s.tcpPort), ("database", .text s.database),
    ("username", Json.ofOption .text s.username), ("password", Json.ofOption .text s.password),
    ("ssl_mode", .text s.sslMode), ("max_connections", .number s.maxConnections)]

/-- Reads the written form. -/
def reader : Json.Reader DatabaseSettings :=
  .record [
    Json.field "host" .required .text fun v s => { s with host := v },
    Json.field "port" .required (.natural Text.max16) fun v s => { s with tcpPort := v },
    Json.field "database" .required .text fun v s => { s with database := v },
    Json.field "username" .optional (.optional .text) fun v s => { s with username := v },
    Json.field "password" .optional (.optional .text) fun v s => { s with password := v },
    Json.field "ssl_mode" .required .text fun v s => { s with sslMode := v },
    Json.field "max_connections" .required (.natural Text.max32)
      fun v s => { s with maxConnections := v }]
    default

end DatabaseSettings

namespace CallbackSettings

/-- The written form. -/
def toJson (s : CallbackSettings) : Json :=
  .object [("base_url", .text s.baseUrl), ("timeout_ms", .number s.timeoutMillis),
    ("token_url", Json.ofOption .text s.tokenUrl),
      ("static_token", Json.ofOption .text s.staticToken)]

/-- Reads the written form. -/
def reader : Json.Reader CallbackSettings :=
  .record [
    Json.field "base_url" .required .text fun v s => { s with baseUrl := v },
    Json.field "timeout_ms" .required (.natural Text.max64)
      fun v s => { s with timeoutMillis := v },
    Json.field "token_url" .optional (.optional .text) fun v s => { s with tokenUrl := v },
    Json.field "static_token" .optional (.optional .text) fun v s => { s with staticToken := v }]
    default

end CallbackSettings

namespace RetrySettings

/-- The written form. -/
def toJson (s : RetrySettings) : Json :=
  .object [("retry_attempts", .number s.attempts), ("retry_delay_ms", .number s.delayMillis)]

/-- Reads the written form. -/
def reader : Json.Reader RetrySettings :=
  .record [
    Json.field "retry_attempts" .required (.natural Text.max32) fun v s => { s with attempts := v },
    Json.field "retry_delay_ms" .required (.natural Text.max64)
      fun v s => { s with delayMillis := v }]
    default

end RetrySettings

namespace QueueSettings

/-- The written form. -/
def toJson (s : QueueSettings) : Json :=
  .object [("poll_interval_ms", .number s.pollIntervalMillis), ("batch_size", .number s.batchSize)]

/-- Reads the written form. -/
def reader : Json.Reader QueueSettings :=
  .record [
    Json.field "poll_interval_ms" .required (.natural Text.max64)
      fun v s => { s with pollIntervalMillis := v },
    Json.field "batch_size" .required (.natural Text.max32) fun v s => { s with batchSize := v }]
    default

end QueueSettings

namespace Config

/-- The written form. -/
def toJson (c : Config) : Json :=
  .object [("profile", .text c.profile), ("server", c.server.toJson),
    ("postgres", c.database.toJson),
    ("callback", c.callback.toJson), ("sync", c.retry.toJson), ("queue", c.queue.toJson)]

/-- Reads the written form. -/
def reader : Json.Reader Config :=
  .record [
    Json.field "profile" .required .text fun v c => { c with profile := v },
    Json.field "server" .required ServerSettings.reader fun v c => { c with server := v },
    Json.field "postgres" .required DatabaseSettings.reader fun v c => { c with database := v },
    Json.field "callback" .required CallbackSettings.reader fun v c => { c with callback := v },
    Json.field "sync" .required RetrySettings.reader fun v c => { c with retry := v },
    Json.field "queue" .required QueueSettings.reader fun v c => { c with queue := v }]
    default

end Config

end Horarium
