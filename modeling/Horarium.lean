import Horarium.Calendar.Date
import Horarium.Calendar.Instant
import Horarium.Calendar.Zone.Rule
import Horarium.Calendar.Zone.Table
import Horarium.Callback.Basic
import Horarium.Callback.Token
import Horarium.Config.Basic
import Horarium.Config.Codec
import Horarium.Config.EnvFile
import Horarium.Config.Environment
import Horarium.Context
import Horarium.Cron.Codec
import Horarium.Cron.Field
import Horarium.Cron.Fire
import Horarium.Cron.Schedule
import Horarium.Cron.Unix
import Horarium.Engine.Job
import Horarium.Engine.Local
import Horarium.Engine.Recording
import Horarium.Event
import Horarium.Http.Cors
import Horarium.Http.MediaType
import Horarium.Http.Method
import Horarium.Http.Outbound
import Horarium.Http.Query
import Horarium.Http.Request
import Horarium.Http.Url
import Horarium.Json.Draft
import Horarium.Json.Lookup
import Horarium.Json.Reader
import Horarium.Json.Token
import Horarium.Json.Value
import Horarium.Main
import Horarium.Procedure
import Horarium.Proofs.Bystanders
import Horarium.Proofs.Commitment
import Horarium.Proofs.EntitlementRedelivery
import Horarium.Proofs.EventSteps
import Horarium.Proofs.FailureAtomicity
import Horarium.Proofs.History
import Horarium.Proofs.JobAgreement
import Horarium.Proofs.JobIsolation
import Horarium.Proofs.JobUsers
import Horarium.Proofs.ModuleUpgrade
import Horarium.Proofs.PreparedRecord
import Horarium.Proofs.QueueConservation
import Horarium.Proofs.Reconciliation
import Horarium.Proofs.RecordValidity
import Horarium.Proofs.RegistryBatches
import Horarium.Proofs.RegistrySteps
import Horarium.Proofs.RegistryWrites
import Horarium.Proofs.Requests
import Horarium.Proofs.ResourceRedelivery
import Horarium.Proofs.Roster
import Horarium.Proofs.RosterRebuild
import Horarium.Proofs.Runs
import Horarium.Proofs.Settlement
import Horarium.Proofs.StoredRecords
import Horarium.Proofs.TenantAgreement
import Horarium.Proofs.TimerTable
import Horarium.Proofs.TriggerShape
import Horarium.Proofs.UuidText
import Horarium.Queue.Listener
import Horarium.Queue.Memory
import Horarium.Queue.Message
import Horarium.Queue.Observed
import Horarium.Queue.Settings
import Horarium.Queue.Timeline
import Horarium.Reconcile
import Horarium.Registry.Basic
import Horarium.Registry.Error
import Horarium.Registry.Prepare
import Horarium.Server.Action
import Horarium.Server.App
import Horarium.Server.Options
import Horarium.Server.Route
import Horarium.Store.Basic
import Horarium.Store.Database
import Horarium.Store.Faulty
import Horarium.Store.Memory
import Horarium.Store.Schema
import Horarium.Sync
import Horarium.Text.Blank
import Horarium.Text.CaseTable
import Horarium.Text.Hex
import Horarium.Text.LetterCase
import Horarium.Text.Numeral
import Horarium.Text.Percent
import Horarium.Timer.Codec
import Horarium.Timer.Error
import Horarium.Timer.Interval
import Horarium.Timer.Kind
import Horarium.Timer.ModuleName
import Horarium.Timer.Record
import Horarium.Timer.Routing
import Horarium.Trigger
import Horarium.Uuid
import Horarium.Proofs.RecordVersions
import Horarium.Proofs.ModuleInstallation
import Horarium.Proofs.ModuleRemoval
import Horarium.Proofs.BoundedRedelivery
import Horarium.Proofs.ExpectedErrors
import Horarium.Proofs.ServiceResponses
import Horarium.Proofs.HeldRecords
import Horarium.Proofs.QueuedRemoval
import Horarium.Proofs.Interleaving
import Horarium.Proofs.JobRequests
import Horarium.Proofs.ChangeSteps
import Horarium.Proofs.ConcurrentChanges
import Horarium.Proofs.EngineDouble
import Horarium.Proofs.UnixFields
import Horarium.Proofs.FieldReading
import Horarium.Proofs.UnixTranslation
import Horarium.Proofs.JsonText
import Horarium.Proofs.InstantText
import Horarium.Proofs.RecordForms
import Horarium.Proofs.EventText
import Horarium.Proofs.Exchanges
import Horarium.Proofs.SignedWrites
import Horarium.Proofs.AuditTrail
import Horarium.Proofs.EngineForms
import Horarium.Proofs.FieldBoundaries
import Horarium.Proofs.FieldwiseAcceptance
import Horarium.Proofs.NumberRanges
import Horarium.Proofs.DayRule
import Horarium.Proofs.Rescheduling
import Horarium.Proofs.Deduplication
import Horarium.Proofs.NaturalKeys
import Horarium.Proofs.WriteBack
import Horarium.Proofs.Registrable
import Horarium.Proofs.ModuleSwitch
import Horarium.Proofs.BulkCreation
import Horarium.Proofs.LocalAnswers
import Horarium.Proofs.KeyedTables
import Horarium.Proofs.FireWindows
import Horarium.Proofs.FireTimes
import Horarium.Proofs.MissingJobs
import Horarium.Proofs.RecordOrder
import Horarium.Proofs.Listings
import Horarium.Proofs.ModuleVersions
import Horarium.Proofs.Callbacks
import Horarium.Proofs.ActiveCallbacks
import Horarium.Proofs.RebuildVisits
import Horarium.Proofs.TenantSchemas
