/-
Module: Horarium.Queue.Listener
Purpose: The listener: takes messages from a queue, carries out the events they spell, and settles
  each of them. A message is removed if its event was carried out, and also if it can never be: its
  body spells no event, or the event's content is refused. A failure that may pass puts the message
  back until it has been delivered as often as is allowed; then it is removed.
Trusted boundary: human-reviewed definitions; queue and handler are parameters
Main exports: BatchStats, Listener.Handler, Listener.registryHandler, Listener.returns,
  Listener.handle, Listener.settleEach, Listener.processBatch
-/
import Horarium.Event
import Horarium.Queue.Message
import Horarium.Queue.Settings
import Horarium.Sync

namespace Horarium

/-- What became of a batch of messages. -/
structure BatchStats where
  received : Nat
  acked : Nat
  nacked : Nat
deriving DecidableEq, Repr

/-- The written form of what became of a batch. -/
def BatchStats.toJson (s : BatchStats) : Json :=
  .object [("received", .number s.received), ("acked", .number s.acked),
    ("nacked", .number s.nacked)]

namespace Listener

/-- Carrying out an event in a world of any kind. -/
abbrev Handler (ω : Type) : Type := TimerEvent → ω → Except SyncError Nat × ω

/-- Carrying out an event by the registry. -/
def registryHandler {σ ε : Type} [TimerStore σ] [SchedulingEngine ε] : Handler (World σ ε) :=
  fun event world => world.run (Sync.apply event)

/-- Whether a message goes back to the queue, by the outcome of its event and its deliveries so
far. -/
def returns (retry : RetrySettings) (attempts : Nat) : Except SyncError Nat → Bool
  | .ok _ => false
  | .error e => e.isRetryable && attempts < retry.attempts

variable {ω κ : Type}

/-- Carries out the event of a message; answers whether the message goes back. -/
def handle (handler : Handler ω) (retry : RetrySettings) (message : Message) (world : ω) :
    Bool × ω :=
  match TimerEvent.parse message.body with
  | .error _ => (false, world)
  | .ok event =>
    let (outcome, world) := handler event world
    (returns retry message.attempts outcome, world)

/-- Handles and settles messages one after the other. That settling fails does not matter here. -/
def settleEach [QueueConsumer κ] (handler : Handler ω) (retry : RetrySettings) :
    List Message → BatchStats → κ → ω → BatchStats × κ × ω
  | [], stats, queue, world => (stats, queue, world)
  | message :: rest, stats, queue, world =>
    let (back, world) := handle handler retry message world
    if back then
      let (_, queue) := QueueConsumer.nack message.receipt queue
      settleEach handler retry rest { stats with nacked := stats.nacked + 1 } queue world
    else
      let (_, queue) := QueueConsumer.ack message.receipt queue
      settleEach handler retry rest { stats with acked := stats.acked + 1 } queue world

/-- Takes one batch and settles every message of it. -/
def processBatch [QueueConsumer κ] (handler : Handler ω) (batchSize : Nat) (retry : RetrySettings)
    (queue : κ) (world : ω) : Except QueueError BatchStats × κ × ω :=
  match QueueConsumer.poll batchSize queue with
  | (.error e, queue) => (.error e, queue, world)
  | (.ok messages, queue) =>
    let (stats, queue, world) :=
      settleEach handler retry messages ⟨messages.length, 0, 0⟩ queue world
    (.ok stats, queue, world)

/-- The longest wait after failures to poll. -/
def maxBackoffMillis : Nat := 30000

/-- How long the listener waits after a batch, `errors` being the failures to poll in a row. -/
def pauseMillis (settings : QueueSettings) (retry : RetrySettings) (errors : Nat) :
    Except QueueError BatchStats → Nat
  | .ok stats =>
    if stats.received = 0 then settings.pollIntervalMillis
    else if 0 < stats.nacked then max retry.delayMillis settings.pollIntervalMillis
    else 0
  | .error _ => min (settings.pollIntervalMillis * Nat.pow 2 (min errors 5)) maxBackoffMillis

end Listener

end Horarium
