/-
Module: Horarium.Queue.Settings
Purpose: The settings of a listener on the event queue.
Trusted boundary: human-reviewed definitions
Main exports: QueueSettings, RetrySettings
-/

namespace Horarium

/-- How many messages a listener takes at once, and how long it waits when there are none. -/
structure QueueSettings where
  pollIntervalMillis : Nat
  batchSize : Nat
deriving DecidableEq, Repr, Inhabited

/-- How often an event is tried, and how long the listener waits after one has failed. -/
structure RetrySettings where
  attempts : Nat
  delayMillis : Nat
deriving DecidableEq, Repr, Inhabited

end Horarium
