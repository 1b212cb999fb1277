/-
Module: Horarium.Queue.Observed
Purpose: A queue under observation: what its consumer does is logged with the time, and chosen polls
  and settlements fail before they reach the queue.
Trusted boundary: human-reviewed definitions
Main exports: QueueAction, ObservedQueue, ObservedQueue.poll, ObservedQueue.settle
-/
import Horarium.Queue.Message

namespace Horarium

/-- What a consumer did: a poll that failed, a poll with the messages it was given and their
deliveries, or a message removed or returned, which may have failed. -/
inductive QueueAction where
  | pollFailed
  | polled (messages : List (String × Nat))
  | acked (message : String) (failed : Bool)
  | nacked (message : String) (failed : Bool)
deriving DecidableEq, Repr

/-- The written form of what a consumer did at a millisecond. -/
def QueueAction.toJson (millis : Nat) : QueueAction → Json
  | .pollFailed => .object [("at", .number millis), ("poll", .text "error")]
  | .polled messages =>
    let entry (m : String × Nat) : Json := .object [("id", .text m.1), ("attempt", .number m.2)]
    .object [("at", .number millis), ("poll", .array (messages.map entry))]
  | .acked message failed =>
    .object [("at", .number millis), ("ack", .text message), ("failed", .bool failed)]
  | .nacked message failed =>
    .object [("at", .number millis), ("nack", .text message), ("failed", .bool failed)]

/-- A queue under observation. Polls and settlements are numbered from 0; the lists say which
fail. -/
structure ObservedQueue (κ : Type) where
  inner : κ
  now : Nat
  log : List (Nat × QueueAction)
  handedOut : List (String × String)
  polls : Nat
  settlements : Nat
  failingPolls : List Nat
  failingSettlements : List Nat

namespace ObservedQueue

variable {κ : Type}

/-- A queue whose observation starts. -/
def of (inner : κ) (failingPolls failingSettlements : List Nat) : ObservedQueue κ :=
  ⟨inner, 0, [], [], 0, 0, failingPolls, failingSettlements⟩

/-- The queue with its clock set. -/
def tell (now : Nat) (queue : ObservedQueue κ) : ObservedQueue κ := { queue with now }

/-- The queue with one more entry in its log. -/
def note (queue : ObservedQueue κ) (action : QueueAction) : ObservedQueue κ :=
  { queue with log := queue.log ++ [(queue.now, action)] }

/-- A poll. -/
def poll [QueueConsumer κ] (max : Nat) (queue : ObservedQueue κ) :
    Except QueueError (List Message) × ObservedQueue κ :=
  let number := queue.polls
  let queue := { queue with polls := number + 1 }
  if queue.failingPolls.contains number then
    (.error (.connection "poll failed"), queue.note .pollFailed)
  else
    match QueueConsumer.poll max queue.inner with
    | (.error e, inner) => (.error e, { queue with inner }.note .pollFailed)
    | (.ok messages, inner) =>
      let handedOut := queue.handedOut ++ messages.map fun (m : Message) => (m.receipt, m.id)
      (.ok messages,
        { queue with inner, handedOut }.note
          (.polled (messages.map fun (m : Message) => (m.id, m.attempts))))

/-- A settlement by the given means. -/
def settle (means : String → κ → Except QueueError PUnit × κ) (entry : String → Bool → QueueAction)
    (receipt : String) (queue : ObservedQueue κ) : Except QueueError PUnit × ObservedQueue κ :=
  let number := queue.settlements
  let queue := { queue with settlements := number + 1 }
  let message := (queue.handedOut.lookup receipt).getD receipt
  if queue.failingSettlements.contains number then
    (.error (.ack "settlement failed"), queue.note (entry message true))
  else
    let (result, inner) := means receipt queue.inner
    (result, { queue with inner }.note (entry message result.toOption.isNone))

instance [QueueConsumer κ] : QueueConsumer (ObservedQueue κ) where
  poll := poll
  ack := settle QueueConsumer.ack .acked
  nack := settle QueueConsumer.nack .nacked

end ObservedQueue

end Horarium
