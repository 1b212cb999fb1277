/-
Module: Horarium.Queue.Message
Purpose: Messages of a queue, and what a consumer of one can be asked. Delivery is at least once: a
  message that is handed out waits for its receipt to be settled, which removes it or puts it back.
Trusted boundary: human-reviewed definitions
Main exports: Message, QueueError, QueueHealth, QueueHealth.toText, QueueConsumer
-/
import Horarium.Json.Value

namespace Horarium

/-- A message as it is handed out: its id, its body, the receipt of this delivery, and how often it
has been delivered. -/
structure Message where
  id : String
  body : String
  receipt : String
  attempts : Nat
deriving DecidableEq, Repr

/-- The written form of a message. -/
def Message.toJson (m : Message) : Json :=
  .object [("id", .text m.id), ("receipt", .text m.receipt), ("body", .text m.body),
    ("attempts", .number m.attempts)]

/-- Why a queue does not do what it is asked. -/
inductive QueueError where
  | connection (detail : String)
  | parse (detail : String)
  | ack (detail : String)
  | unknownReceipt (receipt : String)
deriving DecidableEq, Repr

/-- The wording of a queue's refusal. -/
def QueueError.message : QueueError → String
  | .connection detail => s!"connection error: {detail}"
  | .parse detail => s!"message parse error: {detail}"
  | .ack detail => s!"acknowledge error: {detail}"
  | .unknownReceipt receipt => s!"unknown receipt handle: {receipt}"

/-- The state of a queue, as it is shown to whoever watches it. -/
structure QueueHealth where
  connected : Bool
  messageCount : Option Nat
  provider : String
deriving DecidableEq, Repr

namespace QueueHealth

/-- The written form. -/
def toJson (h : QueueHealth) : Json :=
  .object [("connected", .bool h.connected),
    ("approximate_message_count", Json.ofOption .number h.messageCount),
    ("provider", .text h.provider)]

/-- The state in one line. -/
def toText (h : QueueHealth) : String :=
  let count := match h.messageCount with
    | some n => s!"Some({n})"
    | none => "None"
  "QueueHealth \x7b connected: " ++ toString h.connected ++ ", messages: " ++ count ++
    ", provider: " ++ h.provider ++ " \x7d"

end QueueHealth

/-- A queue as its consumers see it: up to so many messages are taken, and receipts are settled,
which either removes the message for good or returns it. -/
class QueueConsumer (κ : Type) where
  poll : Nat → κ → Except QueueError (List Message) × κ
  ack : String → κ → Except QueueError PUnit × κ
  nack : String → κ → Except QueueError PUnit × κ

end Horarium
