/-
Module: Horarium.Queue.Memory
Purpose: A queue in memory. Messages are ready in the order in which they entered; one that is
  handed out is in flight until its receipt is settled. Returned messages go to the end of the ready
  ones. Messages and deliveries are numbered, and ids and receipts are names that are drawn by these
  numbers.
Trusted boundary: human-reviewed definitions; where names of messages and receipts come from is a
  parameter (`NameSource`)
Main exports: NameSource, NameSource.numbered, MemoryQueue, MemoryQueue.empty, MemoryQueue.publish,
  MemoryQueue.handOut, MemoryQueue.poll
-/
import Horarium.Queue.Message
import Horarium.Text.Numeral

namespace Horarium

/-- Where new names come from, one for each number. No name is given twice. -/
structure NameSource where
  nth : Nat → String
  injective : Function.Injective nth

/-- A word followed by the number. -/
def NameSource.numbered (word : String) : NameSource where
  nth n := word ++ String.ofList (Text.decimal n)
  injective n m same := by
    have digits : Text.decimal n = Text.decimal m :=
      String.ofList_injective ((String.append_right_inj word).mp same)
    have number := congrArg (Text.readDigits? 0) digits
    simpa only [Text.readDigits?_decimal, Option.some.injEq] using number

/-- A queue in memory. -/
structure MemoryQueue where
  ids : NameSource
  receipts : NameSource
  ready : List Message
  inFlight : List Message
  published : Nat
  delivered : Nat

namespace MemoryQueue

/-- The queue before its first message. -/
def empty (ids : NameSource := .numbered "m#") (receipts : NameSource := .numbered "r#") :
    MemoryQueue :=
  ⟨ids, receipts, [], [], 0, 0⟩

/-- The queue with one more message, and the id of the message. -/
def publish (queue : MemoryQueue) (body : String) : String × MemoryQueue :=
  let n := queue.published + 1
  let message : Message := ⟨queue.ids.nth n, body, "", 0⟩
  (message.id, { queue with ready := queue.ready ++ [message], published := n })

/-- Messages handed out one after the other, the first as the delivery that follows the given
number. -/
def handOut (receipts : NameSource) : Nat → List Message → List Message
  | _, [] => []
  | n, message :: rest =>
    { message with receipt := receipts.nth (n + 1), attempts := message.attempts + 1 }
      :: handOut receipts (n + 1) rest

theorem length_handOut (receipts : NameSource) (n : Nat) (messages : List Message) :
    (handOut receipts n messages).length = messages.length := by
  induction messages generalizing n with
  | nil => rfl
  | cons message rest ih => exact congrArg (· + 1) (ih (n + 1))

/-- Handing out neither reorders messages nor touches what they carry. -/
theorem map_handOut (receipts : NameSource) (n : Nat) (messages : List Message) :
    (handOut receipts n messages).map (fun m => (m.id, m.body)) =
      messages.map fun m => (m.id, m.body) := by
  induction messages generalizing n with
  | nil => rfl
  | cons message rest ih => exact congrArg (_ :: ·) (ih (n + 1))

/-- Takes up to `max` of the ready messages. -/
def poll (max : Nat) (queue : MemoryQueue) : List Message × MemoryQueue :=
  let batch := handOut queue.receipts queue.delivered (queue.ready.take max)
  (batch, { queue with
    ready := queue.ready.drop max
    inFlight := queue.inFlight ++ batch
    delivered := queue.delivered + batch.length })

/-- The message in flight under a receipt. -/
def held? (queue : MemoryQueue) (receipt : String) : Option Message :=
  queue.inFlight.find? (·.receipt = receipt)

/-- The queue without the message in flight under a receipt. -/
def release (queue : MemoryQueue) (receipt : String) : MemoryQueue :=
  { queue with inFlight := queue.inFlight.filter (·.receipt != receipt) }

/-- Removes a message for good. -/
def ack (receipt : String) (queue : MemoryQueue) : Except QueueError PUnit × MemoryQueue :=
  match queue.held? receipt with
  | none => (.error (.unknownReceipt receipt), queue)
  | some _ => (.ok ⟨⟩, queue.release receipt)

/-- Puts a message back at the end of the ready ones. -/
def nack (receipt : String) (queue : MemoryQueue) : Except QueueError PUnit × MemoryQueue :=
  match queue.held? receipt with
  | none => (.error (.unknownReceipt receipt), queue)
  | some message =>
    let queue := queue.release receipt
    (.ok ⟨⟩, { queue with ready := queue.ready ++ [message] })

instance : QueueConsumer MemoryQueue where
  poll max queue := let (batch, queue) := queue.poll max; (.ok batch, queue)
  ack := ack
  nack := nack

/-- How many messages are ready and how many in flight. -/
def depth (queue : MemoryQueue) : Nat × Nat := (queue.ready.length, queue.inFlight.length)

/-- The state of the queue: it is connected, and counts ready messages and those in flight. -/
def health (queue : MemoryQueue) : QueueHealth :=
  ⟨true, some (queue.ready.length + queue.inFlight.length), "memory"⟩

end MemoryQueue

end Horarium
