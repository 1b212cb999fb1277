/-
Module: Horarium.Proofs.QueueConservation
Purpose: What a queue in memory does with its messages, over every sequence of calls. The past of
  the queue is kept as a log of the calls with their answers, as its users see them, and the queue
  is held against the log: each published message is ready, in flight or acknowledged, and what is
  in flight is what was handed out under a receipt that nobody has settled.
Trusted boundary: none; no source of names gives one twice (`NameSource.injective`)
Main exports: QueueCall, QueueLog, QueueTrace, QueueTrace.Ledger, QueueTrace.Conserved,
  QueueTrace.conserved
-/
import Mathlib
import Horarium.Queue.Memory

namespace Horarium

/-- A call to a queue in memory. -/
inductive QueueCall where
  | publish (body : String)
  | poll (max : Nat)
  | ack (receipt : String)
  | nack (receipt : String)
deriving DecidableEq, Repr

/-- A call to a queue with its answer. -/
inductive QueueEvent where
  | published (id body : String)
  | polled (batch : List Message)
  | acked (receipt : String) (outcome : Except QueueError PUnit)
  | nacked (receipt : String) (outcome : Except QueueError PUnit)

/-- Makes a call, and answers what a log says about it. -/
def MemoryQueue.perform (queue : MemoryQueue) : QueueCall → QueueEvent × MemoryQueue
  | .publish body => let (id, queue) := queue.publish body; (.published id body, queue)
  | .poll max => let (batch, queue) := queue.poll max; (.polled batch, queue)
  | .ack receipt => let (outcome, queue) := queue.ack receipt; (.acked receipt outcome, queue)
  | .nack receipt => let (outcome, queue) := queue.nack receipt; (.nacked receipt outcome, queue)

namespace MemoryQueue

variable (receipts : NameSource)

/-- Deliveries are numbered one after the other. -/
theorem receipts_handOut (n : Nat) (messages : List Message) :
    (handOut receipts n messages).map (·.receipt)
      = (List.range messages.length).map fun k => receipts.nth (n + k + 1) := by
  induction messages generalizing n with
  | nil => rfl
  | cons message rest ih =>
    rw [handOut, List.map_cons, ih, List.length_cons, List.range_succ_eq_map, List.map_cons,
      List.map_map]
    congr 2
    funext k
    simp only [Function.comp_apply]
    congr 1
    omega

theorem ids_handOut (n : Nat) (messages : List Message) :
    (handOut receipts n messages).map (·.id) = messages.map (·.id) := by
  simpa [Function.comp_def] using congrArg (List.map Prod.fst) (map_handOut receipts n messages)

/-- A message that is handed out is the ready one with one more delivery. -/
theorem mem_handOut {receipts : NameSource} {n : Nat} {messages : List Message} {message : Message}
    (handed : message ∈ handOut receipts n messages) : ∃ ready ∈ messages,
      message.id = ready.id ∧ message.body = ready.body ∧
      message.attempts = ready.attempts + 1 := by
  induction messages generalizing n with
  | nil => cases handed
  | cons first rest ih =>
    rw [handOut, List.mem_cons] at handed
    cases handed with
    | inl now => exact ⟨first, List.mem_cons_self, by rw [now], by rw [now], by rw [now]⟩
    | inr later =>
      obtain ⟨ready, listed, same⟩ := ih later
      exact ⟨ready, List.mem_cons_of_mem _ listed, same⟩

end MemoryQueue

/-- The past of a queue, the latest event first. -/
abbrev QueueLog : Type := List QueueEvent

namespace QueueLog

/-- The ids and bodies of the messages that were published, in this order. -/
def published : QueueLog → List (String × String)
  | [] => []
  | .published id body :: log => published log ++ [(id, body)]
  | _ :: log => published log

/-- The messages that were handed out, in this order. -/
def deliveries : QueueLog → List Message
  | [] => []
  | .polled batch :: log => deliveries log ++ batch
  | _ :: log => deliveries log

/-- How many polls handed out the message with an id. -/
def attempts (id : String) : QueueLog → Nat
  | [] => 0
  | .polled batch :: log => attempts id log + if id ∈ batch.map (·.id) then 1 else 0
  | _ :: log => attempts id log

/-- The receipts that were settled, in this order. -/
def settled : QueueLog → List String
  | [] => []
  | .acked receipt (.ok _) :: log => settled log ++ [receipt]
  | .nacked receipt (.ok _) :: log => settled log ++ [receipt]
  | _ :: log => settled log

/-- The id of the message that was handed out under a receipt. -/
def idOf? (log : QueueLog) (receipt : String) : Option String :=
  ((deliveries log).find? (·.receipt = receipt)).map (·.id)

/-- The receipt under which the message with an id was handed out last. -/
def latest? (log : QueueLog) (id : String) : Option String :=
  ((deliveries log).filter (·.id = id)).getLast?.map (·.receipt)

/-- The ids of the messages that were acknowledged, in this order. -/
def acknowledged : QueueLog → List String
  | [] => []
  | .acked receipt (.ok _) :: log => acknowledged log ++ (idOf? log receipt).toList
  | _ :: log => acknowledged log

/-- The ids of the messages that became ready, as they were published or returned, in this order. -/
def arrivals : QueueLog → List String
  | [] => []
  | .published id _ :: log => arrivals log ++ [id]
  | .nacked receipt (.ok _) :: log => arrivals log ++ (idOf? log receipt).toList
  | _ :: log => arrivals log

/-- The one message became ready for the last time before the other did. -/
def EntersBefore (log : QueueLog) (id other : String) : Prop :=
  ∃ earlier later, arrivals log = earlier ++ id :: later ∧ id ∉ later ∧ other ∈ later

/-- Nothing was handed out under the receipt. -/
def Unknown (log : QueueLog) (receipt : String) : Prop :=
  receipt ∉ (deliveries log).map (·.receipt)

/-- The message that was handed out under the receipt has been handed out again. -/
def Stale (log : QueueLog) (receipt : String) : Prop :=
  ∃ id, idOf? log receipt = some id ∧ latest? log id ≠ some receipt

/-- The receipt has been settled. -/
def Used (log : QueueLog) (receipt : String) : Prop :=
  receipt ∈ settled log

/-- The receipt is good for nothing, or not any more. -/
def Void (log : QueueLog) (receipt : String) : Prop :=
  Unknown log receipt ∨ Stale log receipt ∨ Used log receipt

/-- A message that was never handed out has never been polled. -/
theorem attempts_eq_zero {log : QueueLog} {id : String}
    (undelivered : id ∉ (deliveries log).map (·.id)) :
    attempts id log = 0 := by
  induction log with
  | nil => rfl
  | cons event log ih =>
    cases event with
    | polled batch =>
      simp only [deliveries, List.map_append, List.mem_append, not_or] at undelivered
      rw [attempts, ih undelivered.1, if_neg undelivered.2]
    | published | acked | nacked => exact ih undelivered

end QueueLog

/-- A queue with its past. -/
structure QueueTrace where
  log : QueueLog
  queue : MemoryQueue

section Keys

variable {α κ : Type} [DecidableEq κ] {key : α → κ} {entries : List α} {entry : α}

/-- An entry is found under its key if no two entries share a key. -/
theorem find?_of_nodup_map (nodup : (entries.map key).Nodup) (listed : entry ∈ entries) :
    entries.find? (key · = key entry) = some entry := by
  obtain ⟨earlier, later, split⟩ := List.append_of_mem listed
  rw [split, List.map_append, List.nodup_append] at nodup
  rw [List.find?_eq_some_iff_append]
  refine ⟨by simp, earlier, later, split, fun other before => ?_⟩
  simpa using nodup.2.2 _ (List.mem_map_of_mem before) (key entry) (by simp)

/-- An entry makes up the difference if everything under its key is left out. -/
theorem perm_cons_filter_of_nodup_map (nodup : (entries.map key).Nodup) (listed : entry ∈ entries) :
    entries.Perm (entry :: entries.filter (key · != key entry)) := by
  obtain ⟨earlier, later, rfl⟩ := List.append_of_mem listed
  rw [List.map_append, List.map_cons, List.nodup_append, List.nodup_cons] at nodup
  have before : earlier.filter (key · != key entry) = earlier := by
    apply List.filter_eq_self.mpr
    intro other mem
    simpa using nodup.2.2 _ (List.mem_map_of_mem mem) (key entry) (by simp)
  have after : later.filter (key · != key entry) = later := by
    apply List.filter_eq_self.mpr
    intro other mem
    have apart : key other ≠ key entry := fun same => nodup.2.1.1 (same ▸ List.mem_map_of_mem mem)
    simpa using apart
  rw [List.filter_append, List.filter_cons_of_neg (by simp), before, after]
  exact List.perm_middle

end Keys

namespace QueueTrace

open QueueLog

/-- The queue after one more call. -/
def call (trace : QueueTrace) (call : QueueCall) : QueueTrace :=
  let (event, queue) := trace.queue.perform call
  ⟨event :: trace.log, queue⟩

/-- The queue after further calls, one after the other. -/
def calls (trace : QueueTrace) (more : List QueueCall) : QueueTrace :=
  more.foldl call trace

/-- A queue before its first message. -/
def start (ids receipts : NameSource) : QueueTrace := ⟨[], .empty ids receipts⟩

/-- The ids of the messages that are ready or in flight. -/
def held (trace : QueueTrace) : List String :=
  trace.queue.ready.map (·.id) ++ trace.queue.inFlight.map (·.id)

/-- The queue has lost and doubled nothing, and what it answers to further calls follows from its
past. -/
structure Conserved (trace : QueueTrace) : Prop where
  /-- No id is given to two messages. -/
  distinct : ((published trace.log).map (·.1)).Nodup
  /-- The published messages are those that are ready, in flight or acknowledged, each of them
  once. -/
  placed : (trace.held ++ acknowledged trace.log).Perm ((published trace.log).map (·.1))
  /-- A message that is held has the body that was published, and counts the polls that handed it
  out. -/
  intact : ∀ message ∈ trace.queue.ready ++ trace.queue.inFlight,
    (message.id, message.body) ∈ published trace.log ∧
    message.attempts = attempts message.id trace.log
  /-- The messages in flight are those that were handed out under a receipt that is not settled. -/
  flying : ∀ message, message ∈ trace.queue.inFlight ↔
    message ∈ deliveries trace.log ∧ message.receipt ∉ settled trace.log
  /-- A message that is handed out has the body that was published. -/
  genuine : ∀ message ∈ deliveries trace.log, (message.id, message.body) ∈ published trace.log
  /-- A message that was acknowledged was so under the receipt of its latest delivery. -/
  removed : ∀ id ∈ acknowledged trace.log,
    ∃ receipt, latest? trace.log id = some receipt ∧ .acked receipt (.ok ⟨⟩) ∈ trace.log
  /-- No other call removes a message. -/
  kept : ∀ call, ∀ id ∈ trace.held, id ∉ (trace.call call).held →
    ∃ receipt, call = .ack receipt ∧ latest? trace.log id = some receipt
  /-- An acknowledged message does not come back. -/
  gone : ∀ more, ∀ id ∈ acknowledged trace.log,
    id ∈ acknowledged (trace.calls more).log ∧ id ∉ (trace.calls more).held
  /-- No receipt is settled twice. -/
  once : (settled trace.log).Nodup
  /-- A receipt that is unknown, stale or used is refused, and nothing happens. -/
  refuses : ∀ receipt, Void trace.log receipt →
    let refusal := .error (.unknownReceipt receipt)
    trace.queue.perform (.ack receipt) = (.acked receipt refusal, trace.queue)
      ∧ trace.queue.perform (.nack receipt) = (.nacked receipt refusal, trace.queue)
  /-- Every other receipt is settled. -/
  settles : ∀ receipt, ¬ Void trace.log receipt →
    (trace.queue.perform (.ack receipt)).1 = .acked receipt (.ok ⟨⟩)
      ∧ (trace.queue.perform (.nack receipt)).1 = .nacked receipt (.ok ⟨⟩)
  /-- The messages are ready in the order in which they last became so. -/
  inTurn : (trace.queue.ready.map (·.id)).Pairwise (EntersBefore trace.log)
  /-- A poll hands out as many of the first messages as it may. -/
  hands : ∀ max, (trace.queue.poll max).1.length = min max trace.queue.ready.length
    ∧ (trace.queue.poll max).1.map (fun m => (m.id, m.body))
      = (trace.queue.ready.take max).map fun m => (m.id, m.body)

/-- What a poll hands out. -/
def batch (trace : QueueTrace) (max : Nat) : List Message :=
  MemoryQueue.handOut trace.queue.receipts trace.queue.delivered (trace.queue.ready.take max)

theorem call_poll (trace : QueueTrace) (max : Nat) : trace.call (.poll max) =
    ⟨.polled (trace.batch max) :: trace.log, { trace.queue with
      ready := trace.queue.ready.drop max
      inFlight := trace.queue.inFlight ++ trace.batch max
      delivered := trace.queue.delivered + (trace.batch max).length }⟩ :=
  rfl

theorem call_ack_of_none {trace : QueueTrace} {receipt : String}
    (unheld : trace.queue.held? receipt = none) : trace.call (.ack receipt)
      = ⟨.acked receipt (.error (.unknownReceipt receipt)) :: trace.log, trace.queue⟩ := by
  simp [call, MemoryQueue.perform, MemoryQueue.ack, unheld]

theorem call_ack_of_held {trace : QueueTrace} {receipt : String} {message : Message}
    (held : trace.queue.held? receipt = some message) : trace.call (.ack receipt)
      = ⟨.acked receipt (.ok ⟨⟩) :: trace.log, trace.queue.release receipt⟩ := by
  simp [call, MemoryQueue.perform, MemoryQueue.ack, held]

theorem call_nack_of_none {trace : QueueTrace} {receipt : String}
    (unheld : trace.queue.held? receipt = none) : trace.call (.nack receipt)
      = ⟨.nacked receipt (.error (.unknownReceipt receipt)) :: trace.log, trace.queue⟩ := by
  simp [call, MemoryQueue.perform, MemoryQueue.nack, unheld]

theorem call_nack_of_held {trace : QueueTrace} {receipt : String} {message : Message}
    (held : trace.queue.held? receipt = some message) : trace.call (.nack receipt)
      = ⟨.nacked receipt (.ok ⟨⟩) :: trace.log,
          { trace.queue.release receipt with ready := trace.queue.ready ++ [message] }⟩ := by
  simp [call, MemoryQueue.perform, MemoryQueue.nack, MemoryQueue.release, held]

/-- A poll takes the messages that it hands out from the front of the ready ones. -/
theorem ready_ids (trace : QueueTrace) (max : Nat) : trace.queue.ready.map (·.id)
    = (trace.batch max).map (·.id) ++ (trace.queue.ready.drop max).map (·.id) := by
  rw [batch, MemoryQueue.ids_handOut, ← List.map_append, List.take_append_drop]

/-- The queue agrees with its past. -/
structure Ledger (trace : QueueTrace) : Prop where
  ids : (published trace.log).map (·.1) = (List.range trace.queue.published).map fun n =>
    trace.queue.ids.nth (n + 1)
  receipts : (deliveries trace.log).map (·.receipt)
    = (List.range trace.queue.delivered).map fun n => trace.queue.receipts.nth (n + 1)
  pending : trace.queue.inFlight = (deliveries trace.log).filter (·.receipt ∉ settled trace.log)
  issued : settled trace.log ⊆ (deliveries trace.log).map (·.receipt)
  once : (settled trace.log).Nodup
  genuine : ∀ message ∈ deliveries trace.log, (message.id, message.body) ∈ published trace.log
  intact : ∀ message ∈ trace.queue.ready ++ trace.queue.inFlight,
    (message.id, message.body) ∈ published trace.log ∧
    message.attempts = attempts message.id trace.log
  placed : (trace.held ++ acknowledged trace.log).Perm ((published trace.log).map (·.1))
  inTurn : arrivals trace.log = (deliveries trace.log).map (·.id) ++ trace.queue.ready.map (·.id)
  /-- A message is handed out again only once its earlier receipts are settled. -/
  again : (deliveries trace.log).Pairwise fun earlier later =>
    earlier.id = later.id → earlier.receipt ∈ settled trace.log
  removed : ∀ id ∈ acknowledged trace.log,
    ∃ receipt, latest? trace.log id = some receipt ∧ .acked receipt (.ok ⟨⟩) ∈ trace.log

variable {trace : QueueTrace} {message : Message} {receipt : String}

namespace Ledger

theorem distinct (ledger : trace.Ledger) : ((published trace.log).map (·.1)).Nodup := by
  rw [ledger.ids]
  exact List.nodup_range.map fun n m same => Nat.succ.inj (trace.queue.ids.injective same)

/-- No receipt stands for two deliveries. -/
theorem receipts_nodup (ledger : trace.Ledger) :
    ((deliveries trace.log).map (·.receipt)).Nodup := by
  rw [ledger.receipts]
  exact List.nodup_range.map fun n m same => Nat.succ.inj (trace.queue.receipts.injective same)

/-- No message is in two places. -/
theorem placed_nodup (ledger : trace.Ledger) : (trace.held ++ acknowledged trace.log).Nodup :=
  ledger.placed.nodup_iff.mpr ledger.distinct

theorem mem_inFlight (ledger : trace.Ledger) : message ∈ trace.queue.inFlight ↔
    message ∈ deliveries trace.log ∧ message.receipt ∉ settled trace.log := by
  rw [ledger.pending]
  simp

/-- A message in flight is there as it was handed out last. -/
theorem latest_of_inFlight (ledger : trace.Ledger) (flying : message ∈ trace.queue.inFlight) :
    latest? trace.log message.id = some message.receipt := by
  obtain ⟨delivered, unsettled⟩ := ledger.mem_inFlight.mp flying
  obtain ⟨earlier, later, split⟩ := List.append_of_mem delivered
  have none_later : later.filter (·.id = message.id) = [] := by
    apply List.filter_eq_nil_iff.mpr
    intro next listed
    have pairwise := ledger.again
    rw [split, List.pairwise_append, List.pairwise_cons] at pairwise
    have settled_then := pairwise.2.1.1 next listed
    simpa using fun same : next.id = message.id => unsettled (settled_then same.symm)
  simp [latest?, split, none_later]

/-- A receipt stands for the message that was handed out under it. -/
theorem idOf_of_delivered (ledger : trace.Ledger) (delivered : message ∈ deliveries trace.log) :
    idOf? trace.log message.receipt = some message.id := by
  rw [idOf?, find?_of_nodup_map ledger.receipts_nodup delivered, Option.map_some]

theorem inFlight_nodup (ledger : trace.Ledger) : (trace.queue.inFlight.map (·.receipt)).Nodup := by
  rw [ledger.pending]
  exact ledger.receipts_nodup.sublist (List.filter_sublist.map _)

theorem held?_eq_some_iff (ledger : trace.Ledger) : trace.queue.held? receipt = some message ↔
    message ∈ deliveries trace.log ∧ receipt ∉ settled trace.log ∧ message.receipt = receipt := by
  constructor
  · intro held
    have flying := ledger.mem_inFlight.mp (List.mem_of_find?_eq_some held)
    have same : message.receipt = receipt := by simpa using List.find?_some held
    exact ⟨flying.1, same ▸ flying.2, same⟩
  · rintro ⟨delivered, unsettled, rfl⟩
    exact find?_of_nodup_map ledger.inFlight_nodup (ledger.mem_inFlight.mpr ⟨delivered, unsettled⟩)

/-- What is not held was never handed out, or is settled. -/
theorem held?_eq_none_iff (ledger : trace.Ledger) : trace.queue.held? receipt = none ↔
    Unknown trace.log receipt ∨ Used trace.log receipt := by
  rw [Option.eq_none_iff_forall_ne_some]
  simp only [ne_eq, ledger.held?_eq_some_iff, Unknown, Used, List.mem_map]
  grind

/-- Only a used receipt can be stale. -/
theorem used_of_stale (ledger : trace.Ledger) (stale : Stale trace.log receipt) :
    Used trace.log receipt := by
  by_contra unused
  obtain ⟨id, named, later⟩ := stale
  obtain ⟨message, found, rfl⟩ := Option.map_eq_some_iff.mp named
  have same : message.receipt = receipt := by simpa using List.find?_some found
  subst same
  have flying := ledger.mem_inFlight.mpr ⟨List.mem_of_find?_eq_some found, unused⟩
  exact later (ledger.latest_of_inFlight flying)

theorem start (ids receipts : NameSource) : (QueueTrace.start ids receipts).Ledger where
  ids := rfl
  receipts := rfl
  pending := rfl
  issued := List.nil_subset _
  once := List.nodup_nil
  genuine := by intro message listed; cases listed
  intact := by intro message listed; cases listed
  placed := List.Perm.refl _
  inTurn := rfl
  again := List.Pairwise.nil
  removed := by intro id listed; cases listed

/-- What was acknowledged stays so, whatever is logged next. -/
theorem removed_cons {id : String} (ledger : trace.Ledger) (event : QueueEvent)
    (listed : id ∈ acknowledged trace.log) :
    ∃ receipt, latest? trace.log id = some receipt ∧
      .acked receipt (.ok ⟨⟩) ∈ event :: trace.log := by
  obtain ⟨receipt, latest, acked⟩ := ledger.removed id listed
  exact ⟨receipt, latest, List.mem_cons_of_mem event acked⟩

/-- A message that is published gets an id that no message has. -/
theorem unpublished (ledger : trace.Ledger) :
    trace.queue.ids.nth (trace.queue.published + 1) ∉ (published trace.log).map (·.1) := by
  rw [ledger.ids, List.mem_map]
  rintro ⟨n, listed, same⟩
  have below := List.mem_range.mp listed
  have equal := trace.queue.ids.injective same
  omega

theorem publish (ledger : trace.Ledger) (body : String) : (trace.call (.publish body)).Ledger := by
  have undelivered : trace.queue.ids.nth (trace.queue.published + 1)
      ∉ (deliveries trace.log).map (·.id) := by
    intro delivered
    obtain ⟨message, listed, same⟩ := List.mem_map.mp delivered
    have known : message.id ∈ (published trace.log).map (·.1) :=
      List.mem_map_of_mem (ledger.genuine message listed)
    exact ledger.unpublished (same ▸ known)
  refine { ledger with
    ids := ?_, genuine := ?_, intact := ?_, placed := ?_, inTurn := ?_, removed := ?_ }
  · simp [call, MemoryQueue.perform, MemoryQueue.publish, published, ledger.ids, List.range_succ]
  · intro message listed
    exact List.mem_append_left _ (ledger.genuine message listed)
  · intro message listed
    simp only [call, MemoryQueue.perform, MemoryQueue.publish, List.mem_append,
      List.mem_singleton] at listed
    rcases listed with (ready | rfl) | flying
    · exact (ledger.intact message (List.mem_append_left _ ready)).imp_left (List.mem_append_left _)
    · exact ⟨List.mem_append_right _ (List.mem_singleton_self _),
        (attempts_eq_zero undelivered).symm⟩
    · exact (ledger.intact message (List.mem_append_right _ flying)).imp_left
        (List.mem_append_left _)
  · apply List.perm_iff_count.mpr
    intro id
    have before := ledger.placed.count_eq id
    simp only [call, MemoryQueue.perform, MemoryQueue.publish, held, acknowledged, published,
      List.map_append, List.map_cons, List.map_nil, List.count_append] at before ⊢
    omega
  · simp [call, MemoryQueue.perform, MemoryQueue.publish, arrivals, deliveries, ledger.inTurn]
  · intro id listed
    exact ledger.removed_cons _ listed

theorem receipts_of_poll (ledger : trace.Ledger) (max : Nat) :
    (deliveries trace.log ++ trace.batch max).map (·.receipt)
      = (List.range (trace.queue.delivered + (trace.batch max).length)).map fun n =>
        trace.queue.receipts.nth (n + 1) := by
  rw [List.map_append, ledger.receipts, List.range_add, List.map_append, List.map_map, batch,
    MemoryQueue.receipts_handOut, MemoryQueue.length_handOut]
  rfl

/-- What is handed out gets receipts that were never settled. -/
theorem unsettled_of_batch (ledger : trace.Ledger) {max : Nat}
    (handed : message ∈ trace.batch max) :
    message.receipt ∉ settled trace.log := by
  intro settledBefore
  have nodup : ((deliveries trace.log ++ trace.batch max).map (·.receipt)).Nodup := by
    rw [ledger.receipts_of_poll]
    exact List.nodup_range.map fun n m same => Nat.succ.inj (trace.queue.receipts.injective same)
  rw [List.map_append, List.nodup_append] at nodup
  exact nodup.2.2 _ (ledger.issued settledBefore) _ (List.mem_map_of_mem handed) rfl

/-- No message is handed out twice in a batch, and none that is handed out is anywhere else. -/
theorem moved (ledger : trace.Ledger) (max : Nat) : ((trace.batch max).map (·.id)).Nodup
    ∧ ∀ id ∈ (trace.batch max).map (·.id), id ∉ (trace.queue.ready.drop max).map (·.id)
      ∧ id ∉ trace.queue.inFlight.map (·.id) ∧ id ∉ acknowledged trace.log := by
  have placed := ledger.placed_nodup
  rw [held, trace.ready_ids max, List.append_assoc, List.append_assoc] at placed
  obtain ⟨nodup, -, apart⟩ := List.nodup_append.mp placed
  refine ⟨nodup, fun id handed => ?_⟩
  have elsewhere : id ∉ (trace.queue.ready.drop max).map (·.id)
      ++ (trace.queue.inFlight.map (·.id) ++ acknowledged trace.log) :=
    fun listed => apart id handed id listed rfl
  simpa only [List.mem_append, not_or] using elsewhere

/-- A message is handed out as it was published, and counts one poll more. -/
theorem carried (ledger : trace.Ledger) {max : Nat} (handed : message ∈ trace.batch max) :
    (message.id, message.body) ∈ published trace.log
      ∧ message.attempts = attempts message.id trace.log + 1 := by
  obtain ⟨ready, listed, id, body, count⟩ := MemoryQueue.mem_handOut handed
  have before := ledger.intact ready (List.mem_append_left _ (List.mem_of_mem_take listed))
  rw [id, body, count]
  exact before.imp_right (congrArg (· + 1))

/-- A message that a poll leaves where it is has been polled as often as before. -/
theorem intact_of_poll (ledger : trace.Ledger) {max : Nat}
    (stays : message ∈ trace.queue.ready.drop max ++ trace.queue.inFlight) :
    (message.id, message.body) ∈ published trace.log
      ∧ message.attempts = attempts message.id (.polled (trace.batch max) :: trace.log) := by
  have unhanded : message.id ∉ (trace.batch max).map (·.id) := by
    intro handed
    obtain ⟨undropped, unflying, -⟩ := (ledger.moved max).2 _ handed
    cases List.mem_append.mp stays with
    | inl ready => exact undropped (List.mem_map_of_mem ready)
    | inr flying => exact unflying (List.mem_map_of_mem flying)
  rw [attempts, if_neg unhanded]
  apply ledger.intact
  exact (List.append_sublist_append_right _ |>.mpr (List.drop_sublist max _)).mem stays

/-- Acknowledged messages are not handed out. -/
theorem latest_of_poll (ledger : trace.Ledger) {max : Nat} {id : String}
    (listed : id ∈ acknowledged trace.log) :
    latest? (.polled (trace.batch max) :: trace.log) id = latest? trace.log id := by
  have none_handed : (trace.batch max).filter (·.id = id) = [] := by
    apply List.filter_eq_nil_iff.mpr
    intro message handed
    have unlisted := ((ledger.moved max).2 _ (List.mem_map_of_mem handed)).2.2
    simpa using fun same : message.id = id => unlisted (same ▸ listed)
  rw [latest?, latest?, deliveries, List.filter_append, none_handed, List.append_nil]

theorem poll (ledger : trace.Ledger) (max : Nat) : (trace.call (.poll max)).Ledger := by
  obtain ⟨batch_nodup, untouched⟩ := ledger.moved max
  rw [call_poll]
  constructor
  case ids => exact ledger.ids
  case receipts => exact ledger.receipts_of_poll max
  case pending =>
    change _ = (deliveries trace.log ++ trace.batch max).filter (·.receipt ∉ settled trace.log)
    rw [List.filter_append, ← ledger.pending, List.filter_eq_self.mpr]
    intro message handed
    simpa using ledger.unsettled_of_batch handed
  case issued =>
    intro receipt listed
    simp only [deliveries, List.map_append]
    exact List.mem_append_left _ (ledger.issued listed)
  case once => exact ledger.once
  case genuine =>
    intro message listed
    cases List.mem_append.mp listed with
    | inl earlier => exact ledger.genuine message earlier
    | inr handed => exact (ledger.carried handed).1
  case intact =>
    intro message listed
    rw [← List.append_assoc, List.mem_append] at listed
    cases listed with
    | inl stays => exact ledger.intact_of_poll stays
    | inr handed =>
      rw [attempts, if_pos (List.mem_map_of_mem handed)]
      exact ledger.carried handed
  case placed =>
    apply List.perm_iff_count.mpr
    intro id
    have before := ledger.placed.count_eq id
    simp only [held, acknowledged, published, trace.ready_ids max, List.map_append,
      List.count_append] at before ⊢
    omega
  case inTurn =>
    simp only [arrivals, deliveries, List.map_append, List.append_assoc]
    rw [ledger.inTurn, trace.ready_ids max]
  case again =>
    simp only [deliveries, settled]
    refine List.pairwise_append.mpr ⟨ledger.again, ?_, ?_⟩
    · exact (List.pairwise_map.mp batch_nodup).imp fun apart same => absurd same apart
    · intro earlier delivered later handed same
      by_contra unsettled
      have flying := ledger.mem_inFlight.mpr ⟨delivered, unsettled⟩
      exact (untouched _ (List.mem_map_of_mem handed)).2.1 (same ▸ List.mem_map_of_mem flying)
  case removed =>
    intro id listed
    rw [ledger.latest_of_poll listed]
    exact ledger.removed_cons _ listed

/-- What is in flight after a receipt is settled. -/
theorem pending_release (ledger : trace.Ledger) (receipt : String) :
    (trace.queue.release receipt).inFlight
      = (deliveries trace.log).filter (·.receipt ∉ settled trace.log ++ [receipt]) := by
  rw [MemoryQueue.release, ledger.pending, List.filter_filter]
  apply List.filter_congr
  intro message _
  simp only [List.mem_append, List.mem_singleton, not_or, Bool.decide_and, bne, decide_not]
  rw [Bool.and_comm]
  rfl

/-- A message in flight and those that are so without its receipt are all that are in flight. -/
theorem ids_release (ledger : trace.Ledger) (flying : message ∈ trace.queue.inFlight) :
    (trace.queue.inFlight.map (·.id)).Perm
      ([message.id] ++ (trace.queue.release message.receipt).inFlight.map (·.id)) :=
  (perm_cons_filter_of_nodup_map ledger.inFlight_nodup flying).map (·.id)

theorem issued_concat (ledger : trace.Ledger) (delivered : message ∈ deliveries trace.log) :
    settled trace.log ++ [message.receipt] ⊆ (deliveries trace.log).map (·.receipt) :=
  List.append_subset.mpr ⟨ledger.issued, by simpa using ⟨message, delivered, rfl⟩⟩

theorem once_concat (ledger : trace.Ledger) (unsettled : receipt ∉ settled trace.log) :
    (settled trace.log ++ [receipt]).Nodup := by
  simpa using ledger.once.concat unsettled

theorem ack (ledger : trace.Ledger) (receipt : String) : (trace.call (.ack receipt)).Ledger := by
  cases found : trace.queue.held? receipt with
  | none =>
    rw [call_ack_of_none found]
    exact { ledger with removed := fun _ listed => ledger.removed_cons _ listed }
  | some message =>
    obtain ⟨delivered, unsettled, rfl⟩ := ledger.held?_eq_some_iff.mp found
    have flying := ledger.mem_inFlight.mpr ⟨delivered, unsettled⟩
    have named := ledger.idOf_of_delivered delivered
    rw [call_ack_of_held found]
    refine { ledger with
      pending := ledger.pending_release _
      issued := ledger.issued_concat delivered
      once := ledger.once_concat unsettled
      intact := ?_, placed := ?_, again := ?_, removed := ?_ }
    · intro other listed
      apply ledger.intact
      exact (List.append_sublist_append_left _ |>.mpr List.filter_sublist).mem listed
    · apply List.perm_iff_count.mpr
      intro id
      have before := ledger.placed.count_eq id
      have split := (ledger.ids_release flying).count_eq id
      have ready : (trace.queue.release message.receipt).ready = trace.queue.ready := rfl
      simp only [held, acknowledged, published, named, ready, Option.toList_some, List.count_append]
        at before split ⊢
      omega
    · exact ledger.again.imp fun settledFirst same => List.mem_append_left _ (settledFirst same)
    · intro id listed
      rw [acknowledged, named, Option.toList_some, List.mem_append, List.mem_singleton] at listed
      rcases listed with earlier | rfl
      · exact ledger.removed_cons _ earlier
      · exact ⟨message.receipt, ledger.latest_of_inFlight flying, List.mem_cons_self⟩

theorem nack (ledger : trace.Ledger) (receipt : String) : (trace.call (.nack receipt)).Ledger := by
  cases found : trace.queue.held? receipt with
  | none =>
    rw [call_nack_of_none found]
    exact { ledger with removed := fun _ listed => ledger.removed_cons _ listed }
  | some message =>
    obtain ⟨delivered, unsettled, rfl⟩ := ledger.held?_eq_some_iff.mp found
    have flying := ledger.mem_inFlight.mpr ⟨delivered, unsettled⟩
    have named := ledger.idOf_of_delivered delivered
    rw [call_nack_of_held found]
    refine { ledger with
      pending := ledger.pending_release _
      issued := ledger.issued_concat delivered
      once := ledger.once_concat unsettled
      intact := ?_, placed := ?_, inTurn := ?_, again := ?_, removed := ?_ }
    · intro other listed
      apply ledger.intact
      simp only [List.mem_append, List.mem_singleton] at listed ⊢
      rcases listed with (ready | rfl) | left
      · exact .inl ready
      · exact .inr flying
      · exact .inr (List.mem_of_mem_filter left)
    · apply List.perm_iff_count.mpr
      intro id
      have before := ledger.placed.count_eq id
      have split := (ledger.ids_release flying).count_eq id
      simp only [held, acknowledged, published, List.map_append, List.map_cons, List.map_nil,
        List.count_append] at before split ⊢
      omega
    · simp only [arrivals, deliveries, named, ledger.inTurn, Option.toList_some, List.map_append,
        List.map_cons, List.map_nil, List.append_assoc]
    · exact ledger.again.imp fun settledFirst same => List.mem_append_left _ (settledFirst same)
    · intro id listed
      exact ledger.removed_cons _ listed

/-- Every call leaves the queue in agreement with its past. -/
theorem step (ledger : trace.Ledger) (call : QueueCall) : (trace.call call).Ledger := by
  cases call with
  | publish body => exact ledger.publish body
  | poll max => exact ledger.poll max
  | ack receipt => exact ledger.ack receipt
  | nack receipt => exact ledger.nack receipt

theorem run (ledger : trace.Ledger) (more : List QueueCall) : (trace.calls more).Ledger := by
  induction more generalizing trace with
  | nil => exact ledger
  | cons call rest ih => exact ih (ledger.step call)

end Ledger

/-- An acknowledged message stays so. -/
theorem acknowledged_subset_call (trace : QueueTrace) (call : QueueCall) :
    acknowledged trace.log ⊆ acknowledged (trace.call call).log := by
  cases call with
  | publish body => exact List.Subset.refl _
  | poll max => exact List.Subset.refl _
  | ack receipt =>
    cases found : trace.queue.held? receipt with
    | none => rw [call_ack_of_none found]; exact List.Subset.refl _
    | some message => rw [call_ack_of_held found]; exact List.subset_append_left _ _
  | nack receipt =>
    cases found : trace.queue.held? receipt with
    | none => rw [call_nack_of_none found]; exact List.Subset.refl _
    | some message => rw [call_nack_of_held found]; exact List.Subset.refl _

theorem acknowledged_subset_calls (trace : QueueTrace) (more : List QueueCall) :
    acknowledged trace.log ⊆ acknowledged (trace.calls more).log := by
  induction more generalizing trace with
  | nil => exact List.Subset.refl _
  | cons call rest ih => exact List.Subset.trans (trace.acknowledged_subset_call call) (ih _)

/-- A published message stays so. -/
theorem published_subset_call (trace : QueueTrace) (call : QueueCall) :
    published trace.log ⊆ published (trace.call call).log := by
  cases call with
  | publish body => exact List.subset_append_left _ _
  | poll max | ack receipt | nack receipt => exact List.Subset.refl _

/-- What a call adds to the acknowledged messages is the one whose receipt it acknowledges. -/
theorem Ledger.of_acknowledged {id : String} {call : QueueCall} (ledger : trace.Ledger)
    (now : id ∈ acknowledged (trace.call call).log) (before : id ∉ acknowledged trace.log) :
    ∃ receipt, call = .ack receipt ∧ latest? trace.log id = some receipt := by
  cases call with
  | publish body => exact absurd now before
  | poll max => exact absurd now before
  | nack receipt =>
    cases found : trace.queue.held? receipt with
    | none => rw [call_nack_of_none found] at now; exact absurd now before
    | some message => rw [call_nack_of_held found] at now; exact absurd now before
  | ack receipt =>
    cases found : trace.queue.held? receipt with
    | none => rw [call_ack_of_none found] at now; exact absurd now before
    | some message =>
      obtain ⟨delivered, unsettled, rfl⟩ := ledger.held?_eq_some_iff.mp found
      rw [call_ack_of_held found, acknowledged, ledger.idOf_of_delivered delivered,
        List.mem_append] at now
      have same : id = message.id := by simpa using now.resolve_left before
      rw [same]
      exact ⟨_, rfl, ledger.latest_of_inFlight (ledger.mem_inFlight.mpr ⟨delivered, unsettled⟩)⟩

/-- Ids that entered last, each of them once, entered in their order. -/
theorem pairwise_entersBefore {log : QueueLog} {waiting : List String} (nodup : waiting.Nodup) :
    ∀ gone, arrivals log = gone ++ waiting → waiting.Pairwise (EntersBefore log) := by
  induction waiting with
  | nil => exact fun _ _ => List.Pairwise.nil
  | cons id rest ih =>
    intro gone entered
    obtain ⟨once, nodup_rest⟩ := List.nodup_cons.mp nodup
    refine List.pairwise_cons.mpr ⟨fun other later => ⟨gone, rest, entered, once, later⟩, ?_⟩
    exact ih nodup_rest (gone ++ [id]) (by simpa using entered)

/-- A queue that agrees with its past conserves its messages. -/
theorem Ledger.conserves (ledger : trace.Ledger) : trace.Conserved := by
  have placed_nodup := ledger.placed_nodup
  constructor
  case distinct => exact ledger.distinct
  case placed => exact ledger.placed
  case intact => exact ledger.intact
  case flying => exact fun message => ledger.mem_inFlight
  case genuine => exact ledger.genuine
  case removed => exact ledger.removed
  case once => exact ledger.once
  case kept =>
    intro call id before after
    have unacknowledged : id ∉ acknowledged trace.log := fun listed =>
      (List.nodup_append.mp placed_nodup).2.2 id before id listed rfl
    have listed : id ∈ (published trace.log).map (·.1) :=
      ledger.placed.mem_iff.mp (List.mem_append_left _ before)
    have still := List.map_subset (·.1) (trace.published_subset_call call) listed
    have acknowledged :=
      (List.mem_append.mp ((ledger.step call).placed.mem_iff.mpr still)).resolve_left after
    exact ledger.of_acknowledged acknowledged unacknowledged
  case gone =>
    intro more id listed
    have still := trace.acknowledged_subset_calls more listed
    refine ⟨still, fun back => ?_⟩
    exact (List.nodup_append.mp (ledger.run more).placed_nodup).2.2 id back id still rfl
  case refuses =>
    intro receipt dead
    have unheld : trace.queue.held? receipt = none := by
      apply ledger.held?_eq_none_iff.mpr
      rcases dead with unknown | stale | used
      · exact .inl unknown
      · exact .inr (ledger.used_of_stale stale)
      · exact .inr used
    simp [MemoryQueue.perform, MemoryQueue.ack, MemoryQueue.nack, unheld]
  case settles =>
    intro receipt alive
    have held : trace.queue.held? receipt ≠ none := by
      intro unheld
      exact alive ((ledger.held?_eq_none_iff.mp unheld).imp_right .inr)
    obtain ⟨message, found⟩ := Option.ne_none_iff_exists'.mp held
    simp [MemoryQueue.perform, MemoryQueue.ack, MemoryQueue.nack, found]
  case inTurn =>
    have held_nodup := (List.nodup_append.mp placed_nodup).1
    exact pairwise_entersBefore (List.nodup_append.mp held_nodup).1 _ ledger.inTurn
  case hands =>
    intro max
    exact ⟨by simp [MemoryQueue.poll, MemoryQueue.length_handOut], MemoryQueue.map_handOut _ _ _⟩

/-- A queue in memory conserves its messages, whatever names it draws and whatever calls are made to
it. -/
theorem conserved (ids receipts : NameSource) (calls : List QueueCall) :
    ((start ids receipts).calls calls).Conserved :=
  ((Ledger.start ids receipts).run calls).conserves

/-- A message that is returned waits behind those that were ready already. -/
example : ((start (.numbered "m") (.numbered "r")).calls
      [.publish "a", .publish "b", .poll 1, .nack "r1", .poll 2]).queue.inFlight
    = [⟨"m2", "b", "r2", 1⟩, ⟨"m1", "a", "r3", 2⟩] := by
  decide +kernel

end QueueTrace

end Horarium
