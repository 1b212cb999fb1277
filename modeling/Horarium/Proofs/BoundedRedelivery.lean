/-
Module: Horarium.Proofs.BoundedRedelivery
Purpose: The listener works a queue off, whatever the store and the engine do. A batch settles every
  message that it takes, so nothing stays in flight, and it returns a message only if that may be
  tried again. Each message has an allowance of further deliveries, and every delivery uses it up by
  one; the allowances of all messages that are ready bound the batches that can find any.
Trusted boundary: none
Main exports: Listener.Recurs, Listener.faced, Listener.allowances, Listener.WorksOff,
  Listener.registry_worksOff, Listener.processBatch_rested
-/
import Horarium.Proofs.QueueConservation
import Horarium.Server.App

namespace Horarium

/-- A queue whose past is kept logs what its consumers do. -/
instance : QueueConsumer QueueTrace where
  poll max trace := (.ok (trace.batch max), trace.call (.poll max))
  ack receipt trace := ((trace.queue.ack receipt).1, trace.call (.ack receipt))
  nack receipt trace := ((trace.queue.nack receipt).1, trace.call (.nack receipt))

namespace Listener

open QueueLog

variable {ω κ : Type} {handler : Handler ω} {retry : RetrySettings} {batchSize : Nat}
  {message : Message}
  {messages : List Message} {trace : QueueTrace} {world : ω}

/-- The message is worth another try: its body spells an event, which fails for a reason that may
pass, and it has been delivered less often than is allowed. -/
def Recurs (handler : Handler ω) (retry : RetrySettings) (message : Message) (world : ω) : Prop :=
  ∃ event e, TimerEvent.parse message.body = .ok event ∧ (handler event world).1 = .error e
    ∧ e.isRetryable = true ∧ message.attempts < retry.attempts

/-- Only a message that is worth another try goes back to the queue. -/
theorem handle_iff :
    (handle handler retry message world).1 = true ↔ Recurs handler retry message world := by
  simp only [handle, Recurs]
  cases TimerEvent.parse message.body with
  | error e => simp
  | ok event =>
    cases outcome : (handler event world).1 with
    | ok count => simp [outcome, returns]
    | error e => simp [outcome, returns]

/-- The messages of a batch, each with the world in which it is handled. -/
def faced (handler : Handler ω) (retry : RetrySettings) : List Message → ω → List (Message × ω)
  | [], _ => []
  | message :: rest, world =>
    (message, world) :: faced handler retry rest (handle handler retry message world).2

/-- Whether a message goes back to the queue from the world in which it is handled. -/
def goesBack (handler : Handler ω) (retry : RetrySettings) (meeting : Message × ω) : Bool :=
  (handle handler retry meeting.1 meeting.2).1

/-- The messages of a batch that go back to the queue, in their order. -/
def returned (handler : Handler ω) (retry : RetrySettings) (messages : List Message) (world : ω) :
    List Message :=
  ((faced handler retry messages world).filter (goesBack handler retry)).map (·.1)

/-- What a batch leaves of the world. -/
def handledAll (handler : Handler ω) (retry : RetrySettings) (messages : List Message) (world : ω) :
    ω :=
  messages.foldl (fun world message => (handle handler retry message world).2) world

/-- How a log says that a message was settled. -/
def settlement (handler : Handler ω) (retry : RetrySettings) (meeting : Message × ω) : QueueEvent :=
  if goesBack handler retry meeting then .nacked meeting.1.receipt (.ok ⟨⟩)
  else .acked meeting.1.receipt (.ok ⟨⟩)

/-- What became of the messages of a batch. -/
def tally (handler : Handler ω) (retry : RetrySettings) (messages : List Message) (world : ω) :
    BatchStats :=
  ⟨messages.length, (faced handler retry messages world).countP (!goesBack handler retry ·),
    (faced handler retry messages world).countP (goesBack handler retry)⟩

theorem map_faced : (faced handler retry messages world).map (·.1) = messages := by
  induction messages generalizing world with
  | nil => rfl
  | cons message rest ih => exact congrArg (message :: ·) ih

/-- A message that goes back was worth another try when it was handled. -/
theorem mem_returned : message ∈ returned handler retry messages world ↔
    ∃ world', (message, world') ∈ faced handler retry messages world
      ∧ Recurs handler retry message world' := by
  simp [returned, goesBack, handle_iff]

theorem returned_sublist : (returned handler retry messages world).Sublist messages := by
  have sublist := (List.filter_sublist (p := goesBack handler retry)
    (l := faced handler retry messages world)).map (·.1)
  rwa [map_faced] at sublist

/-- A batch removes or returns each of its messages. -/
theorem tally_sum :
    (tally handler retry messages world).acked + (tally handler retry messages world).nacked
    = messages.length := by
  have length : (faced handler retry messages world).length = messages.length := by
    rw [← List.length_map (·.1), map_faced]
  rw [← length, List.length_eq_countP_add_countP (goesBack handler retry), Nat.add_comm]
  simp [tally]

/-- Settling the messages in flight removes or returns each of them, and nothing is in flight after
it. -/
theorem settleEach_eq (stats : BatchStats) (nodup : (messages.map (·.receipt)).Nodup)
    (flying : trace.queue.inFlight = messages) :
    settleEach handler retry messages stats trace world =
      ({ stats with
          acked := stats.acked + (tally handler retry messages world).acked
          nacked := stats.nacked + (tally handler retry messages world).nacked },
        ⟨((faced handler retry messages world).map (settlement handler retry)).reverse ++ trace.log,
          { trace.queue with
            ready := trace.queue.ready ++ returned handler retry messages world
            inFlight := [] }⟩,
        handledAll handler retry messages world) := by
  induction messages generalizing stats trace world with
  | nil =>
    obtain ⟨log, ids, receipts, ready, inFlight, published, delivered⟩ := trace
    obtain rfl : inFlight = [] := flying
    simp [settleEach, tally, faced, returned, handledAll]
  | cons message rest ih =>
    obtain ⟨unlike, nodup_rest⟩ := List.nodup_cons.mp nodup
    have held : trace.queue.held? message.receipt = some message := by
      simp [MemoryQueue.held?, flying]
    have left : (trace.queue.release message.receipt).inFlight = rest := by
      have kept : rest.filter (·.receipt != message.receipt) = rest := by
        apply List.filter_eq_self.mpr
        intro other listed
        have apart : other.receipt ≠ message.receipt :=
          fun same => unlike (List.mem_map.mpr ⟨other, listed, same⟩)
        simpa using apart
      simp [MemoryQueue.release, flying, kept]
    cases back : (handle handler retry message world).1 with
    | true =>
      simp only [settleEach, back, if_true, QueueConsumer.nack, QueueTrace.call_nack_of_held held]
      rw [ih _ nodup_rest left]
      simp [tally, faced, returned, handledAll, goesBack, settlement, back, MemoryQueue.release]
      omega
    | false =>
      simp only [settleEach, back, QueueConsumer.ack, QueueTrace.call_ack_of_held held]
      rw [if_neg Bool.false_ne_true, ih _ nodup_rest left]
      simp [tally, faced, returned, handledAll, goesBack, settlement, back, MemoryQueue.release]
      omega

/-- Keeping the past of a queue does not change what a listener does with it. -/
theorem settleEach_queue (stats : BatchStats) :
    settleEach handler retry messages stats trace.queue world =
    let (stats, after, world) :=
  settleEach handler retry messages stats trace world
    (stats, after.queue, world) := by
  induction messages generalizing stats trace world with
  | nil => rfl
  | cons message rest ih =>
    have acked : (trace.call (.ack message.receipt)).queue = (trace.queue.ack message.receipt).2 :=
      rfl
    have nacked :
        (trace.call (.nack message.receipt)).queue = (trace.queue.nack message.receipt).2 := rfl
    cases back : (handle handler retry message world).1 with
    | true =>
      simp only [settleEach, back, if_true, QueueConsumer.nack]
      rw [← nacked, ih]
    | false =>
      simp only [settleEach, back, QueueConsumer.ack]
      rw [if_neg Bool.false_ne_true, if_neg Bool.false_ne_true, ← acked, ih]

/-- Keeping the past of a queue does not change what a batch does with it. -/
theorem processBatch_queue (handler : Handler ω) (batchSize : Nat) (retry : RetrySettings)
    (trace : QueueTrace) (world : ω) : processBatch handler batchSize retry trace.queue world =
    let (outcome, after, world) := processBatch handler batchSize retry trace world
    (outcome, after.queue, world) := by
  have polled : (trace.call (.poll batchSize)).queue = (trace.queue.poll batchSize).2 := rfl
  simp only [processBatch, QueueConsumer.poll]
  rw [← polled]
  exact congrArg (fun settled : BatchStats × MemoryQueue × ω => (Except.ok settled.1, settled.2))
    (settleEach_queue _)

/-- What a batch makes of a queue that has nothing in flight. -/
def settledBatch (handler : Handler ω) (retry : RetrySettings) (batchSize : Nat) (world : ω)
    (trace : QueueTrace) : QueueTrace :=
  let batch := trace.batch batchSize
  ⟨((faced handler retry batch world).map (settlement handler retry)).reverse ++
    .polled batch :: trace.log, { trace.queue with
      ready := trace.queue.ready.drop batchSize ++ returned handler retry batch world
      delivered := trace.queue.delivered + batch.length }⟩

/-- A batch settles all that it takes from a queue that has nothing in flight. -/
theorem processBatch_eq (rested : trace.queue.inFlight = []) :
    processBatch handler batchSize retry trace world =
      (.ok (tally handler retry (trace.batch batchSize) world),
        settledBatch handler retry batchSize world trace,
        handledAll handler retry (trace.batch batchSize) world) := by
  have nodup : ((trace.batch batchSize).map (·.receipt)).Nodup := by
    rw [QueueTrace.batch, MemoryQueue.receipts_handOut]
    refine List.nodup_range.map fun n m same => ?_
    have equal := trace.queue.receipts.injective same
    omega
  have flying : (trace.call (.poll batchSize)).queue.inFlight = trace.batch batchSize := by
    simp [QueueTrace.call_poll, rested]
  simp only [processBatch, QueueConsumer.poll]
  rw [settleEach_eq _ nodup flying]
  simp [settledBatch, tally, QueueTrace.call_poll, rested]

/-- How many deliveries a message may still see. -/
def allowance (retry : RetrySettings) (message : Message) : Nat :=
  max 1 (retry.attempts - message.attempts)

/-- How many deliveries the chosen ones of the messages that are ready may still see. -/
def allowances (retry : RetrySettings) (chosen : String → Bool) (ready : List Message) : Nat :=
  ((ready.filter (chosen ·.id)).map (allowance retry)).sum

@[simp] theorem allowances_append (chosen : String → Bool) (ready more : List Message) :
    allowances retry chosen (ready ++ more) =
      allowances retry chosen ready + allowances retry chosen more := by
  simp [allowances]

theorem allowances_cons (chosen : String → Bool) (ready : List Message) :
    allowances retry chosen (message :: ready)
      = (if chosen message.id then allowance retry message else 0) +
        allowances retry chosen ready := by
  cases taken : chosen message.id <;> simp [allowances, taken]

theorem returned_cons (rest : List Message) : returned handler retry (message :: rest) world =
    (if (handle handler retry message world).1 then [message] else [])
      ++ returned handler retry rest (handle handler retry message world).2 := by
  cases back : (handle handler retry message world).1 <;> simp [returned, faced, goesBack, back]

/-- A delivery uses up one of the deliveries that a message may still see, whether it goes back or
not. -/
theorem allowances_handOut (handler : Handler ω) (retry : RetrySettings) (chosen : String → Bool)
    (receipts : NameSource) (n : Nat) (ready : List Message) (world : ω) :
    allowances retry chosen (returned handler retry (MemoryQueue.handOut receipts n ready) world)
        + (MemoryQueue.handOut receipts n ready).countP (chosen ·.id)
      ≤ allowances retry chosen ready := by
  induction ready generalizing n world with
  | nil => simp [MemoryQueue.handOut, returned, faced, allowances]
  | cons first rest ih =>
    rw [MemoryQueue.handOut, returned_cons, allowances_append, allowances_cons, List.countP_cons]
    generalize handed_eq : ({ first with receipt := receipts.nth (n + 1),
                                         attempts := first.attempts + 1 } : Message) = handed
    have same : handed.id = first.id := by rw [← handed_eq]
    have counted : handed.attempts = first.attempts + 1 := by rw [← handed_eq]
    have later := ih (n + 1) (handle handler retry handed world).2
    have now :
        allowances retry chosen (if (handle handler retry handed world).1 then [handed] else [])
            + (if chosen first.id then 1 else 0)
          ≤ if chosen first.id then allowance retry first else 0 := by
      cases back : (handle handler retry handed world).1 with
      | true =>
        obtain ⟨event, e, spelt, failed, passing, fewer⟩ := handle_iff.mp back
        rw [if_pos rfl, allowances_cons, same]
        simp only [allowance, counted, allowances, List.filter_nil, List.map_nil,
          List.sum_nil] at fewer ⊢
        split <;> omega
      | false =>
        simp only [Bool.false_eq_true, if_false, allowance, allowances, List.filter_nil,
          List.map_nil, List.sum_nil]
        split <;> omega
    rw [same]
    omega

/-- Every batch uses up what the messages may still see of deliveries. -/
theorem allowances_settledBatch (handler : Handler ω) (retry : RetrySettings) (batchSize : Nat)
    (world : ω) (trace : QueueTrace) (chosen : String → Bool) :
    allowances retry chosen (settledBatch handler retry batchSize world trace).queue.ready
        + (trace.batch batchSize).countP (chosen ·.id)
      ≤ allowances retry chosen trace.queue.ready := by
  have spent := allowances_handOut handler retry chosen trace.queue.receipts trace.queue.delivered
    (trace.queue.ready.take batchSize) world
  have split : allowances retry chosen trace.queue.ready
      = allowances retry chosen (trace.queue.ready.take batchSize)
        + allowances retry chosen (trace.queue.ready.drop batchSize) := by
    rw [← allowances_append, List.take_append_drop]
  simp only [settledBatch, allowances_append, split, QueueTrace.batch]
  omega

/-- Every message that is ready may see a delivery. -/
theorem length_le_allowances (retry : RetrySettings) (ready : List Message) :
    ready.length ≤ allowances retry (fun _ => true) ready := by
  induction ready with
  | nil => exact Nat.zero_le _
  | cons first rest ih =>
    have one : 1 ≤ allowance retry first := Nat.le_max_left _ _
    rw [allowances_cons, if_pos rfl, List.length_cons]
    omega

/-- No message may see more deliveries than are allowed, or more than one if none are. -/
theorem allowances_le (retry : RetrySettings) (ready : List Message) :
    allowances retry (fun _ => true) ready ≤ ready.length * max 1 retry.attempts := by
  induction ready with
  | nil => exact Nat.zero_le _
  | cons first rest ih =>
    have most : allowance retry first ≤ max 1 retry.attempts := by rw [allowance]; omega
    rw [allowances_cons, if_pos rfl, List.length_cons, Nat.add_mul, Nat.one_mul]
    omega

/-- The queue after a number of batches, each of them in a world of its own. -/
def worked [QueueConsumer κ] (handler : Handler ω) (batchSize : Nat) (retry : RetrySettings)
    (worlds : Nat → ω) (queue : κ) : Nat → κ
  | 0 => queue
  | n + 1 =>
    (processBatch handler batchSize retry (worked handler batchSize retry worlds queue n)
      (worlds n)).2.1

variable {worlds : Nat → ω} {past : QueueTrace}

theorem worked_queue (n : Nat) : (worked handler batchSize retry worlds past n).queue
    = worked handler batchSize retry worlds past.queue n := by
  induction n with
  | zero => rfl
  | succ n ih => simp only [worked, ← ih, processBatch_queue]

theorem inFlight_worked (rested : past.queue.inFlight = []) (n : Nat) :
    (worked handler batchSize retry worlds past n).queue.inFlight = [] := by
  induction n with
  | zero => exact rested
  | succ n ih => rw [worked, processBatch_eq ih]; exact ih

theorem worked_succ (rested : past.queue.inFlight = []) (n : Nat) :
    worked handler batchSize retry worlds past (n + 1)
      = settledBatch handler retry batchSize (worlds n)
        (worked handler batchSize retry worlds past n) := by
  rw [worked, processBatch_eq (inFlight_worked rested n)]

/-- Settling messages delivers none. -/
theorem attempts_settlements (id : String) (meetings : List (Message × ω)) (log : QueueLog) :
    attempts id ((meetings.map (settlement handler retry)).reverse ++ log) = attempts id log := by
  induction meetings generalizing log with
  | nil => rfl
  | cons first rest ih =>
    rw [List.map_cons, List.reverse_cons, List.append_assoc, ih, List.singleton_append, settlement]
    split <;> rfl

/-- What a message has seen of deliveries and may still see does not grow. -/
theorem attempts_add_allowances_le (rested : past.queue.inFlight = []) (id : String) (n : Nat) :
    attempts id (worked handler batchSize retry worlds past n).log
        + allowances retry (· = id) (worked handler batchSize retry worlds past n).queue.ready
      ≤ attempts id past.log + allowances retry (· = id) past.queue.ready := by
  induction n with
  | zero => exact Nat.le_refl _
  | succ n ih =>
    rw [worked_succ rested]
    generalize worked handler batchSize retry worlds past n = trace at ih ⊢
    have spent := allowances_settledBatch handler retry batchSize (worlds n) trace (· = id)
    have counted : attempts id (settledBatch handler retry batchSize (worlds n) trace).log
        ≤ attempts id trace.log + (trace.batch batchSize).countP (·.id = id) := by
      rw [settledBatch, attempts_settlements, attempts]
      split
      next handed =>
        obtain ⟨message, listed, named⟩ := List.mem_map.mp handed
        have one : 0 < (trace.batch batchSize).countP (·.id = id) :=
          List.countP_pos_iff.mpr ⟨message, listed, decide_eq_true named⟩
        omega
      next => omega
    omega

/-- A message is not ready twice, so what it may still see of deliveries is the allowance of one. -/
theorem attempts_add_allowances (ledger : past.Ledger) (id : String) :
    attempts id past.log + allowances retry (· = id) past.queue.ready
      ≤ max (attempts id past.log + 1) retry.attempts := by
  have nodup : (past.queue.ready.map (·.id)).Nodup :=
    (List.nodup_append.mp (List.nodup_append.mp ledger.placed_nodup).1).1
  by_cases waiting : ∃ message ∈ past.queue.ready, message.id = id
  · obtain ⟨message, ready, rfl⟩ := waiting
    have alone : past.queue.ready.filter (·.id = message.id) = [message] := by
      have perm := (perm_cons_filter_of_nodup_map nodup ready).filter (·.id = message.id)
      simpa [List.filter_filter, List.filter_eq_nil_iff.mpr] using perm
    have counted := (ledger.intact message (List.mem_append_left _ ready)).2
    simp only [allowances, alone, List.map_cons, List.map_nil, List.sum_cons,
      List.sum_nil, allowance]
    omega
  · have none_ready : past.queue.ready.filter (·.id = id) = [] := by simpa using waiting
    simp only [allowances, none_ready, List.map_nil, List.sum_nil]
    omega

/-- A batch finds a message if any is ready, and uses up one of the deliveries that are left. -/
theorem allowances_settledBatch_lt (handler : Handler ω) (retry : RetrySettings) (world : ω)
    (positive : 0 < batchSize) (waiting : trace.queue.ready ≠ []) :
    allowances retry (fun _ => true) (settledBatch handler retry batchSize world trace).queue.ready
      < allowances retry (fun _ => true) trace.queue.ready := by
  have spent := allowances_settledBatch handler retry batchSize world trace fun _ => true
  have found : 0 < (trace.batch batchSize).countP fun _ => true := by
    have some_ready := List.length_pos_iff.mpr waiting
    rw [List.countP_true, QueueTrace.batch, MemoryQueue.length_handOut, List.length_take]
    omega
  omega

/-- The batches use up the deliveries that are left, until no message is ready. -/
theorem ready_worked (handler : Handler ω) (retry : RetrySettings) (worlds : Nat → ω)
    (rested : past.queue.inFlight = []) (positive : 0 < batchSize) (n : Nat) :
    (worked handler batchSize retry worlds past n).queue.ready = []
      ∨ allowances retry (fun _ => true)
        (worked handler batchSize retry worlds past n).queue.ready + n
        ≤ allowances retry (fun _ => true) past.queue.ready := by
  induction n with
  | zero => exact .inr (Nat.le_refl _)
  | succ n ih =>
    rw [worked_succ rested]
    generalize worked handler batchSize retry worlds past n = trace at ih ⊢
    by_cases waiting : trace.queue.ready = []
    · left
      simp [settledBatch, QueueTrace.batch, waiting, MemoryQueue.handOut, returned, faced]
    · right
      have used := allowances_settledBatch_lt handler retry (worlds n) positive waiting
      have so_far := ih.resolve_left waiting
      omega

/-- A queue is empty after as many batches as its messages may see of deliveries. -/
theorem ready_worked_eq_nil (rested : past.queue.inFlight = []) (positive : 0 < batchSize) {n : Nat}
    (enough : past.queue.ready.length * max 1 retry.attempts ≤ n) :
    (worked handler batchSize retry worlds past n).queue.ready = [] := by
  rcases ready_worked handler retry worlds rested positive n with empty | left
  · exact empty
  · have most := allowances_le retry past.queue.ready
    have some_left :=
      length_le_allowances retry (worked handler batchSize retry worlds past n).queue.ready
    exact List.length_eq_zero_iff.mp (by omega)

/-- How a message is settled, by what becomes of it in the world in which it is handled. -/
inductive Settled (handler : Handler ω) (retry : RetrySettings) :
    Message × ω → QueueEvent → Prop where
  | removed {message : Message} {world : ω} (done_with : ¬ Recurs handler retry message world) :
      Settled handler retry (message, world) (.acked message.receipt (.ok ⟨⟩))
  | returned {message : Message} {world : ω} (recurs : Recurs handler retry message world) :
      Settled handler retry (message, world) (.nacked message.receipt (.ok ⟨⟩))

theorem settled_settlement (meeting : Message × ω) :
    Settled handler retry meeting (settlement handler retry meeting) := by
  obtain ⟨message, world⟩ := meeting
  rw [settlement, goesBack]
  split
  next back => exact .returned (handle_iff.mp back)
  next stays => exact .removed fun recurs => stays (handle_iff.mpr recurs)

/-- The listener works a queue off: what it does in batch after batch, each of them in a world of
its own. -/
structure WorksOff (handler : Handler ω) (batchSize : Nat) (retry : RetrySettings)
    (worlds : Nat → ω) (past : QueueTrace) : Prop where
  /-- It makes no difference that the past of the queue is kept. -/
  plain : ∀ n, (worked handler batchSize retry worlds past n).queue
    = worked handler batchSize retry worlds past.queue n
  /-- No message is delivered more often than is allowed, or but once more if it has been
  already. -/
  bounded : ∀ n id, attempts id (worked handler batchSize retry worlds past n).log
    ≤ max (attempts id past.log + 1) retry.attempts
  /-- A batch takes what it may, settles each message of it, and does nothing else to the queue. -/
  settles : ∀ n, let trace := worked handler batchSize retry worlds past n
    ∃ settlements, (worked handler batchSize retry worlds past (n + 1)).log
        = settlements.reverse ++ .polled (trace.batch batchSize) :: trace.log
      ∧ List.Forall₂ (Settled handler retry)
        (faced handler retry (trace.batch batchSize) (worlds n)) settlements
  /-- A batch succeeds, and its messages add up. -/
  adds : ∀ n, let trace := worked handler batchSize retry worlds past n
    ∃ stats, (processBatch handler batchSize retry trace (worlds n)).1 = .ok stats
      ∧ stats.received = min batchSize trace.queue.ready.length ∧
      stats.acked + stats.nacked = stats.received
  /-- Nothing is in flight after a batch. -/
  rests : ∀ n, (worked handler batchSize retry worlds past n).queue.inFlight = []
  /-- No message is ready after so many batches. -/
  empties : ∀ n, past.queue.ready.length * max 1 retry.attempts ≤ n →
    (worked handler batchSize retry worlds past n).queue.ready = []

/-- Whatever became of a queue that has nothing in flight, and whatever the store and the engine do,
now or later, the listener works the queue off. -/
theorem registry_worksOff {σ ε : Type} [TimerStore σ] [SchedulingEngine ε]
    (ids receipts : NameSource) (calls : List QueueCall) (batchSize : Nat) (retry : RetrySettings)
    (worlds : Nat → World σ ε) (positive : 0 < batchSize)
    (rested : ((QueueTrace.start ids receipts).calls calls).queue.inFlight = []) :
    WorksOff registryHandler batchSize retry worlds
      ((QueueTrace.start ids receipts).calls calls) where
  plain n := worked_queue n
  bounded n id := (Nat.le_add_right _ _).trans ((attempts_add_allowances_le rested id n).trans
    (attempts_add_allowances ((QueueTrace.Ledger.start ids receipts).run calls) id))
  settles n := by
    refine ⟨_, by rw [worked_succ rested]; rfl, ?_⟩
    rw [List.forall₂_map_right_iff]
    exact List.forall₂_same.mpr fun meeting _ => settled_settlement meeting
  adds n := by
    refine ⟨_, by rw [processBatch_eq (inFlight_worked rested n)], ?_, tally_sum⟩
    simp [tally, QueueTrace.batch, MemoryQueue.length_handOut]
  rests n := inFlight_worked rested n
  empties n enough := ready_worked_eq_nil rested positive enough

/-- Two messages of which the first is handed out and returned already: the one spells no event, the
other one that fails as long as its tenant has no table. -/
theorem unprovisioned_worksOff :
    let calls : List QueueCall :=
  [.publish "no event", .publish (TimerEvent.moduleResource ⟨.create, "north",
      some ⟨"mod-1.0.0", [⟨["POST"], none, some "/run", some ⟨"1", .minute⟩, none⟩]⟩, none⟩).body,
      .poll 1, .nack "r1"]
    let past := (QueueTrace.start (.numbered "m") (.numbered "r")).calls calls
    let world : World MemoryStore LocalEngine :=
      ⟨.empty, .empty, ⟨fun _ => default, Uuid.ofBits, 0, 0⟩⟩
    0 < 1 ∧ past.queue.inFlight = [] ∧ past.queue.ready.map (·.attempts) = [0, 1]
      ∧ WorksOff registryHandler 1 ⟨3, 0⟩ (fun _ => world) past := by
  intro calls past world
  have rested : past.queue.inFlight = [] := by decide +kernel
  have returned : past.queue.ready.map (·.attempts) = [0, 1] := by decide +kernel
  exact ⟨Nat.one_pos, rested, returned, registry_worksOff _ _ calls 1 ⟨3, 0⟩ _ Nat.one_pos rested⟩

/-- What a batch does to a queue that has nothing in flight, whose past is not kept. -/
theorem processBatch_rested {queue : MemoryQueue} (rested : queue.inFlight = []) :
    let batch := MemoryQueue.handOut queue.receipts queue.delivered (queue.ready.take batchSize)
    processBatch handler batchSize retry queue world =
      (.ok (tally handler retry batch world),
        { queue with
          ready := queue.ready.drop batchSize ++ returned handler retry batch world
          delivered := queue.delivered + batch.length },
        handledAll handler retry batch world) := by
  have observed : (QueueTrace.mk [] queue).queue = queue := rfl
  have kept := processBatch_queue handler batchSize retry ⟨[], queue⟩ world
  rwa [processBatch_eq rested, observed] at kept

end Listener

end Horarium
