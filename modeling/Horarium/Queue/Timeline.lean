/-
Module: Horarium.Queue.Timeline
Purpose: A listener at work in virtual time: batch after batch, with the waits between them, while
  the world changes at given moments.
Trusted boundary: human-reviewed definitions; time is virtual
Main exports: Listener.Happening, Listener.Run, Listener.Run.upTo
-/
import Horarium.Queue.Listener

namespace Horarium.Listener

variable {κ ω : Type}

/-- A change to queue and world at a millisecond. -/
structure Happening (κ ω : Type) where
  millis : Nat
  change : κ → ω → κ × ω

/-- What a listener has come to: its clock, the failures to poll in a row, and what is yet to
happen. -/
structure Run (κ ω : Type) where
  now : Nat
  errors : Nat
  queue : κ
  world : ω
  coming : List (Happening κ ω)

namespace Run

/-- Everything that happens up to the present. -/
def catchUp (now : Nat) : List (Happening κ ω) → κ → ω → List (Happening κ ω) × κ × ω
  | [], queue, world => ([], queue, world)
  | next :: rest, queue, world =>
    if next.millis ≤ now then
      let (queue, world) := next.change queue world
      catchUp now rest queue world
    else (next :: rest, queue, world)

/-- One batch, with the queue told the time, and the wait after it. -/
def step [QueueConsumer κ] (tell : Nat → κ → κ) (handler : Handler ω) (settings : QueueSettings)
    (retry : RetrySettings) (run : Run κ ω) : Run κ ω :=
  let (coming, queue, world) := catchUp run.now run.coming run.queue run.world
  let (outcome, queue, world) :=
    processBatch handler settings.batchSize retry (tell run.now queue) world
  let errors := match outcome with
    | .ok _ => 0
    | .error _ => run.errors + 1
  ⟨run.now + pauseMillis settings retry errors outcome, errors, queue, world, coming⟩

/-- Batches until the clock passes `stop`, at most `budget` of them. -/
def batches [QueueConsumer κ] (tell : Nat → κ → κ) (handler : Handler ω) (settings : QueueSettings)
    (retry : RetrySettings) (stop : Nat) : Nat → Run κ ω → Run κ ω
  | 0, run => run
  | budget + 1, run =>
    if stop < run.now then run
    else batches tell handler settings retry stop budget (step tell handler settings retry run)

/-- The run up to the millisecond `stop`. A wait is at least a millisecond long, and without one the
messages that are ready grow fewer, so no more than `messages` and one batches share a
millisecond. -/
def upTo [QueueConsumer κ] (tell : Nat → κ → κ) (handler : Handler ω) (settings : QueueSettings)
    (retry : RetrySettings) (stop messages : Nat) (run : Run κ ω) : Run κ ω :=
  let run := batches tell handler settings retry stop ((stop + 1) * (messages + 2)) run
  let (coming, queue, world) := catchUp stop run.coming run.queue run.world
  { run with coming, queue, world }

end Run

end Horarium.Listener
