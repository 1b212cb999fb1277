/-
Module: Horarium.Procedure
Purpose: Procedures: what a service does, as the sequence of its requests to the outside. A
  procedure ends with a value or an error, or makes one request and goes on with the answer. It does
  not say who answers, so the same procedure runs against any store and engine, undisturbed or
  interleaved with others, and each request is one indivisible step.
Trusted boundary: human-reviewed definitions; the clock and the source of ids are parameters
  (`Sources`)
Main exports: Request, Request.Answer, Procedure, Procedure.ofExcept, Sources, World, World.run
-/
import Horarium.Engine.Job
import Horarium.Store.Basic

namespace Horarium

/-- A request to the outside: to the store, to the engine, to the clock, or to the source of new
ids. -/
inductive Request where
  | store (request : StoreRequest)
  | engine (request : EngineRequest)
  | now
  | newId

/-- What a request is answered with. -/
abbrev Request.Answer : Request → Type
  | store request => Except StoreError request.Result
  | engine _ => Except EngineError Bool
  | now => Instant
  | newId => Uuid

/-- A sequence of requests that ends with a value of type `α` or an error of type `ε`. -/
inductive Procedure (ε α : Type) : Type where
  | done (value : α)
  | fail (error : ε)
  | ask (request : Request) (next : request.Answer → Procedure ε α)

namespace Procedure

variable {ε δ α β γ : Type}

/-- One procedure after the other; an error ends both. -/
def bind : Procedure ε α → (α → Procedure ε β) → Procedure ε β
  | .done a, f => f a
  | .fail e, _ => .fail e
  | .ask request next, f => .ask request fun answer => bind (next answer) f

instance : Monad (Procedure ε) where
  pure := .done
  bind := bind

theorem bind_done (p : Procedure ε α) : p.bind .done = p := by
  induction p with
  | done a => rfl
  | fail e => rfl
  | ask request next ih =>
    rw [bind]
    exact congrArg (ask request) (funext ih)

theorem bind_assoc (p : Procedure ε α) (f : α → Procedure ε β) (g : β → Procedure ε γ) :
    (p.bind f).bind g = p.bind fun a => (f a).bind g := by
  induction p with
  | done a => rfl
  | fail e => rfl
  | ask request next ih =>
    rw [bind, bind, bind]
    exact congrArg (ask request) (funext ih)

/-- Procedures may be regrouped, and one that only returns a value adds no step. -/
instance : LawfulMonad (Procedure ε) where
  map_const := rfl
  id_map := bind_done
  seqLeft_eq p q := by
    show p.bind (fun a => q.bind fun _ => .done a) =
      (p.bind fun a => .done (Function.const _ a)).bind fun f => q.bind fun b => .done (f b)
    rw [bind_assoc]
    rfl
  seqRight_eq p q := by
    show p.bind (fun _ => q) =
      (p.bind fun _ => .done id).bind fun f => q.bind fun b => .done (f b)
    rw [bind_assoc]
    exact congrArg p.bind (funext fun _ => (bind_done q).symm)
  pure_seq f p := rfl
  bind_pure_comp f p := rfl
  bind_map f p := rfl
  pure_bind a f := rfl
  bind_assoc := bind_assoc

/-- The procedure with its error put into other terms. -/
def mapError (f : ε → δ) : Procedure ε α → Procedure δ α
  | .done a => .done a
  | .fail e => .fail (f e)
  | .ask request next => .ask request fun answer => mapError f (next answer)

/-- The procedure that never fails and ends with the outcome of another. -/
def attempt : Procedure ε α → Procedure δ (Except ε α)
  | .done a => .done (.ok a)
  | .fail e => .done (.error e)
  | .ask request next => .ask request fun answer => attempt (next answer)

/-- A result that is at hand. -/
def ofExcept (f : δ → ε) : Except δ α → Procedure ε α
  | .ok a => .done a
  | .error e => .fail (f e)

/-- One request to the store. -/
def store (f : StoreError → ε) (request : StoreRequest) : Procedure ε request.Result :=
  .ask (.store request) (ofExcept f)

/-- One request to the engine, with its outcome as the value. -/
def engine (request : EngineRequest) : Procedure ε (Except EngineError Bool) :=
  .ask (.engine request) .done

/-- A reading of the clock. -/
def now : Procedure ε Instant := .ask .now .done

/-- A new id. -/
def newId : Procedure ε Uuid := .ask .newId .done

end Procedure

/-- Where instants and ids come from, and how many of each have been taken. -/
structure Sources where
  instantAt : Nat → Instant
  idAt : Nat → Uuid
  readings : Nat
  ids : Nat

/-- All that procedures run against. -/
structure World (σ ε : Type) where
  store : σ
  engine : ε
  sources : Sources

namespace World

variable {σ ε δ α : Type} [TimerStore σ] [SchedulingEngine ε]

/-- The answer to one request, and the world after it. -/
def answer (world : World σ ε) : (request : Request) → request.Answer × World σ ε
  | .store request =>
    let (result, store) := TimerStore.answer request world.store
    (result, { world with store })
  | .engine request =>
    let (result, engine) := SchedulingEngine.answer request world.engine
    (result, { world with engine })
  | .now =>
    let n := world.sources.readings + 1
    (world.sources.instantAt n, { world with sources := { world.sources with readings := n } })
  | .newId =>
    let n := world.sources.ids + 1
    (world.sources.idAt n, { world with sources := { world.sources with ids := n } })

/-- A procedure carried out without interruption. -/
def run (world : World σ ε) : Procedure δ α → Except δ α × World σ ε
  | .done a => (.ok a, world)
  | .fail e => (.error e, world)
  | .ask request next =>
    let (answer, after) := world.answer request
    after.run (next answer)

/-- A world carries out one procedure after the other by carrying out the first, then the second in
the world that the first has left. -/
theorem run_bind {β : Type} (world : World σ ε) (p : Procedure δ α) (f : α → Procedure δ β) :
    world.run (p.bind f) = match world.run p with
      | (.ok a, after) => after.run (f a)
      | (.error e, after) => (.error e, after) := by
  induction p generalizing world with
  | done a => rfl
  | fail e => rfl
  | ask request next ih => exact ih (world.answer request).1 (world.answer request).2

/-- Putting an error into other terms leaves the world as it would be. -/
theorem run_mapError {η : Type} (world : World σ ε) (f : δ → η) (p : Procedure δ α) :
    world.run (p.mapError f) = ((world.run p).1.mapError f, (world.run p).2) := by
  induction p generalizing world with
  | done a => rfl
  | fail e => rfl
  | ask request next ih => exact ih (world.answer request).1 (world.answer request).2

/-- An attempt never fails, and leaves the world as the procedure leaves it. -/
theorem run_attempt {η : Type} (world : World σ ε) (p : Procedure δ α) :
    world.run (p.attempt : Procedure η (Except δ α)) = (.ok (world.run p).1, (world.run p).2) := by
  induction p generalizing world with
  | done a => rfl
  | fail e => rfl
  | ask request next ih => exact ih (world.answer request).1 (world.answer request).2

end World

end Horarium
