/-
Module: Horarium.Store.Faulty
Purpose: A store in which failures can be arranged: a later request of a given name, so many of that
  name being let through before it, fails without reaching the store. Each failure happens once;
  failures for one name come in the order in which they were arranged.
Trusted boundary: human-reviewed definitions
Main exports: StoreFault, FaultyStore, FaultyStore.answer
-/
import Horarium.Store.Basic

namespace Horarium

/-- A failure to come: the request that it hits, how many of them it lets through, and the error. -/
structure StoreFault where
  method : StoreRequest.Method
  skip : Nat
  error : StoreError

/-- A store with failures to come. -/
structure FaultyStore (σ : Type) where
  inner : σ
  faults : List StoreFault

namespace FaultyStore

variable {σ : Type}

/-- The store without failures. -/
def of (inner : σ) : FaultyStore σ := ⟨inner, []⟩

/-- The store with one more failure to come. -/
def arrange (store : FaultyStore σ) (fault : StoreFault) : FaultyStore σ :=
  { store with faults := store.faults ++ [fault] }

/-- The failure that hits a request of this name, if one is due, and the failures that remain. Only
the first failure of a name waits for requests. -/
def take (method : StoreRequest.Method) : List StoreFault → Option StoreError × List StoreFault
  | [] => (none, [])
  | fault :: rest =>
    if fault.method = method then
      match fault.skip with
      | 0 => (some fault.error, rest)
      | skip + 1 => (none, { fault with skip } :: rest)
    else
      let (due, rest) := take method rest
      (due, fault :: rest)

/-- One request: it fails if a failure is due, else the store answers it. -/
def answer [TimerStore σ] (request : StoreRequest) (store : FaultyStore σ) :
    Except StoreError request.Result × FaultyStore σ :=
  match take request.method store.faults with
  | (some error, faults) => (.error error, { store with faults })
  | (none, faults) =>
    let (result, inner) := TimerStore.answer request store.inner
    (result, ⟨inner, faults⟩)

instance [TimerStore σ] : TimerStore (FaultyStore σ) := ⟨answer⟩

end FaultyStore

end Horarium
