/-
Module: Horarium.Proofs.Runs
Purpose: Runs of a procedure, with a condition on every request in the world in which it is made.
  What the clock, the engine or the source of ids are assumed to do is put into that condition.
Trusted boundary: none
Main exports: World.Runs, World.Runs.run_eq, World.Runs.done_inv, World.Runs.bind_inv,
  World.Runs.mapError_bind_inv, World.Throughout, World.Throughout.runs
-/
import Horarium.Procedure

namespace Horarium

namespace World

variable {σ ε : Type} [TimerStore σ] [SchedulingEngine ε] {δ η α β : Type}

/-- The world carries out a procedure with this outcome and is left as `after`; every request of the
procedure satisfies `P` in the world in which it is made. -/
inductive Runs (P : World σ ε → Request → Prop) :
    World σ ε → Procedure δ α → Except δ α → World σ ε → Prop where
  | done (world : World σ ε) (a : α) : Runs P world (.done a) (.ok a) world
  | fail (world : World σ ε) (e : δ) : Runs P world (.fail e) (.error e) world
  | ask {world : World σ ε} {request : Request} {next : request.Answer → Procedure δ α}
      {outcome : Except δ α} {after : World σ ε} (met : P world request)
      (rest : Runs P (world.answer request).2 (next (world.answer request).1) outcome after) :
      Runs P world (.ask request next) outcome after

namespace Runs

variable {P Q : World σ ε → Request → Prop} {world after : World σ ε}

theorem run_eq {p : Procedure δ α} {outcome : Except δ α} (runs : Runs P world p outcome after) :
    world.run p = (outcome, after) := by
  induction runs with
  | done world a => rfl
  | fail world e => rfl
  | ask met rest ih => exact ih

/-- A run goes one way only. -/
theorem unique {p : Procedure δ α} {first second : Except δ α} {one other : World σ ε}
    (left : Runs P world p first one) (right : Runs Q world p second other) :
    first = second ∧ one = other := by
  have same := left.run_eq.symm.trans right.run_eq
  exact Prod.mk.inj same

theorem mono {p : Procedure δ α} {outcome : Except δ α} (runs : Runs P world p outcome after)
    (weaken : ∀ world request, P world request → Q world request) :
    Runs Q world p outcome after := by
  induction runs with
  | done world a => exact .done world a
  | fail world e => exact .fail world e
  | ask met rest ih => exact .ask (weaken _ _ met) ih

theorem done_inv {a : α} {outcome : Except δ α} (runs : Runs P world (.done a) outcome after) :
    outcome = .ok a ∧ after = world := by
  cases runs
  exact ⟨rfl, rfl⟩

theorem fail_inv {e : δ} {outcome : Except δ α} (runs : Runs P world (.fail e) outcome after) :
    outcome = .error e ∧ after = world := by
  cases runs
  exact ⟨rfl, rfl⟩

/-- A run of one procedure after the other is a run of the first and then of the second, unless the
first fails. -/
theorem bind_inv {p : Procedure δ α} {f : α → Procedure δ β} {outcome : Except δ β}
    (runs : Runs P world (p >>= f) outcome after) :
    (∃ a middle, Runs P world p (.ok a) middle ∧ Runs P middle (f a) outcome after) ∨
      ∃ e, Runs P world p (.error e) after ∧ outcome = .error e := by
  induction p generalizing world with
  | done a => exact .inl ⟨a, world, .done world a, runs⟩
  | fail e =>
    obtain ⟨rfl, rfl⟩ := fail_inv runs
    exact .inr ⟨e, .fail _ e, rfl⟩
  | ask request next ih =>
    cases runs with
    | ask met rest =>
      rcases ih _ rest with ⟨a, middle, first, second⟩ | ⟨e, first, failed⟩
      · exact .inl ⟨a, middle, .ask met first, second⟩
      · exact .inr ⟨e, .ask met first, failed⟩

theorem mapError_inv {p : Procedure δ α} {f : δ → η} {outcome : Except η α}
    (runs : Runs P world (p.mapError f) outcome after) :
    ∃ inner, Runs P world p inner after ∧ outcome = inner.mapError f := by
  induction p generalizing world with
  | done a =>
    obtain ⟨rfl, rfl⟩ := done_inv runs
    exact ⟨.ok a, .done _ a, rfl⟩
  | fail e =>
    obtain ⟨rfl, rfl⟩ := fail_inv runs
    exact ⟨.error e, .fail _ e, rfl⟩
  | ask request next ih =>
    cases runs with
    | ask met rest =>
      obtain ⟨inner, carried, same⟩ := ih _ rest
      exact ⟨inner, .ask met carried, same⟩

theorem attempt_inv {p : Procedure δ α} {outcome : Except η (Except δ α)}
    (runs : Runs P world (p.attempt : Procedure η (Except δ α)) outcome after) :
    ∃ inner, Runs P world p inner after ∧ outcome = .ok inner := by
  induction p generalizing world with
  | done a =>
    obtain ⟨rfl, rfl⟩ := done_inv runs
    exact ⟨.ok a, .done _ a, rfl⟩
  | fail e =>
    obtain ⟨rfl, rfl⟩ := done_inv runs
    exact ⟨.error e, .fail _ e, rfl⟩
  | ask request next ih =>
    cases runs with
    | ask met rest =>
      obtain ⟨inner, carried, same⟩ := ih _ rest
      exact ⟨inner, .ask met carried, same⟩

/-- A procedure with its errors put into other terms fails the whole or is followed by the rest of
it. -/
theorem mapError_bind_inv {p : Procedure δ α} {f : δ → η} {next : α → Procedure η β}
    {outcome : Except η β} (runs : Runs P world (p.mapError f >>= next) outcome after) :
    (∃ a middle, Runs P world p (.ok a) middle ∧ Runs P middle (next a) outcome after) ∨
      ∃ e, Runs P world p (.error e) after ∧ outcome = .error (f e) := by
  rcases runs.bind_inv with ⟨a, middle, first, rest⟩ | ⟨e, first, failed⟩
  · obtain ⟨inner, carried, same⟩ := first.mapError_inv
    cases inner with
    | error e =>
      have impossible : Except.ok a = Except.error (f e) := same
      simp at impossible
    | ok b =>
      obtain rfl : a = b := Except.ok.inj same
      exact .inl ⟨a, middle, carried, rest⟩
  · obtain ⟨inner, carried, same⟩ := first.mapError_inv
    cases inner with
    | ok b =>
      have impossible : Except.error e = Except.ok b := same
      simp at impossible
    | error cause =>
      refine .inr ⟨cause, carried, ?_⟩
      rw [failed, Except.error.inj same]

/-- What follows an attempted procedure sees how the procedure ended. -/
theorem attempt_bind_inv {p : Procedure δ α} {next : Except δ α → Procedure η β}
    {outcome : Except η β} (runs : Runs P world (p.attempt >>= next) outcome after) :
    ∃ inner middle, Runs P world p inner middle ∧ Runs P middle (next inner) outcome after := by
  rcases runs.bind_inv with ⟨a, middle, first, rest⟩ | ⟨e, first, _⟩
  · obtain ⟨inner, carried, same⟩ := first.attempt_inv
    exact ⟨inner, middle, carried, Except.ok.inj same ▸ rest⟩
  · obtain ⟨inner, _, same⟩ := first.attempt_inv
    simp at same

/-- A value at hand fails the whole at once or is followed by the rest of it. -/
theorem ofExcept_bind_inv {f : η → δ} {result : Except η α} {next : α → Procedure δ β}
    {outcome : Except δ β}
    (runs : Runs P world (Procedure.ofExcept f result >>= next) outcome after) :
    (∃ e, result = .error e ∧ outcome = .error (f e) ∧ after = world) ∨
      ∃ a, result = .ok a ∧ Runs P world (next a) outcome after := by
  cases result with
  | error e =>
    obtain ⟨rfl, rfl⟩ := runs.fail_inv
    exact .inl ⟨e, rfl, rfl, rfl⟩
  | ok a => exact .inr ⟨a, rfl, runs⟩

/-- A procedure that is to end with a given value does so if it ends well. -/
theorem eq_of_bind_done {p : Procedure δ α} {a b : β}
    (runs : Runs P world (p >>= fun _ => .done b) (.ok a) after) :
    a = b := by
  rcases runs.bind_inv with ⟨_, _, _, ended⟩ | ⟨_, _, failed⟩
  · exact Except.ok.inj ended.done_inv.1
  · simp at failed

theorem ask_inv {request : Request} {next : request.Answer → Procedure δ α} {outcome : Except δ α}
    (runs : Runs P world (.ask request next) outcome after) :
    P world request ∧
      Runs P (world.answer request).2 (next (world.answer request).1) outcome after := by
  cases runs with
  | ask met rest => exact ⟨met, rest⟩

end Runs

/-- Every request of the procedure satisfies `P` in the world in which it is made. -/
def Throughout (P : World σ ε → Request → Prop) : World σ ε → Procedure δ α → Prop
  | _, .done _ => True
  | _, .fail _ => True
  | world, .ask request next =>
    P world request ∧ Throughout P (world.answer request).2 (next (world.answer request).1)

/-- What follows needs its requests allowed only where the first part leads. -/
theorem Throughout.bind_of_runs {P : World σ ε → Request → Prop} {world : World σ ε}
    {p : Procedure δ α} {f : α → Procedure δ β} (first : Throughout P world p)
    (rest : ∀ a middle, Runs P world p (.ok a) middle → Throughout P middle (f a)) :
    Throughout P world (p >>= f) := by
  induction p generalizing world with
  | done a => exact rest a world (.done world a)
  | fail e => trivial
  | ask request next ih =>
    exact ⟨first.1, ih _ first.2 fun a middle runs => rest a middle (.ask first.1 runs)⟩

theorem Throughout.bind {P : World σ ε → Request → Prop} {world : World σ ε} {p : Procedure δ α}
    {f : α → Procedure δ β} (first : Throughout P world p)
    (rest : ∀ a middle, Throughout P middle (f a)) :
    Throughout P world (p >>= f) :=
  first.bind_of_runs fun a middle _ => rest a middle

theorem Throughout.mapError {P : World σ ε → Request → Prop} {world : World σ ε} {p : Procedure δ α}
    (f : δ → η) (inner : Throughout P world p) : Throughout P world (p.mapError f) := by
  induction p generalizing world with
  | done a => trivial
  | fail e => trivial
  | ask request next ih => exact ⟨inner.1, ih _ inner.2⟩

theorem Throughout.mapError_bind_of_runs {P : World σ ε → Request → Prop} {world : World σ ε}
    {p : Procedure δ α} {g : δ → η} {f : α → Procedure η β} (first : Throughout P world p)
    (rest : ∀ a middle, Runs P world p (.ok a) middle → Throughout P middle (f a)) :
    Throughout P world (p.mapError g >>= f) := by
  apply (first.mapError g).bind_of_runs
  intro a middle runs
  obtain ⟨inner, carried, same⟩ := runs.mapError_inv
  cases inner with
  | error e =>
    have impossible : Except.ok a = Except.error (g e) := same
    simp at impossible
  | ok b =>
    obtain rfl : a = b := Except.ok.inj same
    exact rest a middle carried

/-- A procedure is carried out as `run` tells, if its requests are made in worlds that allow
them. -/
theorem Throughout.runs {P : World σ ε → Request → Prop} {world : World σ ε} {p : Procedure δ α}
    (allowed : Throughout P world p) : Runs P world p (world.run p).1 (world.run p).2 := by
  induction p generalizing world with
  | done a => exact .done world a
  | fail e => exact .fail world e
  | ask request next ih => exact .ask allowed.1 (ih _ allowed.2)

/-- Nothing is assumed of a procedure that is simply carried out. -/
theorem runs (world : World σ ε) (p : Procedure δ α) :
    Runs (fun _ _ => True) world p (world.run p).1 (world.run p).2 := by
  induction p generalizing world with
  | done a => exact .done world a
  | fail e => exact .fail world e
  | ask request next ih => exact .ask trivial (ih _ (world.answer request).2)

/-- A value that is put in the place of the result changes nothing else. -/
theorem run_bind_done (world : World σ ε) (p : Procedure δ α) (b : β) :
    world.run (p >>= fun _ => .done b) = ((world.run p).1.map fun _ => b, (world.run p).2) := by
  induction p generalizing world with
  | done a => rfl
  | fail e => rfl
  | ask request next ih => exact ih _ _

/-- Whether requests are allowed can be found out by carrying the procedure out. -/
instance Throughout.decidable (P : World σ ε → Request → Prop)
    [∀ world request, Decidable (P world request)] :
    (world : World σ ε) → (p : Procedure δ α) → Decidable (Throughout P world p)
  | _, .done _ => .isTrue trivial
  | _, .fail _ => .isTrue trivial
  | world, .ask request next =>
    have := Throughout.decidable P (world.answer request).2 (next (world.answer request).1)
    inferInstanceAs (Decidable (P world request ∧ _))

end World

end Horarium
