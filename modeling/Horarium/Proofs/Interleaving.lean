/-
Module: Horarium.Proofs.Interleaving
Purpose: Two operations of the registry under way at the same time. Every request is one indivisible
  step, and between two steps of the one operation the other may take any number of its own. What
  has been asked and answered is kept, so that one can tell afterwards which of the two was ahead.
Trusted boundary: none
Main exports: Party, Duo, Duo.play, Journal, Journal.Wrote
-/
import Horarium.Proofs.Reconciliation
import Horarium.Proofs.Requests

namespace Horarium

/-- The two sides that take turns. -/
inductive Party where
  | left
  | right
deriving DecidableEq

namespace Party

/-- The side that is waiting meanwhile. -/
def other : Party → Party
  | left => right
  | right => left

theorem other_ne (party : Party) : party.other ≠ party := by
  cases party <;> decide

theorem eq_or_eq_other (one party : Party) : one = party ∨ one = party.other := by
  cases one <;> cases party <;> decide

theorem forall_iff {P : Party → Prop} : (∀ party, P party) ↔ P left ∧ P right := by
  constructor
  · intro each
    exact ⟨each left, each right⟩
  · rintro ⟨first, second⟩ (_ | _)
    · exact first
    · exact second

instance (P : Party → Prop) [DecidablePred P] : Decidable (∀ party, P party) :=
  decidable_of_iff _ forall_iff.symm

end Party

/-- The request is for the store. -/
def Request.IsStore : Request → Prop
  | .store _ => True
  | _ => False

instance : DecidablePred Request.IsStore
  | .store _ => .isTrue trivial
  | .engine _ | .now | .newId => .isFalse id

instance : DecidablePred Request.IsEngine
  | .engine _ => .isTrue trivial
  | .store _ | .now | .newId => .isFalse id

/-- The key of the job that a request is about. -/
def Request.key? : Request → Option String
  | .engine request => some request.key
  | _ => none

/-- A request with its answer. -/
structure AnsweredRequest where
  request : Request
  answer : request.Answer

/-- The ids under which the store has done something. -/
def AnsweredRequest.written : AnsweredRequest → List Uuid
  | ⟨.store (.save _ record), .ok _⟩ => record.id.toList
  | ⟨.store (.saveAll _ records), .ok _⟩ => records.filterMap (·.id)
  | ⟨.store (.delete _ id), .ok _⟩ => [id]
  | _ => []

theorem Request.isEngine_of_key? {request : Request} {key : String}
    (about : request.key? = some key) :
    request.IsEngine := by
  cases request with
  | engine request => trivial
  | store request => simp [key?] at about
  | now => simp [key?] at about
  | newId => simp [key?] at about

theorem Request.IsStore.not_isEngine {request : Request} (store : request.IsStore) :
    ¬ request.IsEngine := by
  cases request with
  | store request => exact not_false
  | engine request => exact store.elim
  | now => exact store.elim
  | newId => exact store.elim

/-- Only the store writes timers. -/
theorem AnsweredRequest.isStore_of_mem_written {exchange : AnsweredRequest} {id : Uuid}
    (written : id ∈ exchange.written) : exchange.request.IsStore := by
  obtain ⟨request, answer⟩ := exchange
  cases request with
  | store request => trivial
  | engine request => simp [AnsweredRequest.written] at written
  | now => simp [AnsweredRequest.written] at written
  | newId => simp [AnsweredRequest.written] at written

/-- What two parties have exchanged with store, engine, clock and source of ids, the last first. -/
abbrev Journal : Type := List (Party × AnsweredRequest)

namespace Journal

/-- The party has written or deleted the timer under the id. -/
def Wrote (journal : Journal) (party : Party) (id : Uuid) : Prop :=
  ∃ entry ∈ journal, entry.1 = party ∧ id ∈ entry.2.written

/-- The party was ahead of the other at the timer under the id: whenever it wrote the timer the
other had not yet asked the store for anything, and whenever it asked for the timer's job the other
had not yet asked the engine for anything. -/
def Ahead (journal : Journal) (party : Party) (id : Uuid) : Prop :=
  journal.Pairwise fun later earlier => later.1 = party → earlier.1 = party.other →
    (id ∈ later.2.written → ¬ earlier.2.request.IsStore) ∧
      (later.2.request.key? = some id.toText → ¬ earlier.2.request.IsEngine)

/-- Both parties wrote the timer under the id, and neither was ahead of the other there. -/
def Contested (journal : Journal) (id : Uuid) : Prop :=
  (∀ party, journal.Wrote party id) ∧ ∀ party, ¬ journal.Ahead party id

/-- The party has not written the timer under the id, or was ahead of the other there. -/
def Leads (journal : Journal) (party : Party) (id : Uuid) : Prop :=
  journal.Wrote party id → journal.Ahead party id

instance (journal : Journal) (party : Party) (id : Uuid) : Decidable (journal.Wrote party id) :=
  inferInstanceAs (Decidable (∃ entry ∈ journal, entry.1 = party ∧ id ∈ entry.2.written))

instance (journal : Journal) (party : Party) (id : Uuid) : Decidable (journal.Ahead party id) :=
  inferInstanceAs (Decidable (List.Pairwise _ journal))

instance (journal : Journal) (id : Uuid) : Decidable (journal.Contested id) :=
  inferInstanceAs
    (Decidable ((∀ party, journal.Wrote party id) ∧ ∀ party, ¬ journal.Ahead party id))

variable {journal : Journal} {party : Party} {id : Uuid} {entry : Party × AnsweredRequest}

theorem Wrote.cons (wrote : journal.Wrote party id) (entry : Party × AnsweredRequest) :
    Journal.Wrote (entry :: journal) party id := by
  obtain ⟨earlier, member, own, written⟩ := wrote
  exact ⟨earlier, List.mem_cons_of_mem entry member, own, written⟩

/-- Who leads has led before. -/
theorem Leads.of_cons (leads : Journal.Leads (entry :: journal) party id) :
    journal.Leads party id := by
  intro wrote
  exact (List.pairwise_cons.mp (leads (wrote.cons entry))).2

theorem Wrote.exists_isStore (wrote : journal.Wrote party id) :
    ∃ exchange, (party, exchange) ∈ journal ∧ exchange.request.IsStore := by
  obtain ⟨⟨_, exchange⟩, member, rfl, written⟩ := wrote
  exact ⟨exchange, member, AnsweredRequest.isStore_of_mem_written written⟩

/-- When a party that leads writes the timer, the other has not asked the store yet. -/
theorem Leads.unasked_store {exchange earlier : AnsweredRequest}
    (leads : Journal.Leads ((party, exchange) :: journal) party id)
    (written : id ∈ exchange.written) (member : (party.other, earlier) ∈ journal) :
    ¬ earlier.request.IsStore := by
  have ahead := leads ⟨(party, exchange), List.mem_cons_self, rfl, written⟩
  exact ((List.pairwise_cons.mp ahead).1 _ member rfl rfl).1 written

/-- When a party that leads asks for the job of the timer that it wrote, the other has not asked the
engine yet. -/
theorem Leads.unasked_engine {exchange earlier : AnsweredRequest}
    (leads : Journal.Leads ((party, exchange) :: journal) party id) (wrote : journal.Wrote party id)
    (about : exchange.request.key? = some id.toText) (member : (party.other, earlier) ∈ journal) :
    ¬ earlier.request.IsEngine := by
  have ahead := leads (wrote.cons _)
  exact ((List.pairwise_cons.mp ahead).1 _ member rfl rfl).2 about

/-- Where a timer is not contested, one of the parties leads. -/
theorem exists_leads (uncontested : ¬ journal.Contested id) : ∃ party, journal.Leads party id := by
  by_cases both : ∀ party, journal.Wrote party id
  · by_contra none
    apply uncontested
    exact ⟨both, fun party ahead => none ⟨party, fun _ => ahead⟩⟩
  · obtain ⟨party, unwritten⟩ := not_forall.mp both
    exact ⟨party, fun wrote => absurd wrote unwritten⟩

end Journal

namespace Procedure

variable {δ α : Type}

/-- The next request, if there is one, is one of these. -/
def AsksNext (allowed : Request → Prop) : Procedure δ α → Prop
  | .ask request _ => allowed request
  | _ => True

instance (allowed : Request → Prop) [DecidablePred allowed] :
    DecidablePred (AsksNext allowed : Procedure δ α → Prop)
  | .ask request _ => inferInstanceAs (Decidable (allowed request))
  | .done _ | .fail _ => .isTrue trivial

end Procedure

/-- Two operations under way in one world. -/
structure Duo (ε : Type) (α : Party → Type) where
  world : World MemoryStore ε
  operation : (party : Party) → Procedure RegistryError (α party)
  journal : Journal

namespace Duo

variable {ε : Type} {α : Party → Type}

/-- Two operations that have not asked for anything yet. -/
def begin (world : World MemoryStore ε)
    (operation : (party : Party) → Procedure RegistryError (α party)) :
    Duo ε α :=
  ⟨world, operation, []⟩

/-- Both operations have come to their ends. -/
def Over (duo : Duo ε α) : Prop := ∀ party, (duo.operation party).Ended

instance (duo : Duo ε α) : Decidable duo.Over :=
  inferInstanceAs (Decidable (∀ party, (duo.operation party).Ended))

variable [SchedulingEngine ε]

/-- The party makes its next request, if it has one. -/
def step (duo : Duo ε α) (party : Party) : Duo ε α :=
  match duo.operation party with
  | .ask request next =>
    let (answer, world) := duo.world.answer request
    ⟨world, Function.update duo.operation party (next answer),
      (party, ⟨request, answer⟩) :: duo.journal⟩
  | _ => duo

/-- The parties take turns in this order. -/
def play (duo : Duo ε α) (turns : List Party) : Duo ε α := turns.foldl step duo

/-- Every request is one of these in the world in which it is made. -/
def Throughout (P : World MemoryStore ε → Request → Prop) (duo : Duo ε α) : List Party → Prop
  | [] => True
  | party :: turns => (duo.operation party).AsksNext (P duo.world) ∧
      (duo.step party).Throughout P turns

/-- Whether requests are allowed can be found out by letting the parties take their turns. -/
instance Throughout.decidable (P : World MemoryStore ε → Request → Prop)
    [∀ world request, Decidable (P world request)] (duo : Duo ε α) :
    (turns : List Party) → Decidable (duo.Throughout P turns)
  | [] => .isTrue trivial
  | party :: turns =>
    have := Throughout.decidable P (duo.step party) turns
    inferInstanceAs (Decidable (_ ∧ _))

theorem step_of_ask {duo : Duo ε α} {party : Party} {request : Request}
    {next : request.Answer → Procedure RegistryError (α party)}
    (asks : duo.operation party = .ask request next) :
    duo.step party = ⟨(duo.world.answer request).2,
      Function.update duo.operation party (next (duo.world.answer request).1),
      (party, ⟨request, (duo.world.answer request).1⟩) :: duo.journal⟩ := by
  unfold step
  rw [asks]

/-- A turn is idle, or it is one request of the party. -/
theorem step_cases (duo : Duo ε α) (party : Party) :
    duo.step party = duo ∨
    ∃ (request : Request) (next : request.Answer → Procedure RegistryError (α party)),
      duo.operation party = .ask request next ∧
        duo.step party = ⟨(duo.world.answer request).2,
          Function.update duo.operation party (next (duo.world.answer request).1),
          (party, ⟨request, (duo.world.answer request).1⟩) :: duo.journal⟩ := by
  cases asks : duo.operation party with
  | ask request next => exact .inr ⟨request, next, rfl, step_of_ask asks⟩
  | done a =>
    left
    unfold step
    rw [asks]
  | fail e =>
    left
    unfold step
    rw [asks]

end Duo

end Horarium
