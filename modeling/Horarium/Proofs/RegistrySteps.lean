/-
Module: Horarium.Proofs.RegistrySteps
Purpose: What the operations of the registry do, in steps after each of which every job under the id
  of a timer of the tenant is settled. An operation that meets an unavailable engine ends in one
  more write, whose job is left as it was.
Trusted boundary: none
Main exports: Settled, Stray, Link, Chain, Progress, Chain.sound, Progress.chain
-/
import Horarium.Proofs.RegistryWrites
import Horarium.Proofs.UuidText
import Mathlib.Logic.Relation

namespace Horarium

variable {ε : Type} [JobEngine ε] {c : Circumstances} {world middle after : World MemoryStore ε}
  {ctx : Context} {id : Uuid} {new : Option TimerRecord}

/-- Records of one tenant have changed, and the jobs under their ids have been settled. -/
structure Settled (ctx : Context) (world after : World MemoryStore ε) : Prop where
  within : MemoryStore.Within ctx.tenant world.store after.store
  sound : after.store.Sound
  jobs : ∀ id : Uuid, after.roster id.toText = settle ctx id (world.store.stored ctx.tenant id)
    (after.store.stored ctx.tenant id) (world.roster id.toText)
  others : ∀ key, (∀ id : Uuid, id.toText ≠ key) → after.roster key = world.roster key

/-- One record of the tenant has been set, and what it asks of the engine has been asked in vain. -/
structure Stray (ctx : Context) (id : Uuid) (new : Option TimerRecord)
    (world after : World MemoryStore ε) : Prop where
  sets : MemoryStore.Sets ctx.tenant id new world.store after.store
  sound : after.store.Sound
  roster : after.roster = world.roster
  differs : demandOf (world.store.stored ctx.tenant id) ≠ demandOf new

/-- A settled step that stores new timers under generated ids only. -/
structure Link (c : Circumstances) (ctx : Context) (world after : World MemoryStore ε) : Prop
    extends Settled ctx world after where
  generated : ∀ {id record}, world.store.stored ctx.tenant id = none →
    after.store.stored ctx.tenant id = some record → c.mayGenerate world.store world.roster id

/-- Any number of settled steps. -/
abbrev Chain (c : Circumstances) (ctx : Context) :
    World MemoryStore ε → World MemoryStore ε → Prop :=
  Relation.ReflTransGen (Link c ctx)

/-- Settled steps, and after them at most one write that met an unavailable engine and left a record
such as `left` tells; the operation has then failed with an error such as `stops` tells. -/
def Progress {δ α : Type} (c : Circumstances) (ctx : Context) (stops : δ → Prop)
    (left : Option TimerRecord → Prop) (world : World MemoryStore ε) (outcome : Except δ α)
    (after : World MemoryStore ε) : Prop :=
  Chain c ctx world after ∨ c.outage ∧ (∃ e, outcome = .error e ∧ stops e) ∧
    ∃ middle id new, Chain c ctx world middle ∧ left new ∧ Stray ctx id new middle after

/-- Where nothing is changed, everything is settled. -/
theorem Settled.of_idle (sound : world.store.Sound) (store : after.store = world.store)
    (roster : after.roster = world.roster) : Settled ctx world after where
  within := store ▸ .refl _ _
  sound := store ▸ sound
  jobs id := by rw [store, roster, settle_of_demand_eq rfl]
  others key _ := by rw [roster]

theorem Link.of_idle (sound : world.store.Sound) (store : after.store = world.store)
    (roster : after.roster = world.roster) : Link c ctx world after where
  toSettled := .of_idle sound store roster
  generated := by
    intro id record absent present
    rw [store, absent] at present
    simp at present

theorem Refused.link {δ α : Type} {outcome : Except δ α} (refused : Refused world outcome after)
    (sound : world.store.Sound) : Link c ctx world after :=
  .of_idle sound refused.store refused.roster

theorem Chain.sound (chain : Chain c ctx world after) (sound : world.store.Sound) :
    after.store.Sound := by
  induction chain with
  | refl => exact sound
  | tail _ link _ => exact link.sound

theorem Chain.within (chain : Chain c ctx world after) :
    MemoryStore.Within ctx.tenant world.store after.store := by
  induction chain with
  | refl => exact .refl _ _
  | tail _ link ih => exact ih.trans link.within

theorem Chain.others (chain : Chain c ctx world after) {key : String}
    (free : ∀ id : Uuid, id.toText ≠ key) : after.roster key = world.roster key := by
  induction chain with
  | refl => rfl
  | tail _ link ih => rw [link.others key free, ih]

/-- Setting one record and settling the job under its id settles everything. -/
theorem MemoryStore.Sets.settled (sets : MemoryStore.Sets ctx.tenant id new world.store after.store)
    (sound : after.store.Sound)
    (roster : after.roster = Function.update world.roster id.toText
      (settle ctx id (world.store.stored ctx.tenant id) new (world.roster id.toText))) :
    Settled ctx world after where
  within := sets.toWithin
  sound := sound
  jobs other := by
    rw [roster, sets.stored]
    by_cases same : other = id
    · rw [same, Function.update_self, if_pos rfl]
    · have apart : other.toText ≠ id.toText := fun texts => same (Uuid.toText_injective texts)
      rw [Function.update_of_ne apart, if_neg same, settle_of_demand_eq rfl]
  others key free := by rw [roster, Function.update_of_ne (Ne.symm (free id))]

/-- A write either settles the job under its id or strays. -/
theorem Written.settled_or_stray {α : Type} {outcome : Except RegistryError α}
    (written : Written c ctx id new world outcome after) :
    Settled ctx world after ∨ c.outage ∧ (∃ e, outcome = .error e ∧ e.IsScheduling) ∧
      Stray ctx id new world after := by
  rcases written.engine with ⟨_, roster⟩ | ⟨⟨detail, failed⟩, outage, roster, differs⟩
  · exact .inl (written.sets.settled written.sound roster)
  · exact .inr ⟨outage, ⟨_, failed, _, rfl⟩, written.sets, written.sound, roster, differs⟩

theorem Written.settled_of_ok {α : Type} {a : α}
    (written : Written c ctx id new world (.ok a) after) :
    Settled ctx world after := by
  rcases written.settled_or_stray with settled | ⟨_, ⟨e, failed, _⟩, _⟩
  · exact settled
  · simp at failed

theorem Written.settled_of_steady {α : Type} {outcome : Except RegistryError α}
    (written : Written c ctx id new world outcome after) (steady : ¬ c.outage) :
    Settled ctx world after := by
  rcases written.settled_or_stray with settled | ⟨outage, _⟩
  · exact settled
  · exact absurd outage steady

/-- What a write that succeeds does to any one id. -/
theorem Written.slot {α : Type} {a : α} (written : Written c ctx id new world (.ok a) after)
    (other : Uuid) :
    after.store.stored ctx.tenant other =
        (if other = id then new else world.store.stored ctx.tenant other) ∧
      after.roster other.toText =
        if other = id then
          settle ctx other (world.store.stored ctx.tenant other) new (world.roster other.toText)
        else world.roster other.toText := by
  have stored := written.sets.stored other
  refine ⟨stored, ?_⟩
  rw [written.settled_of_ok.jobs, stored]
  split
  · rfl
  · exact settle_of_demand_eq rfl

/-- A write that stores something new under a generated id only is a link. -/
theorem Written.progress {α : Type} {outcome : Except RegistryError α}
    {left : Option TimerRecord → Prop} (written : Written c ctx id new world outcome after)
    (leaves : left new)
    (generated : world.store.stored ctx.tenant id = none → new ≠ none →
      c.mayGenerate world.store world.roster id) :
    Progress c ctx RegistryError.IsScheduling left world outcome after := by
  rcases written.settled_or_stray with settled | ⟨outage, failed, stray⟩
  · refine .inl (.single ⟨settled, ?_⟩)
    intro other record absent present
    rw [written.sets.stored] at present
    split at present
    · rename_i same
      subst same
      exact generated absent (by simp [present])
    · simp [absent] at present
  · exact .inr ⟨outage, failed, world, id, new, .refl, leaves, stray⟩

/-- Progress that ends well consists of settled steps. -/
theorem Progress.chain {δ α : Type} {stops : δ → Prop} {left : Option TimerRecord → Prop} {a : α}
    (progress : Progress c ctx stops left world (.ok a) after) : Chain c ctx world after := by
  rcases progress with chain | ⟨_, ⟨e, failed, _⟩, _⟩
  · exact chain
  · simp at failed

/-- Without outages, all progress consists of settled steps. -/
theorem Progress.chain_of_steady {δ α : Type} {stops : δ → Prop} {left : Option TimerRecord → Prop}
    {outcome : Except δ α} (progress : Progress c ctx stops left world outcome after)
    (steady : ¬ c.outage) :
    Chain c ctx world after := by
  rcases progress with chain | ⟨outage, _⟩
  · exact chain
  · exact absurd outage steady

theorem Progress.prepend {δ α : Type} {stops : δ → Prop} {left : Option TimerRecord → Prop}
    {outcome : Except δ α} (chain : Chain c ctx world middle)
    (progress : Progress c ctx stops left middle outcome after) :
    Progress c ctx stops left world outcome after := by
  rcases progress with rest | ⟨outage, failed, last, id, new, rest, leaves, stray⟩
  · exact .inl (chain.trans rest)
  · exact .inr ⟨outage, failed, last, id, new, chain.trans rest, leaves, stray⟩

/-- The error of an operation may be put into other terms. -/
theorem Progress.of_error {δ η α β : Type} {stops : δ → Prop} {halts : η → Prop}
    {left : Option TimerRecord → Prop} {e : δ} {f : η}
    (progress : Progress c ctx stops left world (.error e : Except δ α) after)
    (means : stops e → halts f) :
    Progress c ctx halts left world (.error f : Except η β) after := by
  rcases progress with chain | ⟨outage, ⟨_, same, stopped⟩, rest⟩
  · exact .inl chain
  · exact .inr ⟨outage, ⟨f, rfl, means (Except.error.inj same ▸ stopped)⟩, rest⟩

/-- What is left behind may be told in other terms. -/
theorem Progress.weaken {δ α : Type} {stops : δ → Prop} {left leaves : Option TimerRecord → Prop}
    {outcome : Except δ α} (progress : Progress c ctx stops left world outcome after)
    (means : ∀ new, left new → leaves new) : Progress c ctx stops leaves world outcome after := by
  rcases progress with chain | ⟨outage, stopped, last, id, new, rest, lefts, stray⟩
  · exact .inl chain
  · exact .inr ⟨outage, stopped, last, id, new, rest, means new lefts, stray⟩

/-- An error that is not about the engine comes after settled steps only. -/
theorem Progress.chain_of_error {δ α : Type} {stops : δ → Prop} {left : Option TimerRecord → Prop}
    {e : δ} (progress : Progress c ctx stops left world (.error e : Except δ α) after)
    (other : ¬ stops e) :
    Chain c ctx world after := by
  rcases progress with chain | ⟨_, ⟨_, same, stopped⟩, _⟩
  · exact chain
  · exact absurd (Except.error.inj same ▸ stopped) other

namespace Registry

theorem delete_progress {outcome : Except RegistryError PUnit} (sound : world.store.Sound)
    (runs : World.Runs c.Admits world (delete ctx id) outcome after) :
    Progress c ctx RegistryError.IsScheduling (· = none) world outcome after := by
  rcases delete_written sound runs with ⟨_, refused⟩ | written
  · exact .inl (.single (refused.link sound))
  · exact written.progress rfl fun _ present => absurd rfl present

/-- Deletions one after the other, by induction on the records: the first that fails is the last. -/
theorem deleteEach_progress {records : List TimerRecord} {outcome : Except RegistryError Nat}
    (sound : world.store.Sound)
    (runs : World.Runs c.Admits world (deleteEach ctx records) outcome after) :
    Progress c ctx RegistryError.IsScheduling (· = none) world outcome after := by
  induction records generalizing world outcome with
  | nil =>
    obtain ⟨rfl, rfl⟩ := runs.done_inv
    exact .inl .refl
  | cons record records ih =>
    unfold deleteEach at runs
    cases given : record.id with
    | none =>
      rw [given] at runs
      exact ih sound runs
    | some id =>
      rw [given] at runs
      rcases runs.bind_inv with ⟨_, middle, first, rest⟩ | ⟨e, first, rfl⟩
      · have chain := (delete_progress sound first).chain
        rcases rest.bind_inv with ⟨n, last, others, counted⟩ | ⟨e, others, rfl⟩
        · obtain ⟨rfl, rfl⟩ := counted.done_inv
          exact .inl (chain.trans (ih (chain.sound sound) others).chain)
        · exact (ih (chain.sound sound) others).prepend chain |>.of_error fun stopped => stopped
      · exact (delete_progress sound first).of_error fun stopped => stopped

end Registry

end Horarium
