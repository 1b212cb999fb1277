/-
Module: Horarium.Proofs.ChangeSteps
Purpose: What one request of a change means. A change looks for its timer, writes it, and then has
  the engine follow from the version that it has found. For the timer under any one id, a request
  means nothing, or it writes the timer, or it asks for the timer's job.
Trusted boundary: none
Main exports: Insight, Drafts, Holds, Drafting, Standing, Upkeep, Move
-/
import Horarium.Proofs.Interleaving
import Horarium.Proofs.JobRequests
import Horarium.Proofs.TenantAgreement

namespace Horarium

/-! ### How a change gets to its write -/

/-- What an operation knows about the timer that it is going to write: it has not asked for
anything, it has asked in vain, or it has found what is stored under the timer's id, if anything
is. -/
inductive Insight where
  | blank
  | vain
  | found (id : Uuid) (before : Option TimerRecord)

/-- What is known once a search has been in vain. -/
def Insight.searched : Insight → Insight
  | blank => vain
  | insight => insight

/-- An operation that has still to look for its timer, or to write it. It writes the timer that it
knows, and then has the engine follow from the version that it knows. It may bring a new timer under
one of these ids, or under a generated one. -/
inductive Drafts {α : Type} (ctx : Context) (free : Uuid → Prop) :
    Insight → Registry.Operation α → Prop where
  | done (insight : Insight) (a : α) : Drafts ctx free insight (.done a)
  | fail (insight : Insight) (e : RegistryError) : Drafts ctx free insight (.fail e)
  | find {insight : Insight} {id : Uuid}
      {next : Except StoreError (Option TimerRecord) → Registry.Operation α}
      (failed : ∀ e, (next (.error e)).Ended) (absent : (next (.ok none)).Ended)
      (present : ∀ record, record.id = some id →
        Drafts ctx free (.found id (some record)) (next (.ok (some record)))) :
      Drafts ctx free insight (.ask (.store (.findById ctx.tenant id)) next)
  | check {insight : Insight} {id : Uuid}
      {next : Except StoreError (Option TimerRecord) → Registry.Operation α} (allowed : free id)
      (failed : ∀ e, (next (.error e)).Ended) (taken : ∀ record, (next (.ok (some record))).Ended)
      (absent : Drafts ctx free (.found id none) (next (.ok none))) :
      Drafts ctx free insight (.ask (.store (.findById ctx.tenant id)) next)
  | search {insight : Insight} {key : String}
      {next : Except StoreError (Option TimerRecord) → Registry.Operation α}
      (failed : ∀ e, (next (.error e)).Ended)
      (absent : Drafts ctx free insight.searched (next (.ok none)))
      (present : ∀ id record, record.id = some id →
        Drafts ctx free (.found id (some record)) (next (.ok (some record)))) :
      Drafts ctx free insight (.ask (.store (.findByNaturalKey ctx.tenant key)) next)
  | now {insight : Insight} {next : Instant → Registry.Operation α}
      (rest : ∀ now, Drafts ctx free insight (next now)) : Drafts ctx free insight (.ask .now next)
  | newId {insight : Insight} {next : Uuid → Registry.Operation α} (begun : insight ≠ .blank)
      (rest : ∀ id, Drafts ctx free (.found id none) (next id)) :
      Drafts ctx free insight (.ask .newId next)
  | save {id : Uuid} {before : Option TimerRecord} {record : TimerRecord}
      {next : Except StoreError TimerRecord → Registry.Operation α} (named : record.id = some id)
      (keyed : ∃ key, record.naturalKey = .ok key) (schedulable : record.Schedulable)
      (failed : ∀ e, (next (.error e)).Ended)
      (saved : (next (.ok record)).Follows ctx id before (some record)) :
      Drafts ctx free (.found id before) (.ask (.store (.save ctx.tenant record)) next)
  | delete {id : Uuid} {before : Option TimerRecord} {next : Except StoreError Bool →
      Registry.Operation α} (failed : ∀ e, (next (.error e)).Ended)
      (deleted : ∀ answer, (next (.ok answer)).Follows ctx id before none) :
      Drafts ctx free (.found id before) (.ask (.store (.delete ctx.tenant id)) next)

section Drafts

variable {α : Type} {ctx : Context} {free : Uuid → Prop} {insight : Insight} {id : Uuid}
  {input record existing : TimerRecord} {before : Option TimerRecord}

theorem Drafts.of_ended {p : Registry.Operation α} (ended : p.Ended) :
    Drafts ctx free insight p := by
  cases p with
  | done a => exact .done _ a
  | fail e => exact .fail _ e
  | ask request next => exact ended.elim

theorem Drafts.ofExcept_bind {η β : Type} {f : η → RegistryError} {result : Except η β}
    {next : β → Registry.Operation α}
    (rest : ∀ b, result = .ok b → Drafts ctx free insight (next b)) :
    Drafts ctx free insight (Procedure.ofExcept f result >>= next) := by
  cases result with
  | error e => exact .fail _ (f e)
  | ok b => exact rest b rfl

/-- An operation that has not written yet does not ask the engine. -/
theorem Drafts.effect {p : Registry.Operation α} (drafts : Drafts ctx free insight p) (key : String)
    (job : Option Job) : p.effect key job = job := by
  cases drafts <;> rfl

namespace Registry

/-- Storing a version and having the engine follow. -/
theorem save_drafts {β : Type} {step : TimerRecord → Procedure TriggerError β}
    (named : record.id = some id) (keyed : ∃ key, record.naturalKey = .ok key)
    (schedulable : record.Schedulable)
    (follows : (step record).Follows ctx id before (some record)) :
    Drafts ctx free (.found id before)
      (ask (.save ctx.tenant record) >>= fun saved => reconcile (step saved) >>=
        fun _ => .done saved) := by
  apply Drafts.save named keyed schedulable
  · exact fun _ => trivial
  · exact (follows.mapError _).bind_done record

theorem applyUpdate_drafts (known : existing.id = some id) (named : record.id = some id)
    (keyed : ∃ key, record.naturalKey = .ok key) (schedulable : record.Schedulable) :
    Drafts ctx free (.found id (some existing)) (applyUpdate ctx existing record) := by
  apply Drafts.now
  intro now
  apply save_drafts
  · exact named
  · exact keyed
  · exact schedulable
  · exact Reconcile.reschedule_follows known named schedulable

theorem insert_drafts (given : ∀ id, record.id = some id → insight = .found id none)
    (begun : insight ≠ .blank) (keyed : ∃ key, record.naturalKey = .ok key)
    (schedulable : record.Schedulable) : Drafts ctx free insight (insert ctx record) := by
  have saves : ∀ now id, Drafts ctx free (.found id none)
      (ask (.save ctx.tenant (record.version ctx now id none)) >>= fun saved =>
        reconcile (Reconcile.schedule ctx saved) >>= fun _ => .done saved) := by
    intro now id
    have named : (record.version ctx now id none).id = some id := rfl
    have same : (record.version ctx now id none).routingEntry = record.routingEntry := rfl
    have ready := schedulable.of_routingEntry same
    exact save_drafts named keyed ready (Reconcile.schedule_follows named ready)
  apply Drafts.now
  intro now
  cases named : record.id with
  | some id =>
    rw [given id named]
    exact saves now id
  | none =>
    apply Drafts.newId begun
    intro id
    exact saves now id

/-- An id that is refused if it is taken is known to be free from then on. -/
theorem refuseTaken_drafts {given : Option Uuid} {next : PUnit → Registry.Operation α}
    (allowed : ∀ id, given = some id → free id)
    (rest : ∀ insight : Insight, (∀ id, given = some id → insight = .found id none) →
      Drafts ctx free insight (next ⟨⟩)) :
    Drafts ctx free .blank (refuseTaken ctx given >>= next) := by
  cases given with
  | none =>
    apply rest
    simp
  | some id =>
    apply Drafts.check (allowed id rfl)
    · exact fun _ => trivial
    · exact fun _ => trivial
    · apply rest
      intro other same
      rw [Option.some.inj same]

theorem create_drafts (allowed : ∀ id, input.id = some id → free id) :
    Drafts ctx free .blank (create ctx input) := by
  apply refuseTaken_drafts allowed
  intro insight given
  apply Drafts.ofExcept_bind
  intro record prepared
  have schedulable := TimerRecord.schedulable_of_prepare prepared
  apply Drafts.ofExcept_bind
  intro key keyed
  apply Drafts.search
  · exact fun _ => trivial
  · apply insert_drafts
    · intro id named
      rw [TimerRecord.id_of_prepare prepared] at named
      rw [given id named]
      rfl
    · cases insight <;> simp [Insight.searched]
    · exact ⟨key, keyed⟩
    · exact schedulable
  · intro id existing known
    have writes : Drafts ctx free (.found id (some existing))
        (applyUpdate ctx existing { record with id := some id }) :=
      applyUpdate_drafts known rfl ⟨key, keyed⟩ schedulable
    simpa [Procedure.ofExcept, Procedure.bind, known] using writes

theorem update_drafts : Drafts ctx free .blank (update ctx id input) := by
  unfold update
  split
  · exact .fail _ _
  · rename_i matching
    have named : input.id = some id := by simpa using matching
    apply Drafts.ofExcept_bind
    intro record prepared
    apply Drafts.find
    · exact fun _ => trivial
    · trivial
    · intro existing known
      apply applyUpdate_drafts known
      · exact (TimerRecord.id_of_prepare prepared).trans named
      · exact TimerRecord.exists_naturalKey_of_prepare prepared
      · exact TimerRecord.schedulable_of_prepare prepared

theorem delete_drafts : Drafts ctx free .blank (delete ctx id) := by
  apply Drafts.find
  · exact fun _ => trivial
  · trivial
  · intro existing known
    apply Drafts.delete
    · exact fun _ => trivial
    · exact fun _ => (Reconcile.unschedule_follows known).mapError _

end Registry

end Drafts

/-! ### One request -/

section Steps

variable {ε : Type} [JobEngine ε]

/-- An id that is generated is stored by no tenant and has no job. -/
def UnusedIds (world : World MemoryStore ε) : Request → Prop
  | .newId => Circumstances.unused.mayGenerate world.store world.roster world.nextId
  | _ => True

instance (world : World MemoryStore ε) : (request : Request) → Decidable (UnusedIds world request)
  | .newId => @instDecidableAnd _ _ (decidable_of_iff _ (MemoryStore.stored_eq_none_iff _ _).symm) _
  | .store _ | .engine _ | .now => .isTrue trivial

/-- What is stored for the tenant under the id is this, and if it is nothing, no other tenant has a
job there. -/
structure Holds (tenant : String) (world : World MemoryStore ε) (id : Uuid)
    (before : Option TimerRecord) :
    Prop where
  stored : world.store.stored tenant id = before
  own : before = none → Owned tenant (world.roster id.toText)

variable {α : Type} {ctx : Context} {free : Uuid → Prop} {insight : Insight}
  {world : World MemoryStore ε}

/-- The request has changed neither store nor engine. -/
structure Idles (world after : World MemoryStore ε) (exchange : AnsweredRequest) : Prop where
  store : after.store = world.store
  engine : after.engine = world.engine
  written : exchange.written = []
  other : ¬ exchange.request.IsEngine

theorem Idles.roster {after : World MemoryStore ε} {exchange : AnsweredRequest}
    (idles : Idles world after exchange) : after.roster = world.roster :=
  congrArg JobEngine.roster idles.engine

theorem Holds.of_idles {tenant : String} {id : Uuid} {before : Option TimerRecord}
    {after : World MemoryStore ε} {exchange : AnsweredRequest}
    (holds : Holds tenant world id before) (idles : Idles world after exchange) :
    Holds tenant after id before where
  stored := by
    rw [idles.store]
    exact holds.stored
  own := by
    rw [idles.roster]
    exact holds.own

/-- What one request makes of an operation that has not written yet: it finds something out, or has
written the timer that it knows and has only the engine left. -/
inductive Advances (ctx : Context) (free : Uuid → Prop) (insight : Insight)
    (world after : World MemoryStore ε) (exchange : AnsweredRequest) (rest : Registry.Operation α) :
    Prop where
  | looks (next : Insight) (idles : Idles world after exchange)
      (begun : next ≠ .blank → insight ≠ .blank ∨ exchange.request.IsStore)
      (learned : ∀ id before, next = .found id before →
        insight = next ∨ Holds ctx.tenant world id before)
      (drafts : Drafts ctx free next rest)
  | writes (id : Uuid) (before new : Option TimerRecord) (known : insight = .found id before)
      (sets : MemoryStore.Sets ctx.tenant id new world.store after.store)
      (engine : after.engine = world.engine) (written : exchange.written = [id])
      (store : exchange.request.IsStore) (schedulable : ∀ record, new = some record →
        record.Schedulable)
      (follows : rest.Follows ctx id before new)

section Advances

variable {after : World MemoryStore ε} {exchange : AnsweredRequest} {rest : Registry.Operation α}

theorem Advances.ends (idles : Idles world after exchange) (ended : rest.Ended) :
    Advances ctx free insight world after exchange rest :=
  .looks insight idles .inl (fun _ _ _ => .inl rfl) (.of_ended ended)

theorem Advances.finds {id : Uuid} {before : Option TimerRecord}
    (idles : Idles world after exchange) (begun : insight ≠ .blank ∨ exchange.request.IsStore)
    (holds : Holds ctx.tenant world id before) (drafts : Drafts ctx free (.found id before) rest) :
    Advances ctx free insight world after exchange rest := by
  apply Advances.looks (.found id before) idles (fun _ => begun)
  · rintro _ _ ⟨⟩
    exact .inr holds
  · exact drafts

end Advances

theorem Drafts.advances {request : Request} {next : request.Answer → Registry.Operation α}
    (drafts : Drafts ctx free insight (.ask request next)) (good : world.store.WellFormed)
    (own : ∀ id, free id → Owned ctx.tenant (world.roster id.toText))
    (unused : UnusedIds world request) :
    Advances ctx free insight world (world.answer request).2 ⟨request, (world.answer request).1⟩
      (next (world.answer request).1) := by
  cases drafts with
  | @find _ id _ failed absent present =>
    rcases MemoryStore.answer_findById world.store ctx.tenant id with ⟨_, answered⟩ | ⟨_, answered⟩
    · rw [World.answer_store answered]
      exact .ends ⟨rfl, rfl, rfl, not_false⟩ (failed _)
    · rw [World.answer_store answered]
      cases held : world.store.stored ctx.tenant id with
      | none => exact .ends ⟨rfl, rfl, rfl, not_false⟩ absent
      | some record =>
        apply Advances.finds
        · exact ⟨rfl, rfl, rfl, not_false⟩
        · exact .inr trivial
        · exact ⟨held, by simp⟩
        · exact present record (good.id_of_stored held)
  | @check _ id _ allowed failed taken absent =>
    rcases MemoryStore.answer_findById world.store ctx.tenant id with ⟨_, answered⟩ | ⟨_, answered⟩
    · rw [World.answer_store answered]
      exact .ends ⟨rfl, rfl, rfl, not_false⟩ (failed _)
    · rw [World.answer_store answered]
      cases held : world.store.stored ctx.tenant id with
      | some record => exact .ends ⟨rfl, rfl, rfl, not_false⟩ (taken record)
      | none =>
        exact .finds ⟨rfl, rfl, rfl, not_false⟩ (.inr trivial)
          ⟨held, fun _ => own id allowed⟩ absent
  | @search _ key _ failed absent present =>
    rcases MemoryStore.answer_findByNaturalKey good ctx.tenant key with
      ⟨_, answered⟩ | ⟨_, found, answered, stored, _⟩
    · rw [World.answer_store answered]
      exact .ends ⟨rfl, rfl, rfl, not_false⟩ (failed _)
    · rw [World.answer_store answered]
      cases found with
      | none =>
        apply Advances.looks insight.searched
        · exact ⟨rfl, rfl, rfl, not_false⟩
        · exact fun _ => .inr trivial
        · intro id before same
          cases insight with
          | found known old => exact .inl rfl
          | blank => simp [Insight.searched] at same
          | vain => simp [Insight.searched] at same
        · exact absent
      | some record =>
        obtain ⟨id, held, _⟩ := stored record rfl
        apply Advances.finds
        · exact ⟨rfl, rfl, rfl, not_false⟩
        · exact .inr trivial
        · exact ⟨held, by simp⟩
        · exact present id record (good.id_of_stored held)
  | now rest =>
    exact .looks insight ⟨rfl, rfl, rfl, not_false⟩ .inl (fun _ _ _ => .inl rfl) (rest _)
  | newId begun rest =>
    apply Advances.finds
    · exact ⟨rfl, rfl, rfl, not_false⟩
    · exact .inl begun
    · refine ⟨unused.1 ctx.tenant, fun _ job held => ?_⟩
      exact absurd (unused.2.symm.trans held) (by simp)
    · exact rest _
  | @save id before record _ named keyed schedulable failed saved =>
    obtain ⟨key, keyed⟩ := keyed
    rcases MemoryStore.answer_save good ctx.tenant named keyed with
      ⟨_, answered⟩ | ⟨_, answered⟩ | ⟨_, _, changed, answered, sets⟩
    · rw [World.answer_store answered]
      exact .ends ⟨rfl, rfl, rfl, not_false⟩ (failed _)
    · rw [World.answer_store answered]
      exact .ends ⟨rfl, rfl, rfl, not_false⟩ (failed _)
    · rw [World.answer_store answered]
      have written :
          (AnsweredRequest.mk (.store (.save ctx.tenant record)) (.ok record)).written = [id] := by
        simp [AnsweredRequest.written, named]
      apply Advances.writes id before (some record)
      · rfl
      · exact sets
      · rfl
      · exact written
      · trivial
      · rintro _ ⟨⟩
        exact schedulable
      · exact saved
  | @delete id before _ failed deleted =>
    rcases MemoryStore.answer_delete world.store ctx.tenant id with
      ⟨_, answered⟩ | ⟨changed, answered, sets⟩
    · rw [World.answer_store answered]
      exact .ends ⟨rfl, rfl, rfl, not_false⟩ (failed _)
    · rw [World.answer_store answered]
      exact .writes id before none rfl sets rfl rfl trivial (by simp) (deleted _)

end Steps

/-! ### Where an operation stands with the timer under an id -/

section Standing

variable {ε α : Type} {journal : Journal} {party : Party} {id : Uuid} {insight : Insight}
  {fresh after : Option TimerRecord → Prop} {entry : Party × AnsweredRequest}

/-- What is on record of a party whose operation has not written yet. It has not asked the engine
either, it has asked the store if it knows anything, and what it has found under the id still counts
in the sense of `fresh`. -/
structure Drafting (journal : Journal) (party : Party) (id : Uuid)
    (fresh : Option TimerRecord → Prop) (insight : Insight) : Prop where
  quiet : ∀ exchange, (party, exchange) ∈ journal →
    exchange.written = [] ∧ ¬ exchange.request.IsEngine
  begun : insight ≠ .blank → ∃ exchange, (party, exchange) ∈ journal ∧ exchange.request.IsStore
  reliable : ∀ before, insight = .found id before → fresh before

/-- The other party's requests do not count. What has been found goes on counting, if it does so
provided that the store has been asked. -/
theorem Drafting.cons (drafting : Drafting journal party id fresh insight) (other : entry.1 ≠ party)
    (still : ∀ before, (∃ exchange, (party, exchange) ∈ journal ∧ exchange.request.IsStore) →
      fresh before → after before) : Drafting (entry :: journal) party id after insight where
  quiet := by
    intro exchange member
    rcases List.mem_cons.mp member with rfl | earlier
    · exact absurd rfl other
    · exact drafting.quiet exchange earlier
  begun := by
    intro asked
    obtain ⟨exchange, member, store⟩ := drafting.begun asked
    exact ⟨exchange, List.mem_cons_of_mem entry member, store⟩
  reliable := by
    intro before known
    have asked : insight ≠ .blank := by simp [known]
    exact still before (drafting.begun asked) (drafting.reliable before known)

/-- A request of the party itself that changes nothing. -/
theorem Drafting.look [JobEngine ε] {tenant : String} {world later : World MemoryStore ε}
    {next : Insight} {exchange : AnsweredRequest}
    (drafting : Drafting journal party id fresh insight) (idles : Idles world later exchange)
    (begins : next ≠ .blank → insight ≠ .blank ∨ exchange.request.IsStore)
    (learned : ∀ id before, next = .found id before →
      insight = next ∨ Holds tenant world id before) :
    Drafting ((party, exchange) :: journal) party id
      (fun before => fresh before ∨ Holds tenant later id before) next where
  quiet := by
    intro earlier member
    rcases List.mem_cons.mp member with same | before
    · rw [(Prod.mk.inj same).2]
      exact ⟨idles.written, idles.other⟩
    · exact drafting.quiet earlier before
  begun := by
    intro asked
    rcases begins asked with before | store
    · obtain ⟨earlier, member, store⟩ := drafting.begun before
      exact ⟨earlier, List.mem_cons_of_mem _ member, store⟩
    · exact ⟨exchange, List.mem_cons_self, store⟩
  reliable := by
    intro before same
    rcases learned id before same with known | holds
    · exact .inl (drafting.reliable before (known.trans same))
    · exact .inr (holds.of_idles idles)

/-- Where an operation of a party stands: it has not written yet, or it tends to the job of the
timer that it wrote. -/
inductive Standing (ctx : Context) (free : Uuid → Prop) (journal : Journal) (party : Party)
    (id : Uuid) (fresh : Option TimerRecord → Prop) (p : Registry.Operation α) : Prop where
  | drafting (insight : Insight) (record : Drafting journal party id fresh insight)
      (drafts : Drafts ctx free insight p)
  | tending (own : Uuid) (wrote : journal.Wrote party own)
      (tends : p.Asks (Request.Tends ctx.tenant own))

variable {ctx : Context} {free : Uuid → Prop} {p : Registry.Operation α}

/-- What the other party asks leaves an operation where it stands. -/
theorem Standing.cons (standing : Standing ctx free journal party id fresh p)
    (other : entry.1 ≠ party)
    (still : ∀ before, (∃ exchange, (party, exchange) ∈ journal ∧ exchange.request.IsStore) →
      fresh before → after before) :
    Standing ctx free (entry :: journal) party id after p := by
  cases standing with
  | drafting insight record drafts => exact .drafting insight (record.cons other still) drafts
  | tending own wrote tends => exact .tending own (wrote.cons entry) tends

theorem Standing.mono (standing : Standing ctx free journal party id fresh p)
    (still : ∀ before, fresh before → after before) :
    Standing ctx free journal party id after p := by
  cases standing with
  | drafting insight record drafts =>
    obtain ⟨quiet, begun, reliable⟩ := record
    exact .drafting insight ⟨quiet, begun, fun before known => still before (reliable before known)⟩
      drafts
  | tending own wrote tends => exact .tending own wrote tends

/-- What an operation makes of a job of the tenant is a job of the tenant. -/
theorem Standing.owned_effect (standing : Standing ctx free journal party id fresh p)
    {job : Option Job} (owned : Owned ctx.tenant job) (key : String) :
    Owned ctx.tenant (p.effect key job) := by
  cases standing with
  | drafting insight record drafts =>
    rw [drafts.effect]
    exact owned
  | tending own wrote tends => exact Procedure.owned_effect tends owned

/-- An operation that has not asked the store has not asked the engine either, nor does it next. -/
theorem Standing.of_unasked (standing : Standing ctx free journal party id fresh p)
    (unasked : ∀ exchange, (party, exchange) ∈ journal → ¬ exchange.request.IsStore) :
    (∀ exchange, (party, exchange) ∈ journal → ¬ exchange.request.IsEngine) ∧
      ∀ key job, p.effect key job = job := by
  cases standing with
  | drafting insight record drafts =>
    exact ⟨fun exchange member => (record.quiet exchange member).2, drafts.effect⟩
  | tending own wrote tends =>
    obtain ⟨exchange, member, store⟩ := wrote.exists_isStore
    exact absurd store (unasked exchange member)

end Standing

section Move

variable {ε α : Type} [SteadyEngine ε]

/-- What every request of a tenant's operation leaves in order. -/
structure Upkeep (tenant : String) (world after : World MemoryStore ε) : Prop where
  wellFormed : after.store.WellFormed
  steady : SteadyEngine.Steady after.engine
  owned : ∀ key, Owned tenant (world.roster key) → Owned tenant (after.roster key)
  spelled : Spelled tenant world.roster → Spelled tenant after.roster

/-- What one request of an operation means for the timer under an id: nothing, or the timer has been
written and the engine is to follow from the version known, or the job has been asked for. -/
inductive Move (tenant : String) (ctx : Context) (free : Uuid → Prop) (journal : Journal)
    (party : Party) (id : Uuid) (fresh : Option TimerRecord → Prop)
    (world after : World MemoryStore ε) (exchange : AnsweredRequest)
    (p rest : Registry.Operation α) : Prop where
  | elsewhere (stored : after.store.stored tenant id = world.store.stored tenant id)
      (roster : after.roster id.toText = world.roster id.toText)
      (idle : ∀ job, p.effect id.toText job = job) (rests : ∀ job, rest.effect id.toText job = job)
      (other : exchange.request.key? ≠ some id.toText)
      (standing : Standing ctx free ((party, exchange) :: journal) party id
        (fun before => fresh before ∨ Holds tenant after id before) rest)
  | writes (before new : Option TimerRecord) (known : fresh before)
      (stored : after.store.stored tenant id = new) (roster : after.roster = world.roster)
      (schedulable : ∀ record, new = some record → record.Schedulable)
      (store : exchange.request.IsStore) (written : id ∈ exchange.written)
      (idle : ∀ job, p.effect id.toText job = job)
      (settles : ∀ job, rest.effect id.toText job = settle ctx id before new job)
      (tends : rest.Asks (Request.Tends ctx.tenant id))
  | tends (stored : after.store.stored tenant id = world.store.stored tenant id)
      (about : exchange.request.key? = some id.toText) (engine : exchange.request.IsEngine)
      (wrote : journal.Wrote party id)
      (moved : rest.effect id.toText (after.roster id.toText) =
        p.effect id.toText (world.roster id.toText))
      (tends : rest.Asks (Request.Tends ctx.tenant id))

variable {ctx : Context} {free : Uuid → Prop} {journal : Journal} {party : Party} {id : Uuid}
  {fresh : Option TimerRecord → Prop} {world : World MemoryStore ε}

theorem Upkeep.of_engine_eq {tenant : String} {world after : World MemoryStore ε}
    (wellFormed : after.store.WellFormed) (steady : SteadyEngine.Steady world.engine)
    (same : after.engine = world.engine) : Upkeep tenant world after := by
  have roster : after.roster = world.roster := congrArg JobEngine.roster same
  refine ⟨wellFormed, same ▸ steady, ?_, ?_⟩
  · rw [roster]
    exact fun _ owned => owned
  · rw [roster]
    exact fun spelled => spelled

theorem Upkeep.of_request {tenant : String} {own : Uuid} {request : EngineRequest}
    (good : world.store.WellFormed) (steady : SteadyEngine.Steady world.engine)
    (tends : Request.Tends tenant own (.engine request)) :
    Upkeep tenant world (world.answer (.engine request)).2 := by
  obtain ⟨about, forTenant, plannable⟩ := tends
  obtain ⟨_, roster⟩ := World.answer_engine steady plannable
  refine ⟨good, SteadyEngine.steady_answer steady, ?_, ?_⟩
  · intro key owned
    rw [roster]
    exact Roster.owned_answer forTenant owned
  · intro spelled key job held mine
    by_cases here : key = request.key
    · exact ⟨own, about.symm.trans here.symm⟩
    · rw [roster, Roster.answer_elsewhere here] at held
      exact spelled key job held mine

/-- An operation that has not written yet moves on. -/
theorem Drafts.move {insight : Insight} {request : Request}
    {next : request.Answer → Registry.Operation α}
    (drafts : Drafts ctx free insight (.ask request next))
    (record : Drafting journal party id fresh insight) (good : world.store.WellFormed)
    (steady : SteadyEngine.Steady world.engine)
    (own : ∀ id, free id → Owned ctx.tenant (world.roster id.toText))
    (unused : UnusedIds world request) :
    Upkeep ctx.tenant world (world.answer request).2 ∧
      Move ctx.tenant ctx free journal party id fresh world (world.answer request).2
        ⟨request, (world.answer request).1⟩ (.ask request next)
          (next (world.answer request).1) := by
  have idle := fun job => drafts.effect id.toText job
  cases drafts.advances good own unused with
  | looks found idles begins learned drafts =>
    refine ⟨.of_engine_eq (idles.store ▸ good) steady idles.engine, ?_⟩
    apply Move.elsewhere
    · rw [idles.store]
    · rw [idles.roster]
    · exact idle
    · exact fun job => drafts.effect id.toText job
    · intro about
      exact idles.other (Request.isEngine_of_key? about)
    · exact .drafting found (record.look idles begins learned) drafts
  | writes wrote before new known sets engine written store schedulable follows =>
    have roster : (world.answer request).2.roster = world.roster := congrArg JobEngine.roster engine
    refine ⟨.of_engine_eq (sets.wellFormed good) steady engine, ?_⟩
    by_cases here : id = wrote
    · subst here
      apply Move.writes before new
      · exact record.reliable before known
      · rw [sets.stored, if_pos rfl]
      · exact roster
      · exact schedulable
      · exact store
      · simp [written]
      · exact idle
      · exact follows.effect
      · exact follows.tends
    · apply Move.elsewhere
      · rw [sets.stored, if_neg here]
      · rw [roster]
      · exact idle
      · exact fun job => Procedure.effect_of_tends follows.tends here
      · intro about
        exact store.not_isEngine (Request.isEngine_of_key? about)
      · apply Standing.tending wrote
        · exact ⟨_, List.mem_cons_self, rfl, by simp [written]⟩
        · exact follows.tends

/-- An operation that has written moves on. -/
theorem Request.Tends.move {wrote : Uuid} {request : Request}
    {next : request.Answer → Registry.Operation α}
    (tends : (Procedure.ask request next).Asks (Request.Tends ctx.tenant wrote))
    (good : world.store.WellFormed) (steady : SteadyEngine.Steady world.engine)
    (written : journal.Wrote party wrote) :
    Upkeep ctx.tenant world (world.answer request).2 ∧
      Move ctx.tenant ctx free journal party id fresh world (world.answer request).2
        ⟨request, (world.answer request).1⟩ (.ask request next)
          (next (world.answer request).1) := by
  have idle : id ≠ wrote → ∀ job, (Procedure.ask request next).effect id.toText job = job :=
    fun apart _ => Procedure.effect_of_tends tends apart
  cases tends with
  | ask here rest =>
    cases request with
    | engine request =>
      obtain ⟨about, forTenant, plannable⟩ := here
      obtain ⟨answered, roster⟩ := World.answer_engine steady plannable
      refine ⟨.of_request good steady ⟨about, forTenant, plannable⟩, ?_⟩
      by_cases same : id = wrote
      · subst same
        apply Move.tends
        · rfl
        · exact congrArg some about
        · trivial
        · exact written
        · rw [answered, roster]
          exact (Procedure.effect_ask next world.roster about).symm
        · exact rest _
      · apply Move.elsewhere
        · rfl
        · rw [roster]
          apply Roster.answer_elsewhere
          rw [about]
          exact fun texts => same (Uuid.toText_injective texts)
        · exact idle same
        · exact fun job => Procedure.effect_of_tends (rest _) same
        · intro asked
          exact same (Uuid.toText_injective (about.symm.trans (Option.some.inj asked))).symm
        · exact .tending wrote (written.cons _) (rest _)
    | store request => exact here.elim
    | now => exact here.elim
    | newId => exact here.elim

theorem Standing.move {tenant : String} {request : Request}
    {next : request.Answer → Registry.Operation α}
    (standing : Standing ctx free journal party id fresh (.ask request next))
    (same : ctx.tenant = tenant) (good : world.store.WellFormed)
    (steady : SteadyEngine.Steady world.engine)
    (own : ∀ id, free id → Owned tenant (world.roster id.toText))
    (unused : UnusedIds world request) :
    Upkeep tenant world (world.answer request).2 ∧
      Move tenant ctx free journal party id fresh world (world.answer request).2
        ⟨request, (world.answer request).1⟩ (.ask request next)
          (next (world.answer request).1) := by
  subst same
  cases standing with
  | drafting insight record drafts => exact drafts.move record good steady own unused
  | tending wrote written tends => exact Request.Tends.move tends good steady written

end Move

end Horarium
