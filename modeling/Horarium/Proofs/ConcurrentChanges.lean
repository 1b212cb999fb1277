/-
Module: Horarium.Proofs.ConcurrentChanges
Purpose: Two changes of one tenant under way at the same time. Where nobody else writes a timer
  meanwhile, or where one of the two is ahead of the other all along, engine and store agree on the
  timer afterwards. A write that falls between another change's look and its write may leave them
  apart.
Trusted boundary: none; that generated ids are unused is assumed request by request (`UnusedIds`)
Main exports: Course, Duo.OnCourse, Duo.changes_agree
-/
import Horarium.Proofs.ChangeSteps
import Horarium.Proofs.FailureAtomicity
import Horarium.Proofs.JobAgreement

namespace Horarium

/-! ### Both operations -/

section Course

variable {ε β γ : Type} [SteadyEngine ε]

/-- An operation of the party has still to ask for the job under the id, while the other party has
asked the engine already. -/
def Overdue (party : Party) (id : Uuid) (journal : Journal) (p : Registry.Operation β) : Prop :=
  (∃ exchange, (party.other, exchange) ∈ journal ∧ exchange.request.IsEngine) ∧
    ∃ (request : EngineRequest) (next : Except EngineError Bool → Registry.Operation β),
      p = .ask (.engine request) next ∧ request.key = id.toText

/-- Two operations of a tenant under way, seen from the timer under one id. Where the first party
leads, what the second one has found counts, and the job will be in line with the timer once both
have asked for it. -/
structure Course (tenant : String) (ctx : Party → Context) (free : Uuid → Prop) (first : Party)
    (id : Uuid) (world : World MemoryStore ε) (journal : Journal) (p : Registry.Operation β)
    (q : Registry.Operation γ) :
    Prop where
  wellFormed : world.store.WellFormed
  steady : SteadyEngine.Steady world.engine
  owned : ∀ id, free id → Owned tenant (world.roster id.toText)
  spelled : Spelled tenant world.roster
  leading : Standing (ctx first) free journal first id
    (fun before => journal.Wrote first.other id ∨ Holds tenant world id before) p
  trailing : Standing (ctx first.other) free journal first.other id
    (fun before => journal.Leads first id → Holds tenant world id before) q
  inLine : journal.Leads first id → Overdue first id journal p ∨
    InLine tenant (world.store.stored tenant id)
      (q.effect id.toText (p.effect id.toText (world.roster id.toText)))

variable {tenant : String} {ctx : Party → Context} {free : Uuid → Prop} {first : Party} {id : Uuid}
  {world after : World MemoryStore ε} {journal : Journal} {p : Registry.Operation β}
    {q : Registry.Operation γ}

theorem Holds.keep {before : Option TimerRecord} (holds : Holds tenant world id before)
    (stored : after.store.stored tenant id = world.store.stored tenant id)
    (upkeep : Upkeep tenant world after) : Holds tenant after id before where
  stored := stored.trans holds.stored
  own none := upkeep.owned _ (holds.own none)

theorem Overdue.cons (overdue : Overdue first id journal p) (entry : Party × AnsweredRequest) :
    Overdue first id (entry :: journal) p := by
  obtain ⟨⟨exchange, member, engine⟩, asks⟩ := overdue
  exact ⟨⟨exchange, List.mem_cons_of_mem entry member, engine⟩, asks⟩

/-- A job in line with nothing that belongs to the tenant is none. -/
theorem job_eq_none_of_inLine {job : Option Job} (inLine : InLine tenant none job)
    (owned : Owned tenant job) :
    job = none := by
  cases job with
  | none => rfl
  | some held => exact absurd (owned held rfl) (inLine held rfl)

/-- What is in line with the version that has been found is in line with the next one once it has
been settled. -/
theorem Holds.inLine_settle {before new : Option TimerRecord} {job : Option Job} {caller : Context}
    (holds : Holds tenant world id before)
    (inLine : InLine tenant (world.store.stored tenant id) job)
    (schedulable : ∀ record, new = some record → record.Schedulable)
    (owned : Owned tenant (world.roster id.toText) → Owned tenant job) :
    InLine tenant new (settle caller id before new job) := by
  rw [holds.stored] at inLine
  apply inLine.settle schedulable
  intro absent _
  subst absent
  exact job_eq_none_of_inLine inLine (owned (holds.own rfl))

/-- The first party makes a request. -/
theorem Course.leading_step {request : Request} {next : request.Answer → Registry.Operation β}
    (course : Course tenant ctx free first id world journal (.ask request next) q)
    (same : ∀ party, (ctx party).tenant = tenant) (unused : UnusedIds world request) :
    Course tenant ctx free first id (world.answer request).2
      ((first, ⟨request, (world.answer request).1⟩) :: journal)
        (next (world.answer request).1) q := by
  obtain ⟨upkeep, move⟩ :=
    course.leading.move (same first) course.wellFormed course.steady course.owned unused
  have owned := fun id allowed => upkeep.owned _ (course.owned id allowed)
  have spelled := upkeep.spelled course.spelled
  cases move with
  | elsewhere stored roster idle rests other standing =>
    refine ⟨upkeep.wellFormed, upkeep.steady, owned, spelled, ?_, ?_, ?_⟩
    · apply standing.mono
      rintro before ((wrote | holds) | holds)
      · exact .inl (wrote.cons _)
      · exact .inr (holds.keep stored upkeep)
      · exact .inr holds
    · apply course.trailing.cons first.other_ne.symm
      intro before _ counts leads
      exact (counts leads.of_cons).keep stored upkeep
    · intro leads
      rcases course.inLine leads.of_cons with ⟨_, asked, _, asks, about⟩ | inLine
      · obtain ⟨rfl, _⟩ := Procedure.ask.inj asks
        exact absurd (congrArg some about) other
      · right
        rw [stored, roster, rests]
        rw [idle] at inLine
        exact inLine
  | writes before new known stored roster schedulable store written idle settles tends =>
    have wrote : Journal.Wrote ((first, ⟨request, (world.answer request).1⟩) :: journal) first id :=
      ⟨_, List.mem_cons_self, rfl, written⟩
    refine ⟨upkeep.wellFormed, upkeep.steady, owned, spelled, .tending id wrote tends, ?_, ?_⟩
    · apply course.trailing.cons first.other_ne.symm
      rintro before ⟨exchange, member, asked⟩ _ leads
      exact absurd asked (leads.unasked_store written member)
    · intro leads
      have unasked : ∀ exchange, (first.other, exchange) ∈ journal → ¬ exchange.request.IsStore :=
        fun exchange member => leads.unasked_store written member
      obtain ⟨quiet, still⟩ := course.trailing.of_unasked unasked
      have holds : Holds tenant world id before := by
        rcases known with wrote | holds
        · obtain ⟨exchange, member, asked⟩ := wrote.exists_isStore
          exact absurd asked (unasked exchange member)
        · exact holds
      rcases course.inLine leads.of_cons with ⟨⟨exchange, member, engine⟩, _⟩ | inLine
      · exact absurd engine (quiet exchange member)
      · right
        rw [still, idle] at inLine
        rw [still, settles, stored, roster]
        exact holds.inLine_settle inLine schedulable fun owned => owned
  | tends stored about engine wrote moved tends =>
    refine ⟨upkeep.wellFormed, upkeep.steady, owned, spelled,
      .tending id (wrote.cons _) tends, ?_, ?_⟩
    · apply course.trailing.cons first.other_ne.symm
      intro before _ counts leads
      exact (counts leads.of_cons).keep stored upkeep
    · intro leads
      rcases course.inLine leads.of_cons with ⟨⟨exchange, member, asked⟩, _⟩ | inLine
      · exact absurd asked (leads.unasked_engine wrote about member)
      · right
        rw [stored, moved]
        exact inLine

/-- The second party makes a request. -/
theorem Course.trailing_step {request : Request} {next : request.Answer → Registry.Operation γ}
    (course : Course tenant ctx free first id world journal p (.ask request next))
    (same : ∀ party, (ctx party).tenant = tenant) (unused : UnusedIds world request) :
    Course tenant ctx free first id (world.answer request).2
      ((first.other, ⟨request, (world.answer request).1⟩) :: journal) p
        (next (world.answer request).1) := by
  obtain ⟨upkeep, move⟩ :=
    course.trailing.move (same first.other) course.wellFormed course.steady course.owned unused
  have owned := fun id allowed => upkeep.owned _ (course.owned id allowed)
  have spelled := upkeep.spelled course.spelled
  cases move with
  | elsewhere stored roster idle rests other standing =>
    refine ⟨upkeep.wellFormed, upkeep.steady, owned, spelled, ?_, ?_, ?_⟩
    · apply course.leading.cons first.other_ne
      rintro before _ (wrote | holds)
      · exact .inl (wrote.cons _)
      · exact .inr (holds.keep stored upkeep)
    · apply standing.mono
      rintro before (counts | holds) leads
      · exact (counts leads.of_cons).keep stored upkeep
      · exact holds
    · intro leads
      rcases course.inLine leads.of_cons with overdue | inLine
      · exact .inl (overdue.cons _)
      · right
        rw [stored, roster, rests]
        rw [idle] at inLine
        exact inLine
  | writes before new known stored roster schedulable store written idle settles tends =>
    have wrote : Journal.Wrote ((first.other, ⟨request, (world.answer request).1⟩) :: journal)
        first.other id :=
      ⟨_, List.mem_cons_self, rfl, written⟩
    refine ⟨upkeep.wellFormed, upkeep.steady, owned, spelled, ?_, .tending id wrote tends, ?_⟩
    · apply course.leading.cons first.other_ne
      exact fun _ _ _ => .inl wrote
    · intro leads
      rcases course.inLine leads.of_cons with overdue | inLine
      · exact .inl (overdue.cons _)
      · right
        rw [idle] at inLine
        rw [settles, stored, roster]
        apply (known leads.of_cons).inLine_settle inLine schedulable
        intro owned
        rw [← same first] at owned ⊢
        exact course.leading.owned_effect owned id.toText
  | tends stored about engine wrote moved tends =>
    refine ⟨upkeep.wellFormed, upkeep.steady, owned, spelled, ?_,
      .tending id (wrote.cons _) tends, ?_⟩
    · apply course.leading.cons first.other_ne
      rintro before _ (wrote | holds)
      · exact .inl (wrote.cons _)
      · exact .inr (holds.keep stored upkeep)
    · intro leads
      -- What the first party has still to ask for the job would come too late now.
      rcases p.asks_or_effect_eq id.toText with asks | still
      · exact .inl ⟨⟨_, List.mem_cons_self, engine⟩, asks⟩
      · rcases course.inLine leads.of_cons with overdue | inLine
        · exact .inl (overdue.cons _)
        · right
          rw [still] at inLine
          rw [still, stored, moved]
          exact inLine

end Course

/-! ### Two changes from the first request to the last -/

theorem Change.drafts {ctx : Context} {free : Uuid → Prop} {change : Change}
    (single : change.IsSingle)
    (allowed : ∀ input id, change = .create input → input.id = some id → free id) :
    Drafts ctx free .blank (change.operation ctx) := by
  cases change with
  | create input => exact Registry.create_drafts fun id named => allowed input id rfl named
  | update id input => exact Registry.update_drafts
  | delete id => exact Registry.delete_drafts
  | switchModule moduleName enable => exact single.elim

namespace Duo

variable {ε : Type} [SteadyEngine ε] {α : Party → Type} {tenant : String} {ctx : Party → Context}
  {free : Uuid → Prop} {first : Party} {id : Uuid} {duo : Duo ε α}

/-- Both operations stand as they have to, seen from one timer. -/
def OnCourse (tenant : String) (ctx : Party → Context) (free : Uuid → Prop) (first : Party)
    (id : Uuid) (duo : Duo ε α) : Prop :=
  Course tenant ctx free first id duo.world duo.journal (duo.operation first)
    (duo.operation first.other)

theorem onCourse_begin {world : World MemoryStore ε}
    {operation : (party : Party) → Registry.Operation (α party)} (good : world.store.WellFormed)
    (steady : SteadyEngine.Steady world.engine) (agrees : Agrees tenant world)
    (owned : ∀ id, free id → Owned tenant (world.roster id.toText))
    (drafts : ∀ party, Drafts (ctx party) free .blank (operation party)) (first : Party)
    (id : Uuid) :
    (begin world operation).OnCourse tenant ctx free first id := by
  have standing : ∀ (party : Party) (fresh : Option TimerRecord → Prop),
      Standing (ctx party) free [] party id fresh (operation party) := by
    intro party fresh
    have record : Drafting [] party id fresh .blank := ⟨by simp, by simp, by simp⟩
    exact .drafting .blank record (drafts party)
  refine ⟨good, steady, owned, agrees.spelled, standing _ _, standing _ _, fun _ => .inr ?_⟩
  show InLine tenant _ ((operation first.other).effect _ ((operation first).effect _ _))
  rw [(drafts first).effect, (drafts first.other).effect]
  exact agrees.inLine id

theorem OnCourse.step (course : duo.OnCourse tenant ctx free first id)
    (same : ∀ party, (ctx party).tenant = tenant) {party : Party} {turns : List Party}
    (unused : duo.Throughout UnusedIds (party :: turns)) :
    (duo.step party).OnCourse tenant ctx free first id := by
  rcases duo.step_cases party with idle | ⟨request, next, asks, moved⟩
  · rw [idle]
    exact course
  · have fresh := unused.1
    rw [asks] at fresh
    rw [moved]
    unfold OnCourse at course ⊢
    dsimp only
    rcases party.eq_or_eq_other first with rfl | rfl
    · rw [asks] at course
      rw [Function.update_self, Function.update_of_ne party.other_ne]
      exact course.leading_step same fresh
    · rw [asks] at course
      rw [Function.update_of_ne first.other_ne.symm, Function.update_self]
      exact course.trailing_step same fresh

theorem OnCourse.play (course : duo.OnCourse tenant ctx free first id)
    (same : ∀ party, (ctx party).tenant = tenant) {turns : List Party}
    (unused : duo.Throughout UnusedIds turns) :
    (duo.play turns).OnCourse tenant ctx free first id := by
  induction turns generalizing duo with
  | nil => exact course
  | cons party turns ih => exact ih (course.step same unused) unused.2

/-- Where a party leads, the job is in line with the timer once both operations have come to their
ends. -/
theorem OnCourse.inLine (course : duo.OnCourse tenant ctx free first id) (finished : duo.Over)
    (leads : duo.journal.Leads first id) :
    InLine tenant (duo.world.store.stored tenant id) (duo.world.roster id.toText) := by
  rcases Course.inLine course leads with ⟨_, _, _, asks, _⟩ | inLine
  · have unfinished := finished first
    rw [asks] at unfinished
    exact unfinished.elim
  · rw [Procedure.effect_of_ended (finished first),
      Procedure.effect_of_ended (finished first.other)] at inLine
    exact inLine

/-- Two changes of single timers of one tenant, in any order of their requests, with an engine that
does what it is asked: from agreement on the tenant, and if no other tenant has a job under an id
that a new timer is to get, engine and store agree afterwards on every timer that the two do not
contest. -/
theorem changes_agree {change : Party → Change} {world : World MemoryStore ε} {turns : List Party}
    (same : ∀ party, (ctx party).tenant = tenant) (single : ∀ party, (change party).IsSingle)
    (good : world.store.WellFormed) (steady : SteadyEngine.Steady world.engine)
    (agrees : Agrees tenant world)
    (owned : ∀ party input id, change party = .create input → input.id = some id →
      Owned tenant (world.roster id.toText))
    (unused :
      (begin world fun party => (change party).operation (ctx party)).Throughout UnusedIds turns)
    (finished : ((begin world fun party => (change party).operation (ctx party)).play turns).Over) :
    let after :=
  (begin world fun party => (change party).operation (ctx party)).play turns
    (∀ id, ¬ after.journal.Contested id →
        InLine tenant (after.world.store.stored tenant id) (after.world.roster id.toText)) ∧
      ((∀ id, ¬ after.journal.Contested id) → Agrees tenant after.world) := by
  intro after
  let free : Uuid → Prop :=
    fun id => ∃ party input, change party = .create input ∧ input.id = some id
  have drafts : ∀ party, Drafts (ctx party) free .blank ((change party).operation (ctx party)) :=
    fun party => Change.drafts (single party) fun input id creates named =>
      ⟨party, input, creates, named⟩
  have course : ∀ first id, after.OnCourse tenant ctx free first id := by
    intro first id
    have start :
        (begin world fun party => (change party).operation (ctx party)).OnCourse tenant ctx free
        first id := by
      apply onCourse_begin good steady agrees
      · rintro id ⟨party, input, creates, named⟩
        exact owned party input id creates named
      · exact drafts
    exact start.play same unused
  have inLine : ∀ id, ¬ after.journal.Contested id →
      InLine tenant (after.world.store.stored tenant id) (after.world.roster id.toText) := by
    intro id uncontested
    obtain ⟨first, leads⟩ := Journal.exists_leads uncontested
    exact (course first id).inLine finished leads
  refine ⟨inLine, fun uncontested => ⟨fun id => inLine id (uncontested id), ?_⟩⟩
  exact (course .left default).spelled

end Duo

/-! ### An update and a deletion of one timer -/

/-- What is consistent for all tenants agrees on each, where no two tenants share an id. -/
theorem Consistent.agrees {ε : Type} [JobEngine ε] {world : World MemoryStore ε}
    (consistent : Consistent world) (unshared : world.store.Unshared) (tenant : String) :
    Agrees tenant world where
  inLine := by
    intro id
    cases held : world.store.stored tenant id with
    | none =>
      intro job registered own
      obtain ⟨texts, record, stored, _⟩ := consistent.justified _ job registered
      rw [own, ← Uuid.toText_injective texts, held] at stored
      simp at stored
    | some record =>
      cases active : record.isActive with
      | true =>
        have covered := consistent.covered tenant id record held active
        obtain ⟨job, registered⟩ := Option.isSome_iff_exists.mp covered
        rw [inLine_active active]
        exact ⟨job, registered, (consistent.job_of_stored unshared held registered).2.2.2⟩
      | false =>
        rw [inLine_inactive active]
        exact consistent.jobless unshared held active
  spelled := by
    intro key job registered _
    exact ⟨_, (consistent.justified key job registered).1.symm⟩

theorem agrees_employed : Agrees "north" employed := by
  obtain ⟨unshared, consistent⟩ := history_employed.consistent
  exact consistent.agrees unshared "north"

namespace Duo

/-- The one has the first timer fire less often, the other deletes it. -/
def editing : Party → Change
  | .left =>
    let entry : RoutingEntry := ⟨["POST"], none, some "/run", some ⟨"5", .minute⟩, none⟩
    .update (.ofBits 1) { TimerRecord.ofModule "mod-1.0.0" entry with id := some (.ofBits 1) }
  | .right => .delete (.ofBits 1)

/-- The one stores the first timer again as it is, the other deletes it. -/
def confirming : Party → Change
  | .left => .update (.ofBits 1) { TimerRecord.minutely with id := some (.ofBits 1) }
  | .right => .delete (.ofBits 1)

/-- Two changes of the tenant with one timer, before their first requests. -/
def meeting (change : Party → Change) : Duo LocalEngine fun party => (change party).Result :=
  begin employed fun party => (change party).operation ⟨"north", none, none⟩

/-- A deletion that looks for the timer once the update has written it, and asks for its job once
the update has. -/
theorem following_deletion_agrees :
    let turns : List Party := [.left, .left, .left, .right, .right, .left, .right]
    let after := (meeting editing).play turns
    (∀ party, (editing party).IsSingle) ∧ employed.store.WellFormed ∧
      SteadyEngine.Steady employed.engine ∧ Agrees "north" employed ∧
      (∀ party input id, editing party = .create input → input.id = some id →
        Owned "north" (employed.roster id.toText)) ∧
      (meeting editing).Throughout UnusedIds turns ∧ after.Over ∧ Agrees "north" after.world := by
  intro turns after
  have single : ∀ party, (editing party).IsSingle := by
    rintro (_ | _) <;> trivial
  have owned : ∀ party input id, editing party = .create input → input.id = some id →
      Owned "north" (employed.roster id.toText) := by
    rintro (_ | _) input id creates
    · simp [editing] at creates
    · simp [editing] at creates
  have agrees := agrees_employed
  obtain ⟨sound, steady⟩ := history_employed.sound
  have unused : (meeting editing).Throughout UnusedIds turns := by decide +kernel
  have finished : after.Over := by decide +kernel
  obtain ⟨_, agreed⟩ :=
    changes_agree (fun _ => rfl) single sound.wellFormed steady agrees owned unused finished
  refine ⟨single, sound.wellFormed, steady, agrees, owned, unused, finished, agreed ?_⟩
  have ahead : after.journal.Ahead .left (.ofBits 1) := by decide +kernel
  have written : ∀ entry ∈ after.journal, ∀ id ∈ entry.2.written, id = .ofBits 1 := by
    decide +kernel
  rintro id ⟨wrote, behind⟩
  obtain ⟨entry, member, _, here⟩ := wrote .left
  rw [written entry member id here] at behind
  exact behind .left ahead

/-- A deletion that comes between the look of an update and its write. The timer is stored again,
but the update goes by the version that it has seen and does not register the job anew. -/
theorem overtaken_update_disagrees :
    let after := (meeting confirming).play [.left, .right, .right, .right, .left, .left]
    (∀ party, (confirming party).IsSingle) ∧ SteadyEngine.Steady employed.engine ∧
      Agrees "north" employed ∧
      after.Over ∧ after.journal.Contested (.ofBits 1) ∧ ¬ Agrees "north" after.world := by
  intro after
  have single : ∀ party, (confirming party).IsSingle := by
    rintro (_ | _) <;> trivial
  have finished : after.Over := by decide +kernel
  have contested : after.journal.Contested (.ofBits 1) := by decide +kernel
  refine ⟨single, history_employed.sound.2, agrees_employed, finished, contested, ?_⟩
  intro agrees
  obtain ⟨record, held, active⟩ : ∃ record,
      after.world.store.stored "north" (.ofBits 1) = some record ∧ record.isActive = true := by
    have present : (after.world.store.stored "north" (.ofBits 1)).any (·.isActive) = true := by
      decide +kernel
    simpa [Option.any_eq_true] using present
  have dropped : after.world.roster (Uuid.ofBits 1).toText = none := by decide +kernel
  have inLine := agrees.inLine (.ofBits 1)
  rw [held, dropped, inLine_active active] at inLine
  obtain ⟨job, present, _⟩ := inLine
  simp at present

end Duo

end Horarium
