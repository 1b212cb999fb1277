/-
Module: Horarium.Proofs.SignedWrites
Purpose: Signed writes. The registry reads the clock once for a change, before the store takes in
  anything, and every record that the store takes in for it names this reading and the user as its
  last change.
Trusted boundary: none
Main exports: TimerRecord.WrittenBy, Procedure.Signs, Procedure.Signs.signed, Registry.create_signs,
  Registry.update_signs, Registry.delete_signs, Registry.switchModule_signs
-/
import Horarium.Proofs.Exchanges

namespace Horarium

variable {σ ε δ α β : Type}

/-- The record names this user and this instant for its last change. -/
def TimerRecord.WrittenBy (record : TimerRecord) (user : Option Uuid) (now : Instant) : Prop :=
  ∃ metadata, record.metadata = some metadata ∧ metadata.updatedDate = some now ∧
    metadata.updatedBy = user

/-- The clock is not read, and the store takes in nothing. -/
def Request.IsPlain : Request → Prop
  | .now | .store (.save _ _) | .store (.saveAll _ _) => False
  | _ => True

/-- The clock is not read, and the store takes in only records that this user has written at this
instant. -/
def Request.IsSigned (ctx : Context) (now : Instant) : Request → Prop
  | .now => False
  | .store (.save tenant record) => tenant = ctx.tenant ∧ record.WrittenBy ctx.user now
  | .store (.saveAll tenant records) => tenant = ctx.tenant ∧
      ∀ record ∈ records, record.WrittenBy ctx.user now
  | _ => True

/-- The clock is read once, before the store takes in anything, and every record that the store
takes in is signed with this reading and the user. -/
inductive Procedure.Signs (ctx : Context) : Procedure δ α → Prop where
  | done (a : α) : Signs ctx (.done a)
  | fail (e : δ) : Signs ctx (.fail e)
  | ask {request : Request} {next : request.Answer → Procedure δ α} (plain : request.IsPlain)
      (rest : ∀ answer, Signs ctx (next answer)) : Signs ctx (.ask request next)
  | now {next : Instant → Procedure δ α}
      (signed : ∀ now, (next now).Asks (Request.IsSigned ctx now)) : Signs ctx (.ask .now next)

section Signed

variable {ctx : Context} {now : Instant} {request : Request}

theorem Request.IsEngine.isSigned (engine : request.IsEngine) : request.IsSigned ctx now := by
  cases request with
  | engine request => trivial
  | store request => exact engine.elim
  | now => exact engine.elim
  | newId => exact engine.elim

theorem Request.IsEngine.isPlain (engine : request.IsEngine) : request.IsPlain := by
  cases request with
  | engine request => trivial
  | store request => exact engine.elim
  | now => exact engine.elim
  | newId => exact engine.elim

theorem Request.IsPlain.ne_now (plain : request.IsPlain) : request ≠ .now := by
  rintro rfl
  exact plain

theorem Request.IsSigned.ne_now (signed : request.IsSigned ctx now) : request ≠ .now := by
  rintro rfl
  exact signed

namespace AnsweredRequest

variable {exchange : AnsweredRequest} {tenant : String} {record : TimerRecord}

theorem reading?_eq_none (other : exchange.request ≠ .now) : exchange.reading? = none := by
  obtain ⟨request, answer⟩ := exchange
  cases request with
  | now => exact absurd rfl other
  | store request => rfl
  | engine request => rfl
  | newId => rfl

theorem saved_eq_nil (plain : exchange.request.IsPlain) : exchange.saved tenant = [] := by
  obtain ⟨request, answer⟩ := exchange
  cases request with
  | store request =>
    cases request with
    | save => exact plain.elim
    | saveAll => exact plain.elim
    | _ => rfl
  | engine request => rfl
  | now => rfl
  | newId => rfl

/-- What the store has taken in is signed if the request is. -/
theorem signed_of_mem_saved (signed : exchange.request.IsSigned ctx now)
    (taken : record ∈ exchange.saved tenant) :
    tenant = ctx.tenant ∧ record.WrittenBy ctx.user now := by
  obtain ⟨request, answer⟩ := exchange
  cases request with
  | store request =>
    cases request with
    | save owner written =>
      cases answer with
      | error e => simp [saved] at taken
      | ok a =>
        simp only [saved, List.mem_ite_nil_right, List.mem_singleton] at taken
        obtain ⟨rfl, rfl⟩ := taken
        exact signed
    | saveAll owner records =>
      cases answer with
      | error e => simp [saved] at taken
      | ok a =>
        simp only [saved, List.mem_ite_nil_right] at taken
        obtain ⟨rfl, member⟩ := taken
        exact ⟨signed.1, signed.2 record member⟩
    | _ => simp [saved] at taken
  | engine request => simp [saved] at taken
  | now => simp [saved] at taken
  | newId => simp [saved] at taken

end AnsweredRequest

end Signed

namespace Procedure.Signs

variable {ctx : Context}

theorem bind {p : Procedure δ α} {f : α → Procedure δ β} (first : p.Asks Request.IsPlain)
    (rest : ∀ a, (f a).Signs ctx) : (p >>= f).Signs ctx := by
  induction first with
  | done a => exact rest a
  | fail e => exact .fail e
  | ask here _ ih => exact .ask here ih

theorem of_plain {p : Procedure δ α} (only : p.Asks Request.IsPlain) : p.Signs ctx := by
  induction only with
  | done a => exact .done a
  | fail e => exact .fail e
  | ask here _ ih => exact .ask here ih

theorem now_bind {f : Instant → Procedure δ α}
    (signed : ∀ now, (f now).Asks (Request.IsSigned ctx now)) :
    (Procedure.now >>= f).Signs ctx :=
  .now signed

/-- Whatever is taken in during a run is signed with the one reading of the clock, by induction on
the requests before that reading. -/
theorem signed [TimerStore σ] [SchedulingEngine ε] {p : Procedure δ α} (signs : p.Signs ctx)
    (world : World σ ε) {exchange : AnsweredRequest} (member : exchange ∈ world.exchanges p)
    {tenant : String} {record : TimerRecord} (taken : record ∈ exchange.saved tenant) :
    tenant = ctx.tenant ∧ (world.exchanges p).filterMap (·.reading?) = [world.nextInstant] ∧
      record.WrittenBy ctx.user world.nextInstant := by
  induction signs generalizing world with
  | done a => simp [World.exchanges] at member
  | fail e => simp [World.exchanges] at member
  | @ask request next plain _ ih =>
    rcases List.mem_cons.mp member with rfl | later
    · rw [AnsweredRequest.saved_eq_nil plain] at taken
      simp at taken
    · obtain ⟨own, readings, written⟩ := ih _ (world.answer request).2 later
      have unread : AnsweredRequest.reading? ⟨request, (world.answer request).1⟩ = none :=
        AnsweredRequest.reading?_eq_none plain.ne_now
      rw [world.nextInstant_answer plain.ne_now] at readings written
      exact ⟨own, (List.filterMap_cons_none unread).trans readings, written⟩
  | @now next signed =>
    rcases List.mem_cons.mp member with rfl | later
    · simp [AnsweredRequest.saved] at taken
    · have only := signed world.nextInstant
      have here := World.allowed_of_mem_exchanges only (world.answer .now).2 later
      obtain ⟨own, written⟩ := AnsweredRequest.signed_of_mem_saved here taken
      refine ⟨own, ?_, written⟩
      have unread : ((world.answer .now).2.exchanges (next world.nextInstant)).filterMap
          (·.reading?) = [] := by
        rw [List.filterMap_eq_nil_iff]
        intro other asked
        exact AnsweredRequest.reading?_eq_none (World.allowed_of_mem_exchanges only _ asked).ne_now
      show world.nextInstant :: ((world.answer .now).2.exchanges (next world.nextInstant)).filterMap
        (·.reading?) = _
      rw [unread]

end Procedure.Signs

namespace Registry

variable {ctx : Context}

theorem ask_isPlain (request : StoreRequest) (plain : (Request.store request).IsPlain) :
    (ask request).Asks Request.IsPlain :=
  .ask plain fun answer => .ofExcept _ answer

theorem save_isSigned {now : Instant} {record : TimerRecord}
    (written : record.WrittenBy ctx.user now) :
    (ask (.save ctx.tenant record)).Asks (Request.IsSigned ctx now) :=
  .ask ⟨rfl, written⟩ fun answer => .ofExcept _ answer

theorem reconcile_isSigned {now : Instant} {step : Procedure TriggerError α}
    (only : step.Asks Request.IsEngine) :
    (reconcile step).Asks (Request.IsSigned ctx now) :=
  (only.mono fun _ => Request.IsEngine.isSigned).mapError _

theorem applyUpdate_signs (existing input : TimerRecord) :
    (applyUpdate ctx existing input).Signs ctx :=
  .now_bind fun _ => (save_isSigned ⟨_, rfl, rfl, rfl⟩).bind fun saved =>
    (reconcile_isSigned (Reconcile.reschedule_asks existing saved)).bind fun _ => .done _

theorem insert_signs (input : TimerRecord) : (insert ctx input).Signs ctx := by
  refine .now_bind fun now => ?_
  have saves : ∀ record : TimerRecord, record.WrittenBy ctx.user now →
      (ask (.save ctx.tenant record) >>= fun saved =>
        reconcile (Reconcile.schedule ctx saved) >>= fun _ => .done saved).Asks
          (Request.IsSigned ctx now) :=
    fun record written => (save_isSigned written).bind fun saved =>
      (reconcile_isSigned (Reconcile.schedule_asks saved)).bind fun _ => .done _
  dsimp only
  split
  · exact saves _ ⟨_, rfl, rfl, rfl⟩
  · exact .ask trivial fun id => saves _ ⟨_, rfl, rfl, rfl⟩

theorem refuseTaken_isPlain (given : Option Uuid) :
    (refuseTaken ctx given).Asks Request.IsPlain := by
  cases given with
  | none => exact .done _
  | some id =>
    refine (ask_isPlain (.findById ctx.tenant id) trivial).bind fun found => ?_
    split
    · exact .fail _
    · exact .done _

theorem create_signs (input : TimerRecord) : (create ctx input).Signs ctx := by
  refine .bind (refuseTaken_isPlain input.id) fun _ => .bind (.ofExcept _ _) fun record =>
    .bind (.ofExcept _ _) fun key => .bind (ask_isPlain (.findByNaturalKey ctx.tenant key) trivial)
      fun found => ?_
  split
  · exact insert_signs record
  · split
    · exact .fail _
    · exact applyUpdate_signs _ _

theorem update_signs (id : Uuid) (input : TimerRecord) : (update ctx id input).Signs ctx := by
  unfold update
  split
  · exact .fail _
  · refine .bind (.ofExcept _ _) fun record =>
      .bind (ask_isPlain (.findById ctx.tenant id) trivial) fun found => ?_
    split
    · exact .fail _
    · exact applyUpdate_signs _ _

theorem delete_signs (id : Uuid) : (delete ctx id).Signs ctx := by
  refine .of_plain ((ask_isPlain (.findById ctx.tenant id) trivial).bind fun found => ?_)
  split
  · exact .done _
  · exact (ask_isPlain (.delete ctx.tenant id) trivial).bind fun _ =>
      ((Reconcile.unschedule_asks _).mono fun _ => Request.IsEngine.isPlain).mapError _

theorem switchModule_signs (moduleName : String) (enable : Bool) :
    (switchModule ctx moduleName enable).Signs ctx := by
  refine .bind (ask_isPlain (.findByModuleAndEnabled ctx.tenant moduleName !enable) trivial)
    fun found => ?_
  dsimp only
  split
  · exact .done _
  · refine .now_bind fun now => ?_
    have flips : ∀ records : List TimerRecord,
        (ask (.saveAll ctx.tenant (records.map (flip ctx now enable)))).Asks
          (Request.IsSigned ctx now) := by
      intro records
      refine .ask ⟨rfl, fun version member => ?_⟩ fun answer => .ofExcept _ answer
      obtain ⟨record, _, rfl⟩ := List.mem_map.mp member
      exact ⟨_, rfl, rfl, rfl⟩
    refine (flips _).bind fun saved => ?_
    have follows : ∀ {step : Operation PUnit}, step.Asks Request.IsEngine →
        (step >>= fun _ => .done saved.length).Asks (Request.IsSigned ctx now) :=
      fun only => (only.mono fun _ => Request.IsEngine.isSigned).bind fun _ => .done _
    split
    · exact follows (scheduleEach_asks saved)
    · exact follows (unscheduleEach_asks _)

end Registry

end Horarium
