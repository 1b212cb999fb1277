/-
Module: Horarium.Proofs.JobRequests
Purpose: What a sequence of requests for one job makes of the job, whatever else the engine holds.
  Following a version that has been stored settles the job under its id, and asks for this job only.
Trusted boundary: none
Main exports: Owned, EngineRequest.IsFor, Request.Tends, Procedure.effect, Procedure.Follows,
  Reconcile.reschedule_follows, Reconcile.unschedule_follows
-/
import Horarium.Proofs.History

namespace Horarium

namespace Roster

variable {request : EngineRequest} {roster other : Roster} {key : String}

/-- Answering a request takes a look at one job only. -/
theorem answer_congr (same : roster request.key = other request.key) :
    (answer request roster).1 = (answer request other).1 ∧
      (answer request roster).2 request.key = (answer request other).2 request.key := by
  cases request with
  | register key trigger data =>
    have here : roster key = other key := same
    show (answer (.register key trigger data) roster).1 =
      (answer (.register key trigger data) other).1 ∧
      (answer (.register key trigger data) roster).2 key =
        (answer (.register key trigger data) other).2 key
    unfold answer
    simp only [here]
    cases held : other key with
    | none => simp
    | some job => simp [here]
  | replace key trigger =>
    have here : roster key = other key := same
    show (answer (.replace key trigger) roster).1 = (answer (.replace key trigger) other).1 ∧
      (answer (.replace key trigger) roster).2 key = (answer (.replace key trigger) other).2 key
    unfold answer
    simp only [here]
    cases held : other key with
    | none => simp [here]
    | some job => simp
  | remove key =>
    have here : roster key = other key := same
    simp [answer, EngineRequest.key, here]

/-- The other jobs stay as they are. -/
theorem answer_elsewhere (apart : key ≠ request.key) :
    (answer request roster).2 key = roster key := by
  cases request with
  | register taken trigger data =>
    have away : key ≠ taken := apart
    unfold answer
    cases held : roster taken <;> simp [held, away]
  | replace taken trigger =>
    have away : key ≠ taken := apart
    unfold answer
    cases held : roster taken <;> simp [held, away]
  | remove taken =>
    have away : key ≠ taken := apart
    simp [answer, away]

end Roster

/-- The job is the tenant's, if there is one. -/
def Owned (tenant : String) (job : Option Job) : Prop :=
  ∀ held, job = some held → held.data.tenant = tenant

theorem owned_none (tenant : String) : Owned tenant none := by
  intro held same
  simp at same

/-- A job that a request registers is one of the tenant. -/
def EngineRequest.IsFor (tenant : String) : EngineRequest → Prop
  | .register _ _ data => data.tenant = tenant
  | _ => True

/-- Requests of a tenant leave its jobs in its possession. -/
theorem Roster.owned_answer {tenant key : String} {request : EngineRequest} {roster : Roster}
    (own : request.IsFor tenant) (owned : Owned tenant (roster key)) :
    Owned tenant ((answer request roster).2 key) := by
  by_cases here : key = request.key
  · subst here
    cases request with
    | register key trigger data =>
      have before : Owned tenant (roster key) := owned
      show Owned tenant ((answer (.register key trigger data) roster).2 key)
      cases held : roster key with
      | some job => simpa [answer, held] using before
      | none =>
        have registered : data.tenant = tenant := own
        simp [answer, held, Owned, registered]
    | replace key trigger =>
      have before : Owned tenant (roster key) := owned
      show Owned tenant ((answer (.replace key trigger) roster).2 key)
      cases held : roster key with
      | some job =>
        have kept : job.data.tenant = tenant := before job held
        simp [answer, held, Owned, kept]
      | none => simp [answer, held, owned_none]
    | remove key =>
      show Owned tenant ((answer (.remove key) roster).2 key)
      simp [answer, owned_none]
  · rwa [answer_elsewhere here]

/-- The request is about the job of the tenant's timer under the id, and carries a trigger that a
plan can be made of. -/
def Request.Tends (tenant : String) (id : Uuid) : Request → Prop
  | .engine request => request.key = id.toText ∧ request.IsFor tenant ∧ request.Plannable
  | _ => False

/-- What the requests about the job under a key make of the job. -/
def Procedure.effect {δ α : Type} (key : String) : Procedure δ α → Option Job → Option Job
  | .ask (.engine request) next, job =>
    if request.key = key then
      let (answer, roster) := Roster.answer request fun _ => job
      effect key (next answer) (roster key)
    else job
  | _, job => job

section Effect

variable {δ η α β : Type} {tenant : String} {id other : Uuid} {key : String} {job : Option Job}

namespace Procedure

theorem effect_ask {request : EngineRequest} (next : Except EngineError Bool → Procedure δ α)
    (roster : Roster) (about : request.key = key) :
    (ask (.engine request) next).effect key (roster key) =
      (next (Roster.answer request roster).1).effect key
        ((Roster.answer request roster).2 key) := by
  subst about
  let held : Roster := fun _ => roster request.key
  have same : held request.key = roster request.key := rfl
  obtain ⟨answered, left⟩ := Roster.answer_congr same
  calc (ask (.engine request) next).effect request.key (roster request.key)
    _ = (next (Roster.answer request held).1).effect request.key
        ((Roster.answer request held).2 request.key) :=
      if_pos rfl
    _ = _ := by rw [answered, left]

theorem effect_of_ended {p : Procedure δ α} (ended : p.Ended) : p.effect key job = job := by
  cases p with
  | done a => rfl
  | fail e => rfl
  | ask request next => exact ended.elim

/-- A procedure asks for the job next, or leaves it as it is. -/
theorem asks_or_effect_eq (p : Procedure δ α) (key : String) :
    (∃ (request : EngineRequest) (next : Except EngineError Bool → Procedure δ α),
        p = .ask (.engine request) next ∧ request.key = key) ∨ ∀ job, p.effect key job = job := by
  cases p with
  | done a => exact .inr fun _ => rfl
  | fail e => exact .inr fun _ => rfl
  | ask request next =>
    cases request with
    | engine request =>
      by_cases about : request.key = key
      · exact .inl ⟨request, next, rfl, about⟩
      · exact .inr fun _ => if_neg about
    | store request => exact .inr fun _ => rfl
    | now => exact .inr fun _ => rfl
    | newId => exact .inr fun _ => rfl

/-- Requests about another job leave the job as it is. -/
theorem effect_of_tends {p : Procedure δ α} (tends : p.Asks (Request.Tends tenant other))
    (apart : id ≠ other) : p.effect id.toText job = job := by
  cases tends with
  | done a => rfl
  | fail e => rfl
  | @ask request next here _ =>
    cases request with
    | engine request =>
      have away : request.key ≠ id.toText := by
        rw [here.1]
        exact fun texts => apart (Uuid.toText_injective texts).symm
      unfold effect
      rw [if_neg away]
    | store request => exact here.elim
    | now => exact here.elim
    | newId => exact here.elim

theorem owned_effect {p : Procedure δ α} (tends : p.Asks (Request.Tends tenant other))
    (owned : Owned tenant job) : Owned tenant (p.effect key job) := by
  induction tends generalizing job with
  | done a => exact owned
  | fail e => exact owned
  | @ask request next here _ ih =>
    cases request with
    | engine request =>
      unfold effect
      split
      · exact ih _ (Roster.owned_answer here.2.1 owned)
      · exact owned
    | store request => exact here.elim
    | now => exact here.elim
    | newId => exact here.elim

theorem effect_mapError (f : δ → η) (p : Procedure δ α) (job : Option Job) :
    (p.mapError f).effect key job = p.effect key job := by
  induction p generalizing job with
  | done a => rfl
  | fail e => rfl
  | ask request next ih =>
    cases request with
    | engine request =>
      simp only [mapError, effect]
      split
      · exact ih _ _
      · rfl
    | store request => rfl
    | now => rfl
    | newId => rfl

/-- What follows without a request changes nothing. -/
theorem effect_bind {p : Procedure δ α} {f : α → Procedure δ β} (ended : ∀ a, (f a).Ended)
    (job : Option Job) : (p >>= f).effect key job = p.effect key job := by
  induction p generalizing job with
  | done a => exact effect_of_ended (ended a)
  | fail e => rfl
  | ask request next ih =>
    cases request with
    | engine request =>
      show (ask (.engine request) fun answer => next answer >>= f).effect key job = _
      simp only [effect]
      split
      · exact ih _ _
      · rfl
    | store request => rfl
    | now => rfl
    | newId => rfl

end Procedure

end Effect

section Engine

variable {ε : Type} [SteadyEngine ε] {tenant : String} {id : Uuid}

/-- A steady engine does what it is asked. -/
theorem World.answer_engine {world : World MemoryStore ε} {request : EngineRequest}
    (steady : SteadyEngine.Steady world.engine) (plannable : request.Plannable) :
    (world.answer (.engine request)).1 = (Roster.answer request world.roster).1 ∧
      (world.answer (.engine request)).2.roster = (Roster.answer request world.roster).2 :=
  Prod.mk.inj (SteadyEngine.performs steady plannable)

/-- A procedure that asks for one job only and is not interrupted leaves what its requests make of
the job. -/
theorem World.roster_run {δ α : Type} {p : Procedure δ α} (tends : p.Asks (Request.Tends tenant id))
    (world : World MemoryStore ε) (steady : SteadyEngine.Steady world.engine) :
    (world.run p).2.roster id.toText = p.effect id.toText (world.roster id.toText) := by
  induction tends generalizing world with
  | done a => rfl
  | fail e => rfl
  | @ask request next here _ ih =>
    cases request with
    | engine request =>
      obtain ⟨about, _, plannable⟩ := here
      obtain ⟨answered, left⟩ := World.answer_engine steady plannable
      have rest := ih (world.answer (.engine request)).1 (world.answer (.engine request)).2
        (SteadyEngine.steady_answer steady)
      rw [Procedure.effect_ask next world.roster about, ← answered, ← left]
      exact rest
    | store request => exact here.elim
    | now => exact here.elim
    | newId => exact here.elim

end Engine

/-- The procedure settles the job under the id, and asks for this job only. -/
structure Procedure.Follows {δ α : Type} (ctx : Context) (id : Uuid)
    (before new : Option TimerRecord) (p : Procedure δ α) : Prop where
  tends : p.Asks (Request.Tends ctx.tenant id)
  effect : ∀ job, p.effect id.toText job = settle ctx id before new job

section Follows

variable {δ η α β : Type} {ctx : Context} {id : Uuid} {before new : Option TimerRecord}
  {record old : TimerRecord}

theorem Procedure.Follows.mapError {p : Procedure δ α} (follows : p.Follows ctx id before new)
    (f : δ → η) :
    (p.mapError f).Follows ctx id before new where
  tends := follows.tends.mapError f
  effect job := (effect_mapError f p job).trans (follows.effect job)

theorem Procedure.Follows.bind_done {p : Procedure δ α} (follows : p.Follows ctx id before new)
    (b : β) :
    (p >>= fun _ => .done b).Follows ctx id before new where
  tends := follows.tends.bind fun _ => .done b
  effect job := by
    have ended : ∀ _ : α, (.done b : Procedure δ β).Ended := fun _ => trivial
    exact (effect_bind ended job).trans (follows.effect job)

/-- What an undisturbed run settles, the requests settle. -/
theorem Procedure.Follows.of_reconciled {p : Procedure TriggerError α}
    (tends : p.Asks (Request.Tends ctx.tenant id))
    (reconciled : ∀ {world after : World MemoryStore RecordingEngine}
      {outcome : Except TriggerError α},
      World.Runs Circumstances.steady.Admits world p outcome after →
      Reconciled .steady ctx id before new world outcome after) :
    p.Follows ctx id before new where
  tends := tends
  effect job := by
    -- Any job will do, since some engine holds it.
    let world : World MemoryStore RecordingEngine :=
      ⟨.empty, ⟨job.toList.map fun held => (id.toText, held), [], []⟩,
        ⟨fun _ => default, Uuid.ofBits, 0, 0⟩⟩
    have steady : SteadyEngine.Steady world.engine := by
      cases job <;> exact ⟨rfl, by simp [world]⟩
    have held : world.roster id.toText = job := by
      cases job with
      | none => rfl
      | some job => simp [World.roster, JobEngine.roster, JobEngine.entries, Roster.ofList, world]
    have takesNoId : p.Asks Request.TakesNoId := by
      apply tends.mono
      intro request tended
      cases request with
      | newId => exact tended.elim
      | store request => trivial
      | engine request => trivial
      | now => trivial
    obtain ⟨admitted, _⟩ := (takesNoId.throughout world).runs.steady steady
    rcases reconciled admitted with ⟨_, settles⟩ | ⟨_, outage, _⟩
    · have left := World.roster_run tends world steady
      rw [settles.roster, Function.update_self, held] at left
      exact left.symm
    · exact outage.elim

theorem Procedure.engine_tends {tenant : String} {request : EngineRequest}
    (about : request.key = id.toText) (own : request.IsFor tenant) (plannable : request.Plannable) :
    (Procedure.engine request : Procedure δ (Except EngineError Bool)).Asks
      (Request.Tends tenant id) :=
  .ask ⟨about, own, plannable⟩ fun answer => .done answer

namespace Reconcile

theorem schedule_tends (named : record.id = some id) :
    (schedule ctx record).Asks (Request.Tends ctx.tenant id) := by
  unfold schedule
  rw [named]
  split
  · exact .done _
  · dsimp only
    split
    · exact .fail _
    · rename_i trigger computed
      apply Procedure.Asks.bind
      · exact Procedure.engine_tends rfl rfl (TimerRecord.plan_of_trigger computed _)
      · intro answer
        split
        · exact .done _
        · exact .done _
        · exact .fail _

theorem unschedule_tends (named : record.id = some id) :
    (unschedule record).Asks (Request.Tends ctx.tenant id) := by
  unfold unschedule TimerRecord.jobKey?
  rw [named]
  split
  · exact .done _
  · apply Procedure.Asks.bind
    · exact Procedure.engine_tends rfl trivial trivial
    · intro answer
      split
      · exact .done _
      · exact .fail _

theorem replace_tends (named : record.id = some id) :
    (replace ctx record).Asks (Request.Tends ctx.tenant id) := by
  unfold replace TimerRecord.jobKey?
  rw [named]
  dsimp only [Option.map_some]
  split
  · exact .fail _
  · rename_i trigger computed
    apply Procedure.Asks.bind
    · exact Procedure.engine_tends rfl trivial (TimerRecord.plan_of_trigger computed _)
    · intro answer
      split
      · exact .fail _
      · exact .done _
      · exact (schedule_tends named).bind fun _ => .done _

theorem reschedule_tends (known : old.id = some id) (named : record.id = some id) :
    (reschedule ctx old record).Asks (Request.Tends ctx.tenant id) := by
  unfold reschedule
  split
  · exact .done _
  · exact unschedule_tends known
  · exact (schedule_tends named).bind fun _ => .done _
  · split
    · exact .done _
    · exact replace_tends named

theorem schedule_follows (named : record.id = some id) (schedulable : record.Schedulable) :
    (schedule ctx record).Follows ctx id none (some record) :=
  .of_reconciled (schedule_tends named) (schedule_reconciled named schedulable)

theorem reschedule_follows (known : old.id = some id) (named : record.id = some id)
    (schedulable : record.Schedulable) :
    (reschedule ctx old record).Follows ctx id (some old) (some record) :=
  .of_reconciled (reschedule_tends known named) (reschedule_reconciled known named schedulable)

theorem unschedule_follows (named : record.id = some id) :
    (unschedule record).Follows ctx id (some record) none :=
  .of_reconciled (unschedule_tends named) (unschedule_reconciled named)

end Reconcile

end Follows

end Horarium
