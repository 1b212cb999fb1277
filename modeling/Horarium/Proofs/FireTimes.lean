/-
Module: Horarium.Proofs.FireTimes
Purpose: When jobs with an interval fire. What is done to the local engine, and what is seen of it,
  makes a log, and the log tells for which stretches of time which job has had which interval. The
  fires in it are the multiples of the interval in each of these stretches, and there are no others.
  Jobs with a cron trigger do not fire by this clock.
Trusted boundary: none
Main exports: LocalEngine.Follows, LocalEngine.Punctual, LocalEngine.fires_exactly
-/
import Horarium.Proofs.FireWindows
import Horarium.Proofs.LocalAnswers
import Horarium.Proofs.QueueConservation

namespace Horarium

/-! ### Logs -/

/-- What is done to the local engine: it is asked something, its jobs are dropped, or its clock is
moved on. -/
inductive LocalAct where
  | ask (request : EngineRequest)
  | shutdown
  | wait (millis : Nat)

/-- What is seen of it: an answer, that its jobs are dropped, or the fires of some time. -/
inductive LocalEvent where
  | answered (request : EngineRequest) (result : Except EngineError Bool)
  | stopped
  | passed (millis : Nat) (fires : List LocalFire)

namespace LocalEngine

/-- What is seen of one act, and the engine after it. -/
def perform (engine : LocalEngine) : LocalAct → LocalEvent × LocalEngine
  | .ask request => (.answered request (engine.answer request).1, (engine.answer request).2)
  | .shutdown => (.stopped, engine.shutdown)
  | .wait millis => (.passed millis (engine.advance millis).1, (engine.advance millis).2)

/-- What is seen of acts, one after the other. -/
def observe (engine : LocalEngine) : List LocalAct → List LocalEvent
  | [] => []
  | act :: acts => (engine.perform act).1 :: (engine.perform act).2.observe acts

end LocalEngine

namespace LocalEvent

/-- The time that passes. -/
def millis : LocalEvent → Nat
  | passed millis _ => millis
  | _ => 0

/-- The fires that are seen. -/
def fires : LocalEvent → List LocalFire
  | passed _ fires => fires
  | _ => []

/-- Whether the trigger that the job of a key has comes to its end. -/
def ends (key : String) : LocalEvent → Bool
  | answered (.replace k _) (.ok true) => k == key
  | answered (.remove k) (.ok true) => k == key
  | stopped => true
  | _ => false

/-- The data of the job that is registered under a key. -/
def data? (key : String) : LocalEvent → Option JobData
  | answered (.register k _ data) (.ok true) => if k = key then some data else none
  | _ => none

end LocalEvent

/-- The time that has passed. -/
def clock (log : List LocalEvent) : Nat := (log.map (·.millis)).sum

/-- The fires that are seen in a log. -/
def firesIn (log : List LocalEvent) : List LocalFire := log.flatMap (·.fires)

/-- How long the trigger that the job of a key has goes on. -/
def lasting (key : String) : List LocalEvent → Nat
  | [] => 0
  | event :: log => if event.ends key then 0 else event.millis + lasting key log

/-- A stretch of time for which a job has one interval. -/
structure Tenure where
  data : JobData
  period : Nat
  since : Nat
  stop : Nat

/-- The fires of that time: at every multiple of the interval. -/
def Tenure.fires (tenure : Tenure) : List LocalFire :=
  (List.range' 1 ((tenure.stop - tenure.since) / tenure.period)).map fun k =>
    ⟨tenure.since + k * tenure.period, tenure.data⟩

/-- The stretch of time that an event begins. A job keeps the data that it was registered with when
it gets another trigger. What has been before is told last event first. -/
def tenure? (past : List LocalEvent) (event : LocalEvent) (later : List LocalEvent) :
    Option Tenure :=
  match event with
  | .answered (.register key (.interval period) data) (.ok true) =>
    some ⟨data, period, clock past, clock past + lasting key later⟩
  | .answered (.replace key (.interval period)) (.ok true) =>
    (past.findSome? (·.data? key)).map fun data =>
      ⟨data, period, clock past, clock past + lasting key later⟩
  | _ => none

/-- All stretches of time that begin in a log. -/
def tenures (past : List LocalEvent) : List LocalEvent → List Tenure
  | [] => []
  | event :: later => (tenure? past event later).toList ++ tenures (event :: past) later

/-! ### Steps -/

namespace LocalEngine

variable {engine : LocalEngine} {key : String} {job : LocalJob} {past : List LocalEvent}

/-- The fires that are to come of the triggers as they are set, if this log comes next. -/
def pending (engine : LocalEngine) (log : List LocalEvent) : List LocalFire :=
  engine.jobs.flatMap fun entry => firesOf engine.now (engine.now + lasting entry.1 log) entry.2

/-- The engine is what a log has made of it. -/
structure Follows (engine : LocalEngine) (past : List LocalEvent) : Prop where
  keys : (engine.jobs.map (·.1)).Nodup
  data : ∀ entry ∈ engine.jobs, past.findSome? (·.data? entry.1) = some entry.2.data
  now : clock past = engine.now

theorem follows_empty : Follows .empty [] := ⟨List.nodup_nil, by simp [empty], rfl⟩

theorem mem_of_job? (held : engine.job? key = some job) : (key, job) ∈ engine.jobs := by
  obtain ⟨earlier, later, split, _⟩ := List.lookup_eq_some_iff.mp held
  rw [split]
  simp

/-- A job makes up the difference to the engine without it. -/
theorem jobs_perm (keys : (engine.jobs.map (·.1)).Nodup) (held : engine.job? key = some job) :
    engine.jobs.Perm ((key, job) :: (engine.drop key).jobs) :=
  perm_cons_filter_of_nodup_map keys (mem_of_job? held)

theorem ne_of_mem_drop {entry : String × LocalJob} (member : entry ∈ (engine.drop key).jobs) :
    entry.1 ≠ key := by
  obtain ⟨_, apart⟩ := List.mem_filter.mp member
  simpa using apart

theorem adjust_perm (keys : (engine.jobs.map (·.1)).Nodup) (held : engine.job? key = some job)
    (change : LocalJob → LocalJob) :
    (engine.adjust key change).jobs.Perm ((key, change job) :: (engine.drop key).jobs) := by
  refine ((jobs_perm keys held).map _).trans (List.Perm.of_eq ?_)
  rw [List.map_cons]
  dsimp only
  rw [if_pos rfl]
  congr 1
  refine (List.map_congr_left fun entry member => ?_).trans (List.map_id _)
  exact if_neg (ne_of_mem_drop member)

theorem lasting_of_ends {event : LocalEvent} (ends : event.ends key = true)
    (log : List LocalEvent) :
    lasting key (event :: log) = 0 :=
  if_pos ends

theorem lasting_of_apart {event : LocalEvent} (apart : event.ends key = false)
    (log : List LocalEvent) :
    lasting key (event :: log) = event.millis + lasting key log := by
  simp [lasting, apart]

/-- Events at which no trigger ends and no time passes make no difference to what is pending. -/
theorem pending_cons {event : LocalEvent} {log : List LocalEvent}
    (apart : ∀ entry ∈ engine.jobs, event.ends entry.1 = false) (still : event.millis = 0) :
    engine.pending (event :: log) = engine.pending log := by
  refine List.flatMap_congr fun entry member => ?_
  rw [lasting_of_apart (apart entry member), still, Nat.zero_add]

/-- Where the trigger of one job ends at once, it is only the others that have fires pending. -/
theorem pending_cons_of_ends {event : LocalEvent} {log : List LocalEvent}
    (keys : (engine.jobs.map (·.1)).Nodup) (held : engine.job? key = some job)
    (ends : ∀ other, event.ends other = (key == other)) (still : event.millis = 0) :
    (engine.pending (event :: log)).Perm ((engine.drop key).pending log) := by
  have ended : event.ends key = true := (ends key).trans (beq_self_eq_true key)
  have apart : ∀ entry ∈ (engine.drop key).jobs, event.ends entry.1 = false := by
    intro entry member
    rw [ends, beq_eq_false_iff_ne]
    exact (ne_of_mem_drop member).symm
  refine ((jobs_perm keys held).flatMap_right _).trans (List.Perm.of_eq ?_)
  rw [List.flatMap_cons, lasting_of_ends ended, Nat.add_zero, firesOf_self, List.nil_append]
  exact pending_cons apart still

/-- The fires of a trigger that has just been set are those of the stretch of time that begins with
it. -/
theorem firesOf_fresh (data : JobData) (period since stop : Nat) :
    firesOf since stop ⟨.interval period, data, since⟩ =
      Tenure.fires ⟨data, period, since, stop⟩ := by
  simp [firesOf, Tenure.fires]

theorem tenure?_unsuccessful {request : EngineRequest} {result : Except EngineError Bool}
    (failed : result ≠ .ok true) (past later : List LocalEvent) :
    tenure? past (.answered request result) later = none := by
  unfold tenure?
  split
  next same =>
    injection same with _ successful
    exact absurd successful failed
  next same =>
    injection same with _ successful
    exact absurd successful failed
  next => rfl

theorem Follows.fires_registered (follows : engine.Follows past) (key : String)
    (trigger : TriggerSpec) (data : JobData) (later : List LocalEvent) :
    (tenure? past (.answered (.register key trigger data) (.ok true)) later).toList.flatMap
        Tenure.fires =
      firesOf engine.now (engine.now + lasting key later) ⟨trigger, data, engine.now⟩ := by
  cases trigger with
  | interval period => simp [tenure?, follows.now, firesOf_fresh]
  | cron expression zone => rfl

theorem Follows.fires_replaced (follows : engine.Follows past) (held : engine.job? key = some job)
    (trigger : TriggerSpec) (later : List LocalEvent) :
    (tenure? past (.answered (.replace key trigger) (.ok true)) later).toList.flatMap Tenure.fires =
      firesOf engine.now (engine.now + lasting key later) { job with
        trigger, since := engine.now } := by
  have data := follows.data _ (mem_of_job? held)
  cases trigger with
  | interval period => simp [tenure?, data, follows.now, firesOf_fresh]
  | cron expression zone => rfl

/-- What is pending after an answer is what has been pending before, and the fires of the stretch of
time that begins with the answer. -/
theorem Follows.fires_answered (follows : engine.Follows past) {request : EngineRequest}
    {result : Except EngineError Bool} {after : LocalEngine}
    (answers : engine.Answers request result after) (later : List LocalEvent) :
    (after.pending later).Perm (engine.pending (.answered request result :: later) ++
      (tenure? past (.answered request result) later).toList.flatMap Tenure.fires) := by
  cases answers with
  | taken | unregistered | unmoved | unreplaced | unknown =>
    rw [pending_cons (fun _ _ => rfl) rfl, tenure?_unsuccessful (by simp)]
    exact List.Perm.of_eq (List.append_nil _).symm
  | @registered key trigger data =>
    rw [pending_cons (fun _ _ => rfl) rfl, follows.fires_registered]
    refine List.Perm.of_eq ?_
    simp [pending, take]
  | @replaced key trigger job _ held =>
    rw [follows.fires_replaced held]
    have moved :=
      (adjust_perm follows.keys held 
        fun job => { job with trigger, since := engine.now }).flatMap_right
      fun entry => firesOf engine.now (engine.now + lasting entry.1 later) entry.2
    have ended : (engine.pending (.answered (.replace key trigger) (.ok true) :: later)).Perm
        ((engine.drop key).pending later) :=
          pending_cons_of_ends follows.keys held (fun _ => rfl) rfl
    exact (moved.trans List.perm_append_comm).trans (ended.symm.append_right _)
  | @removed key job held =>
    have ended : (engine.pending (.answered (.remove key) (.ok true) :: later)).Perm
        ((engine.drop key).pending later) :=
          pending_cons_of_ends follows.keys held (fun _ => rfl) rfl
    exact ended.symm.trans (List.Perm.of_eq (List.append_nil _).symm)

/-- What is fired while some time passes and what is pending after it is what has been pending
before. -/
theorem fires_advance (engine : LocalEngine) (millis : Nat) (later : List LocalEvent) :
    ((engine.advance millis).1 ++ (engine.advance millis).2.pending later).Perm
      (engine.pending (.passed millis (engine.advance millis).1 :: later)) := by
  have split : engine.pending (.passed millis (engine.advance millis).1 :: later) =
      engine.jobs.flatMap fun entry => firesOf engine.now (engine.now + millis) entry.2 ++
        firesOf (engine.now + millis) (engine.now + millis + lasting entry.1 later) entry.2 := by
    refine List.flatMap_congr fun entry _ => ?_
    rw [lasting_of_apart rfl, firesOf_append (Nat.le_add_right _ _) (Nat.le_add_right _ _),
      Nat.add_assoc]
    rfl
  rw [split]
  exact ((List.mergeSort_perm _ fireLe).append_right _).trans (List.flatMap_append_perm _ _ _)

/-- When the jobs are dropped, nothing of them is pending. -/
theorem pending_stopped (engine : LocalEngine) (later : List LocalEvent) :
    engine.pending (.stopped :: later) = [] := by
  refine List.flatMap_eq_nil_iff.mpr fun entry _ => ?_
  rw [lasting_of_ends rfl, Nat.add_zero, firesOf_self]

/-- What is seen of an act and what is pending after it is what has been pending before, and the
fires of the stretch of time that begins with the act. -/
theorem Follows.fires_performed (follows : engine.Follows past) (act : LocalAct)
    (later : List LocalEvent) :
    ((engine.perform act).1.fires ++ (engine.perform act).2.pending later).Perm
      (engine.pending ((engine.perform act).1 :: later) ++
        (tenure? past (engine.perform act).1 later).toList.flatMap Tenure.fires) := by
  cases act with
  | ask request => exact follows.fires_answered (engine.answers request) later
  | shutdown =>
    have stopped := engine.pending_stopped later
    show (([] : List LocalFire) ++ []).Perm (engine.pending (.stopped :: later) ++ [])
    rw [stopped]
  | wait millis =>
    show ((engine.advance millis).1 ++ (engine.advance millis).2.pending later).Perm
      (engine.pending (.passed millis (engine.advance millis).1 :: later) ++ [])
    rw [List.append_nil]
    exact engine.fires_advance millis later

/-- A job keeps its data for as long as it is there. -/
theorem Follows.data_answered (follows : engine.Follows past) {request : EngineRequest}
    {result : Except EngineError Bool} {after : LocalEngine}
    (answers : engine.Answers request result after) :
    ∀ entry ∈ after.jobs,
      (LocalEvent.answered request result :: past).findSome? (·.data? entry.1) =
        some entry.2.data := by
  intro entry member
  cases answers with
  | taken | unregistered | unmoved | unreplaced | unknown => exact follows.data entry member
  | @registered key trigger data plan free =>
    rcases List.mem_append.mp member with held | added
    · have apart : ¬ key = entry.1 := fun same => by
        simpa [same] using List.lookup_eq_none_iff.mp free entry held
      simpa [LocalEvent.data?, apart] using follows.data entry held
    · obtain rfl := List.mem_singleton.mp added
      simp [LocalEvent.data?]
  | @replaced key =>
    obtain ⟨source, held, rfl⟩ := List.mem_map.mp member
    have kept := follows.data source held
    by_cases same : source.1 = key <;> simpa [LocalEvent.data?, same] using kept
  | removed => exact follows.data entry (List.mem_of_mem_filter member)

theorem now_perform (engine : LocalEngine) (act : LocalAct) :
    (engine.perform act).2.now = engine.now + (engine.perform act).1.millis := by
  cases act with
  | ask request => exact (engine.answers request).now
  | shutdown | wait => rfl

/-- An act leaves the engine what the log has made of it. -/
theorem Follows.performed (follows : engine.Follows past) (act : LocalAct) :
    (engine.perform act).2.Follows ((engine.perform act).1 :: past) := by
  have now : clock ((engine.perform act).1 :: past) = (engine.perform act).2.now := by
    rw [now_perform, ← follows.now, Nat.add_comm]
    rfl
  cases act with
  | ask request =>
    exact ⟨nodup_keys_answer request follows.keys,
      follows.data_answered (engine.answers request), now⟩
  | shutdown => exact ⟨List.nodup_nil, fun _ member => absurd member List.not_mem_nil, now⟩
  | wait millis => exact ⟨follows.keys, follows.data, now⟩

/-! ### Runs -/

/-- All fires that are seen are those of triggers that are set already and of the stretches of time
that begin later, by induction on the acts. -/
theorem Follows.firesIn_observe (follows : engine.Follows past) (acts : List LocalAct) :
    (firesIn (engine.observe acts)).Perm
      (engine.pending (engine.observe acts) ++
        (tenures past (engine.observe acts)).flatMap Tenure.fires) := by
  induction acts generalizing engine past with
  | nil =>
    have nothing : engine.pending [] = [] :=
      List.flatMap_eq_nil_iff.mpr fun entry _ => firesOf_self engine.now entry.2
    show ([] : List LocalFire).Perm (engine.pending [] ++ [])
    rw [nothing, List.append_nil]
  | cons act acts ih =>
    have later := ih (follows.performed act)
    have first := follows.fires_performed act ((engine.perform act).2.observe acts)
    rw [observe, firesIn, List.flatMap_cons, tenures, List.flatMap_append, ← List.append_assoc]
    refine (later.append_left _).trans ?_
    rw [← List.append_assoc]
    exact first.append_right _

/-- An interval that is set is positive. -/
theorem Answers.period_pos {request : EngineRequest} {result : Except EngineError Bool}
    {after : LocalEngine} (answers : engine.Answers request result after) {later : List LocalEvent}
    {tenure : Tenure} (begun : tenure? past (.answered request result) later = some tenure) :
    0 < tenure.period := by
  cases answers with
  | taken | unregistered | unmoved | unreplaced | unknown =>
    rw [tenure?_unsuccessful (by simp)] at begun
    cases begun
  | removed => cases begun
  | @registered key trigger data plan free planned =>
    cases trigger with
    | cron expression zone => cases begun
    | interval period =>
      obtain rfl := Option.some.inj begun
      exact FirePlan.pos_of_ofTrigger planned
  | @replaced key trigger job plan held planned =>
    cases trigger with
    | cron expression zone => cases begun
    | interval period =>
      obtain ⟨data, _, rfl⟩ := Option.map_eq_some_iff.mp begun
      exact FirePlan.pos_of_ofTrigger planned

/-- Jobs repeat at positive intervals. -/
theorem period_pos (acts : List LocalAct) (past : List LocalEvent) :
    ∀ tenure ∈ tenures past (engine.observe acts), 0 < tenure.period := by
  induction acts generalizing engine past with
  | nil => simp [observe, tenures]
  | cons act acts ih =>
    intro tenure member
    rcases List.mem_append.mp member with begun | later
    · have begun := Option.mem_toList.mp begun
      cases act with
      | ask request => exact (engine.answers request).period_pos begun
      | shutdown | wait => cases begun
    · exact ih _ tenure later

/-- Fires are seen in the time that they are for. -/
theorem fires_in_time (acts : List LocalAct) {earlier later : List LocalEvent} {event : LocalEvent}
    (split : engine.observe acts = earlier ++ event :: later) :
    event.fires.Pairwise (fun a b => a.millis ≤ b.millis) ∧ ∀ fire ∈ event.fires,
      engine.now + clock earlier < fire.millis ∧
      fire.millis ≤ engine.now + clock earlier + event.millis := by
  induction acts generalizing engine earlier with
  | nil => simp [observe] at split
  | cons act acts ih =>
    cases earlier with
    | nil =>
      obtain ⟨rfl, _⟩ := List.cons.inj split
      cases act with
      | ask request => simp [perform, LocalEvent.fires]
      | shutdown => simp [perform, LocalEvent.fires]
      | wait millis => exact engine.advance_fires millis
    | cons first earlier =>
      obtain ⟨rfl, rest⟩ := List.cons.inj split
      have timely := ih rest
      rw [now_perform, Nat.add_assoc] at timely
      exact timely

/-! ### What a log shows -/

/-- The fires of a stretch of time, one by one. -/
theorem mem_tenure_fires {tenure : Tenure} (positive : 0 < tenure.period) {fire : LocalFire} :
    fire ∈ tenure.fires ↔ fire.data = tenure.data ∧
      ∃ k, 1 ≤ k ∧ fire.millis = tenure.since + k * tenure.period ∧ fire.millis ≤ tenure.stop := by
  rw [← firesOf_fresh, mem_firesOf]
  constructor
  · rintro ⟨period, same, _, data, ⟨k, least, time⟩, _, early⟩
    obtain rfl := TriggerSpec.interval.inj same
    exact ⟨data, k, least, time, early⟩
  · rintro ⟨data, k, least, time, early⟩
    have spread : 0 < k * tenure.period := Nat.mul_pos least positive
    exact ⟨tenure.period, rfl, positive, data, ⟨k, least, time⟩, by omega, early⟩

theorem nodup_tenure_fires {tenure : Tenure} (positive : 0 < tenure.period) :
    tenure.fires.Nodup := by
  refine List.Nodup.map ?_ List.nodup_range'
  intro k l same
  have time : tenure.since + k * tenure.period = tenure.since + l * tenure.period :=
    congrArg LocalFire.millis same
  exact Nat.eq_of_mul_eq_mul_right positive (Nat.add_left_cancel time)

/-- A log in which jobs with an interval fire when they have to. All fires together are those of the
stretches of time for which jobs have an interval; those of such a stretch are the multiples of the
interval in it, each once and with the data of the job; and each is seen in the time that it is
for. -/
structure Punctual (log : List LocalEvent) : Prop where
  fires : (firesIn log).Perm ((tenures [] log).flatMap Tenure.fires)
  nodup : ∀ tenure ∈ tenures [] log, tenure.fires.Nodup
  mem_iff : ∀ tenure ∈ tenures [] log, ∀ fire, fire ∈ tenure.fires ↔ fire.data = tenure.data ∧
    ∃ k, 1 ≤ k ∧ fire.millis = tenure.since + k * tenure.period ∧ fire.millis ≤ tenure.stop
  ordered : ∀ event ∈ log, event.fires.Pairwise fun a b => a.millis ≤ b.millis
  timely : ∀ {earlier event later}, log = earlier ++ event :: later → ∀ fire ∈ event.fires,
    clock earlier < fire.millis ∧ fire.millis ≤ clock earlier + event.millis

theorem punctual_observe (acts : List LocalAct) : Punctual (empty.observe acts) where
  fires := by
    have pending : empty.pending (empty.observe acts) = [] := rfl
    have fires := follows_empty.firesIn_observe acts
    rwa [pending, List.nil_append] at fires
  nodup tenure member := nodup_tenure_fires (period_pos acts [] tenure member)
  mem_iff tenure member _ := mem_tenure_fires (period_pos acts [] tenure member)
  ordered event member := by
    obtain ⟨earlier, later, split⟩ := List.append_of_mem member
    exact (fires_in_time acts split).1
  timely {earlier event later} split := by
    have timely := (fires_in_time acts split).2
    have start : empty.now + clock earlier = clock earlier := Nat.zero_add _
    rwa [start] at timely

/-- Jobs with an interval fire when they have to, whatever is asked of the engine and however its
clock is moved on. A request that is not answered with success makes no difference to the engine,
nor to what is seen of it from then on, and neither does it to the fires whether the clock is moved
on once or twice. -/
theorem fires_exactly :
    (∀ acts, Punctual (empty.observe acts)) ∧
      (∀ (engine : LocalEngine) request, (engine.answer request).1 ≠ .ok true →
        (engine.answer request).2 = engine ∧
          ∀ acts, firesIn (engine.observe (.ask request :: acts)) = firesIn (engine.observe acts)) ∧
      ∀ (engine : LocalEngine) first second acts,
        firesIn (engine.observe (.wait first :: .wait second :: acts)) =
          firesIn (engine.observe (.wait (first + second) :: acts)) := by
  refine ⟨punctual_observe, fun engine request failed => ?_, fun engine first second acts => ?_⟩
  · have kept := (engine.answers request).unsuccessful failed
    refine ⟨kept, fun acts => ?_⟩
    show [] ++ firesIn ((engine.answer request).2.observe acts) = firesIn (engine.observe acts)
    rw [kept, List.nil_append]
  · have joined := engine.advance_add first second
    simp only [observe, perform, firesIn, List.flatMap_cons, LocalEvent.fires]
    rw [joined, List.append_assoc]

/-- A job whose interval is set anew starts over, also at the very moment at which it has fired. -/
example :
    let data : JobData := ⟨"north", none, .ofBits 1⟩
    let log :=
      empty.observe [.ask (.register "a" (.interval 40) data), .wait 90,
      .ask (.replace "a" (.interval 0)),
      .wait 30, .ask (.replace "a" (.interval 25)), .wait 50, .ask (.remove "a"), .wait 100]
    ((tenures [] log).flatMap Tenure.fires).map (·.millis) = [40, 80, 120, 145, 170] := by
  decide +kernel

end LocalEngine

end Horarium
