/-
Module: Horarium.Proofs.Roster
Purpose: Engines seen through the jobs that they hold. Both engines hold their jobs in lists; what
  matters of them is which job is under which key, and that is what the requests are stated for.
Trusted boundary: none
Main exports: Roster, Roster.answer, JobEngine, JobEngine.roster, JobEngine.Refuses,
  EngineRequest.Plannable, SteadyEngine
-/
import Horarium.Engine.Local
import Horarium.Engine.Recording
import Mathlib.Logic.Function.Basic

namespace Horarium

/-- The jobs that an engine holds, by their keys. -/
abbrev Roster : Type := String → Option Job

namespace Roster

/-- The roster of a list of jobs with their keys. -/
def ofList (entries : List (String × Job)) : Roster := fun key => entries.lookup key

/-- What a request does to the jobs, and its answer. -/
def answer : EngineRequest → Roster → Except EngineError Bool × Roster
  | .register key trigger data, roster =>
    match roster key with
    | some _ => (.error (.alreadyExists key), roster)
    | none => (.ok true, Function.update roster key (some ⟨trigger, data⟩))
  | .replace key trigger, roster =>
    match roster key with
    | some job => (.ok true, Function.update roster key (some { job with trigger }))
    | none => (.ok false, roster)
  | .remove key, roster => (.ok (roster key).isSome, Function.update roster key none)

end Roster

/-- An engine seen through the jobs that it holds. -/
class JobEngine (ε : Type) extends SchedulingEngine ε where
  entries : ε → List (String × Job)

namespace JobEngine

variable {ε : Type} [JobEngine ε]

/-- Which job is under which key. -/
def roster (engine : ε) : Roster := .ofList (entries engine)

/-- The engine does what it is asked. -/
def Performs (engine : ε) (request : EngineRequest) : Prop :=
  ((SchedulingEngine.answer request engine).1, roster (SchedulingEngine.answer request engine).2)
    = Roster.answer request (roster engine)

/-- The engine refuses what it is asked, and keeps its jobs as they are. -/
def Refuses (engine : ε) (request : EngineRequest) (error : EngineError) : Prop :=
  ((SchedulingEngine.answer request engine).1, roster (SchedulingEngine.answer request engine).2)
    = (.error error, roster engine)

end JobEngine

/-- The trigger that a request carries is one that a plan can be made of. -/
def EngineRequest.Plannable : EngineRequest → Prop
  | .register key trigger _ => ∃ plan, FirePlan.ofTrigger key trigger = .ok plan
  | .replace key trigger => ∃ plan, FirePlan.ofTrigger key trigger = .ok plan
  | .remove _ => True

/-- An engine that starts without jobs and, as long as it is steady, performs every request that can
be planned and holds at most one job under a key. -/
class SteadyEngine (ε : Type) extends JobEngine ε where
  initial : ε
  Steady : ε → Prop
  entries_initial : entries initial = []
  steady_initial : Steady initial
  keys_nodup : ∀ {engine : ε}, Steady engine → ((entries engine).map (·.1)).Nodup
  performs : ∀ {engine : ε} {request : EngineRequest}, Steady engine → request.Plannable →
    JobEngine.Performs engine request
  steady_answer : ∀ {engine : ε} {request : EngineRequest}, Steady engine →
    Steady (SchedulingEngine.answer request engine).2

namespace Roster

theorem ofList_cons (key : String) (job : Job) (entries : List (String × Job)) (other : String) :
    ofList ((key, job) :: entries) other = if other = key then some job
      else ofList entries other := by
  unfold ofList
  by_cases same : other = key
  · simp [same]
  · have apart : (other == key) = false := beq_eq_false_iff_ne.mpr same
    simp [List.lookup_cons, apart, same]

/-- Where every key has one job, a job is found under its key. -/
theorem ofList_of_mem {entries : List (String × Job)} (nodup : (entries.map (·.1)).Nodup)
    {key : String} {job : Job} (member : (key, job) ∈ entries) : ofList entries key = some job := by
  induction entries with
  | nil => simp at member
  | cons entry entries ih =>
    obtain ⟨k, first⟩ := entry
    rw [List.map_cons, List.nodup_cons] at nodup
    rw [ofList_cons]
    rcases List.mem_cons.mp member with same | later
    · obtain ⟨rfl, rfl⟩ := Prod.mk.inj same
      rw [if_pos rfl]
    · have apart : key ≠ k := by
        rintro rfl
        exact nodup.1 (List.mem_map.mpr ⟨_, later, rfl⟩)
      rw [if_neg apart, ih nodup.2 later]

theorem ofList_concat {entries : List (String × Job)} {key : String}
    (free : ofList entries key = none) (job : Job) :
    ofList (entries ++ [(key, job)]) = Function.update (ofList entries) key (some job) := by
  funext other
  have append : ofList (entries ++ [(key, job)]) other =
      (ofList entries other).or (ofList [(key, job)] other) := List.lookup_append
  rw [append, ofList_cons, Function.update_apply]
  by_cases same : other = key
  · subst same
    simp [free]
  · simp [same, ofList]

theorem ofList_map_at (entries : List (String × Job)) (key : String) (change : Job → Job) :
    ofList (entries.map fun (k, job) => if k = key then (k, change job) else (k, job)) =
      Function.update (ofList entries) key ((ofList entries key).map change) := by
  funext other
  rw [Function.update_apply]
  induction entries with
  | nil => simp [ofList]
  | cons entry entries ih =>
    obtain ⟨k, job⟩ := entry
    rw [List.map_cons]
    by_cases found : k = key
    · simp only [if_pos found, ofList_cons, ih]
      grind
    · simp only [if_neg found, ofList_cons, ih]
      grind

theorem ofList_filter_ne (entries : List (String × Job)) (key : String) :
    ofList (entries.filter fun (k, _) => k != key) = Function.update (ofList entries) key none := by
  funext other
  rw [Function.update_apply]
  induction entries with
  | nil => simp [ofList]
  | cons entry entries ih =>
    obtain ⟨k, job⟩ := entry
    by_cases found : k = key
    · rw [List.filter_cons_of_neg (by simp [found]), ih, ofList_cons]
      grind
    · rw [List.filter_cons_of_pos (by simp [found]), ofList_cons, ofList_cons, ih]
      grind

end Roster

section Keys

variable {β : Type} {entries : List (String × β)} {key : String}

theorem keys_map_at (entries : List (String × β)) (key : String) (change : β → β) :
    (entries.map fun (k, b) => if k = key then (k, change b) else (k, b)).map (·.1) =
      entries.map (·.1) := by
  rw [List.map_map]
  refine List.map_congr_left ?_
  rintro ⟨k, b⟩ _
  by_cases found : k = key <;> simp [found]

/-- A job under a free key leaves every key with one job. -/
theorem nodup_keys_concat (nodup : (entries.map (·.1)).Nodup) (free : entries.lookup key = none)
    (b : β) :
    ((entries ++ [(key, b)]).map (·.1)).Nodup := by
  rw [List.map_append, List.nodup_append]
  refine ⟨nodup, by simp, ?_⟩
  rintro taken member other added rfl
  obtain ⟨⟨k, held⟩, present, rfl⟩ := List.mem_map.mp member
  obtain rfl : k = key := by simpa using added
  rw [List.lookup_eq_none_iff] at free
  simpa using free _ present

end Keys

namespace RecordingEngine

theorem perform_eq (request : EngineRequest) (jobs : List (String × Job)) :
    ((perform request jobs).1, Roster.ofList (perform request jobs).2) =
      Roster.answer request (Roster.ofList jobs) := by
  cases request with
  | register key trigger data =>
    cases held : Roster.ofList jobs key with
    | some job =>
      have taken : jobs.lookup key = some job := held
      simp [perform, Roster.answer, held, taken]
    | none =>
      have free : jobs.lookup key = none := held
      simp [perform, Roster.answer, held, free, Roster.ofList_concat held]
  | replace key trigger =>
    have moved := Roster.ofList_map_at jobs key fun job => { job with trigger }
    show (Except.ok (Roster.ofList jobs key).isSome, Roster.ofList (jobs.map _)) = _
    rw [moved]
    cases held : Roster.ofList jobs key with
    | some job => simp [Roster.answer, held]
    | none =>
      have same : Function.update (Roster.ofList jobs) key none = Roster.ofList jobs := by
        rw [← held, Function.update_eq_self]
      simp [Roster.answer, held, same]
  | remove key => simp [perform, Roster.answer, Roster.ofList_filter_ne, Roster.ofList]

theorem nodup_keys_perform (request : EngineRequest) {jobs : List (String × Job)}
    (nodup : (jobs.map (·.1)).Nodup) : ((perform request jobs).2.map (·.1)).Nodup := by
  cases request with
  | register key trigger data =>
    cases held : jobs.lookup key with
    | some job => simpa [perform, held] using nodup
    | none => simpa [perform, held] using nodup_keys_concat nodup held ⟨trigger, data⟩
  | replace key trigger =>
    simp only [perform]
    rw [keys_map_at jobs key fun job => { job with trigger }]
    exact nodup
  | remove key => exact nodup.sublist (List.filter_sublist.map _)

instance : JobEngine RecordingEngine where
  entries engine := engine.jobs

/-- Without a failure queued, a request is performed. -/
theorem performs {engine : RecordingEngine} (quiet : engine.failures = [])
    (request : EngineRequest) : JobEngine.Performs engine request := by
  have performed := perform_eq request engine.jobs
  have answered : SchedulingEngine.answer request engine =
      ((perform request engine.jobs).1,
        ⟨(perform request engine.jobs).2, engine.calls ++ [request], []⟩) := by
    show answer request engine = _
    simp [answer, quiet]
  unfold JobEngine.Performs
  rw [answered]
  exact performed

/-- A queued failure is the answer to the next request. -/
theorem refuses {engine : RecordingEngine} {error : EngineError} {failures : List EngineError}
    (queued : engine.failures = error :: failures) (request : EngineRequest) :
    JobEngine.Refuses engine request error := by
  have answered : SchedulingEngine.answer request engine =
      (.error error, ⟨engine.jobs, engine.calls ++ [request], failures⟩) := by
    show answer request engine = _
    simp [answer, queued]
  unfold JobEngine.Refuses
  rw [answered]
  rfl

instance : SteadyEngine RecordingEngine where
  initial := empty
  Steady engine := engine.failures = [] ∧ (engine.jobs.map (·.1)).Nodup
  entries_initial := rfl
  steady_initial := ⟨rfl, List.nodup_nil⟩
  keys_nodup steady := steady.2
  performs steady _ := performs steady.1 _
  steady_answer := by
    intro engine request ⟨quiet, nodup⟩
    show (answer request engine).2.failures = [] ∧ ((answer request engine).2.jobs.map (·.1)).Nodup
    simp only [answer, quiet]
    exact ⟨trivial, nodup_keys_perform request nodup⟩

end RecordingEngine

namespace LocalEngine

/-- The jobs of the engine without the time at which their triggers were set. -/
def entries (engine : LocalEngine) : List (String × Job) :=
  engine.jobs.map fun (key, job) => (key, ⟨job.trigger, job.data⟩)

theorem lookup_entries (engine : LocalEngine) (key : String) :
    engine.entries.lookup key = (engine.job? key).map fun job => ⟨job.trigger, job.data⟩ := by
  unfold entries job?
  induction engine.jobs with
  | nil => rfl
  | cons entry jobs ih =>
    obtain ⟨k, job⟩ := entry
    simp only [List.map_cons, List.lookup_cons]
    split
    · rfl
    · exact ih

/-- Requests that can be planned are answered and performed as they are by an engine that keeps a
plain list of jobs. -/
theorem answer_eq_perform {engine : LocalEngine} {request : EngineRequest}
    (plannable : request.Plannable) :
    ((answer request engine).1, (answer request engine).2.entries) =
      RecordingEngine.perform request engine.entries := by
  cases request with
  | register key trigger data =>
    obtain ⟨plan, planned⟩ := plannable
    cases held : engine.job? key with
    | some job => simp [answer, RecordingEngine.perform, lookup_entries, held]
    | none =>
      simp only [answer, RecordingEngine.perform, lookup_entries, held, planned]
      simp [entries]
  | replace key trigger =>
    obtain ⟨plan, planned⟩ := plannable
    simp only [answer, RecordingEngine.perform, lookup_entries, Option.isSome_map, planned]
    cases held : engine.job? key with
    | some job =>
      simp only [Option.isNone_some, Bool.false_eq_true, if_false, Option.isSome_some,
        Prod.mk.injEq, true_and]
      simp only [entries, List.map_map]
      refine List.map_congr_left ?_
      rintro ⟨k, other⟩ _
      by_cases found : k = key <;> simp [found]
    | none =>
      simp only [Option.isNone_none, if_true, Option.isSome_none, Prod.mk.injEq, true_and]
      refine (List.map_id _).symm.trans (List.map_congr_left ?_)
      rintro ⟨k, other⟩ member
      have apart : k ≠ key := by
        rintro rfl
        have free : engine.entries.lookup k = none := by rw [lookup_entries, held]; rfl
        rw [List.lookup_eq_none_iff] at free
        simpa using free _ member
      simp [apart]
  | remove key =>
    simp only [answer, RecordingEngine.perform, lookup_entries, Option.isSome_map]
    simp only [entries, List.filter_map]
    rfl

instance : JobEngine LocalEngine where
  entries := entries

theorem keys_entries (engine : LocalEngine) : engine.entries.map (·.1) = engine.jobs.map (·.1) := by
  unfold entries
  rw [List.map_map]
  rfl

/-- Whatever is asked of it, the engine holds at most one job under a key. -/
theorem nodup_keys_answer (request : EngineRequest) {engine : LocalEngine}
    (nodup : (engine.jobs.map (·.1)).Nodup) : ((answer request engine).2.jobs.map (·.1)).Nodup := by
  cases request with
  | register key trigger data =>
    cases held : engine.job? key with
    | some job => simpa [answer, held] using nodup
    | none =>
      simp only [answer, held]
      cases planned : FirePlan.ofTrigger key trigger with
      | error e => exact nodup
      | ok plan => exact nodup_keys_concat nodup held ⟨trigger, data, engine.now⟩
  | replace key trigger =>
    cases held : engine.job? key with
    | none => simpa [answer, held] using nodup
    | some job =>
      simp only [answer, held]
      cases planned : FirePlan.ofTrigger key trigger with
      | error e => exact nodup
      | ok plan =>
        have kept :=
          keys_map_at engine.jobs key fun job => { job with trigger, since := engine.now }
        exact kept.symm ▸ nodup
  | remove key => exact nodup.sublist (List.filter_sublist.map _)

theorem performs {engine : LocalEngine} {request : EngineRequest} (plannable : request.Plannable) :
    JobEngine.Performs engine request := by
  have same : ((answer request engine).1, (answer request engine).2.entries) =
      RecordingEngine.perform request engine.entries := answer_eq_perform plannable
  have performed := RecordingEngine.perform_eq request engine.entries
  rw [← same] at performed
  exact performed

instance : SteadyEngine LocalEngine where
  initial := empty
  Steady engine := (engine.jobs.map (·.1)).Nodup
  entries_initial := rfl
  steady_initial := List.nodup_nil
  keys_nodup steady := keys_entries _ ▸ steady
  performs _ plannable := performs plannable
  steady_answer steady := nodup_keys_answer _ steady

end LocalEngine

end Horarium
