/-
Module: Horarium.Proofs.MissingJobs
Purpose: Which jobs a rebuild registers. Of a list of records with different ids those are missing
  that ask for a job while the engine holds none under their id; a rebuild adds the jobs of the
  missing records to those that the engine holds, whatever the other records are and in whatever
  order they come, so that a second rebuild finds nothing missing.
Trusted boundary: none
Main exports: Reconcile.missing, Reconcile.Fills, Reconcile.rebuild_registers_missing
-/
import Horarium.Proofs.Reconciliation
import Horarium.Proofs.Requests
import Horarium.Proofs.UuidText
import Mathlib.Data.List.Nodup

namespace Horarium

/-! ### Jobs as entries and as a roster -/

section Entries

variable {first second : List (String × Job)}

theorem mem_iff_ofList (keys : (first.map (·.1)).Nodup) {key : String} {job : Job} :
    (key, job) ∈ first ↔ Roster.ofList first key = some job := by
  constructor
  · exact Roster.ofList_of_mem keys
  · intro found
    obtain ⟨earlier, later, split, _⟩ := List.lookup_eq_some_iff.mp found
    simp [split]

/-- Where every key has one job, the entries are told by the roster but for their order. -/
theorem perm_of_ofList_eq (firstKeys : (first.map (·.1)).Nodup)
    (secondKeys : (second.map (·.1)).Nodup) (same : Roster.ofList first = Roster.ofList second) :
    first.Perm second := by
  refine (List.perm_ext_iff_of_nodup firstKeys.of_map secondKeys.of_map).mpr fun entry => ?_
  obtain ⟨key, job⟩ := entry
  rw [mem_iff_ofList firstKeys, mem_iff_ofList secondKeys, same]

/-- The order of the entries makes no difference to the roster. -/
theorem ofList_eq_of_perm (keys : (first.map (·.1)).Nodup) (perm : first.Perm second) :
    Roster.ofList first = Roster.ofList second := by
  have secondKeys : (second.map (·.1)).Nodup := (perm.map (·.1)).nodup_iff.mp keys
  funext key
  apply Option.ext
  intro job
  rw [← mem_iff_ofList keys, ← mem_iff_ofList secondKeys, perm.mem_iff]

end Entries

/-- A steady engine answers what it has to, and the rest of a procedure goes on with that. -/
theorem World.run_engine {σ ε δ α : Type} [TimerStore σ] [SteadyEngine ε] {world : World σ ε}
    {request : EngineRequest} (steady : SteadyEngine.Steady world.engine)
    (plannable : request.Plannable) (next : Except EngineError Bool → Procedure δ α) :
    world.run (Procedure.engine request >>= next) =
      (world.answer (.engine request)).2.run (next (Roster.answer request world.roster).1) := by
  have answered : (world.answer (.engine request)).1 = (Roster.answer request world.roster).1 :=
    (Prod.mk.inj (SteadyEngine.performs steady plannable)).1
  rw [← answered]
  rfl

namespace Reconcile

/-- The job that a record asks for, with its key: it is that of an active record which has an id and
a trigger that can be computed. -/
def jobOf? (ctx : Context) (record : TimerRecord) : Option (String × Job) :=
  match record.isActive, record.id, record.trigger with
  | true, some id, .ok trigger => some (id.toText, ⟨trigger, jobData ctx record id⟩)
  | _, _, _ => none

/-- The jobs that the records ask for under keys that are free. -/
def missing (ctx : Context) (roster : Roster) (records : List TimerRecord) : List (String × Job) :=
  (records.filterMap (jobOf? ctx)).filter fun entry => (roster entry.1).isNone

variable {σ ε : Type} [TimerStore σ] [SteadyEngine ε] {world : World σ ε} {ctx : Context}
  {record : TimerRecord}
  {records : List TimerRecord}

theorem jobOf?_eq_some_iff {key : String} {job : Job} : jobOf? ctx record = some (key, job) ↔
    ∃ id trigger, record.isActive = true ∧ record.id = some id ∧ record.trigger = .ok trigger ∧
      key = id.toText ∧ job = ⟨trigger, jobData ctx record id⟩ := by
  unfold jobOf?
  cases record.isActive <;> cases record.id <;> cases record.trigger <;> simp [eq_comm]

/-- The key of the job is the id of the record. -/
theorem key_of_jobOf? {entry : String × Job} (asks : jobOf? ctx record = some entry) :
    ∃ id, record.id = some id ∧ entry.1 = id.toText := by
  obtain ⟨id, _, _, named, _, key, _⟩ := jobOf?_eq_some_iff.mp asks
  exact ⟨id, named, key⟩

/-- The engine holds the missing jobs in addition to those that it has held, and that many are
counted. -/
structure Fills (ctx : Context) (records : List TimerRecord) (world : World σ ε) (count : Nat)
    (after : World σ ε) :
    Prop where
  store : after.store = world.store
  jobs : (JobEngine.entries after.engine).Perm
    (JobEngine.entries world.engine ++ missing ctx world.roster records)
  count : count = (missing ctx world.roster records).length

/-- What a record adds to the count. -/
def tally (outcome : Except TriggerError Bool) : Nat :=
  if outcome = .ok true then 1 else 0

theorem missing_singleton_of_none (asks : jobOf? ctx record = none) (roster : Roster) :
    missing ctx roster [record] = [] := by
  simp [missing, asks]

theorem missing_singleton_of_some {entry : String × Job} (asks : jobOf? ctx record = some entry)
    (roster : Roster) :
    missing ctx roster [record] = if (roster entry.1).isNone then [entry] else [] := by
  simp [missing, asks, List.filter_cons]

omit [TimerStore σ] in
/-- Where nothing is missing, an engine that holds the same jobs is as it has to be. -/
theorem Fills.idle {after : World σ ε} {count : Nat}
    (nothing : missing ctx world.roster records = []) (none : count = 0)
    (store : after.store = world.store)
    (jobs : (JobEngine.entries after.engine).Perm (JobEngine.entries world.engine)) :
    Fills ctx records world count after :=
  ⟨store, by rwa [nothing, List.append_nil], by rw [nothing, none, List.length_nil]⟩

/-- Registering the job that a record asks for adds it to the others, unless its key is taken. -/
theorem register_fills {key : String} {trigger : TriggerSpec} {data : JobData}
    (steady : SteadyEngine.Steady world.engine)
    (plannable : EngineRequest.Plannable (.register key trigger data))
    (asks : jobOf? ctx record = some (key, ⟨trigger, data⟩)) :
    Fills ctx [record] world (if (world.roster key).isNone then 1 else 0)
      (world.answer (.engine (.register key trigger data))).2 := by
  have kept : SteadyEngine.Steady (world.answer (.engine (.register key trigger data))).2.engine :=
    SteadyEngine.steady_answer steady
  have held : (world.answer (.engine (.register key trigger data))).2.roster =
      (Roster.answer (.register key trigger data) world.roster).2 :=
    (Prod.mk.inj (SteadyEngine.performs steady plannable)).2
  have keys := SteadyEngine.keys_nodup steady
  have keptKeys := SteadyEngine.keys_nodup kept
  have one := missing_singleton_of_some asks world.roster
  cases taken : world.roster key with
  | some job =>
    simp only [Roster.answer, taken] at held
    exact .idle (by simp [one, taken]) rfl rfl (perm_of_ofList_eq keptKeys keys held)
  | none =>
    simp only [Roster.answer, taken] at held
    have added : missing ctx world.roster [record] = [(key, ⟨trigger, data⟩)] := by
      simp [one, taken]
    have concatKeys := nodup_keys_concat keys taken (⟨trigger, data⟩ : Job)
    refine ⟨rfl, ?_, by rw [added]; rfl⟩
    rw [added]
    exact perm_of_ofList_eq keptKeys concatKeys (held.trans (Roster.ofList_concat taken _).symm)

/-- Scheduling a record registers its job if that is missing. -/
theorem schedule_fills (steady : SteadyEngine.Steady world.engine) (ctx : Context)
    (record : TimerRecord) :
    SteadyEngine.Steady (world.run (schedule ctx record)).2.engine ∧
      Fills ctx [record] world (tally (world.run (schedule ctx record)).1)
        (world.run (schedule ctx record)).2 := by
  have idle (nothing : jobOf? ctx record = none) : Fills ctx [record] world 0 world :=
    .idle (missing_singleton_of_none nothing _) rfl rfl (.refl _)
  unfold schedule
  cases active : record.isActive with
  | false => exact ⟨steady, idle (by simp [jobOf?, active])⟩
  | true =>
    cases named : record.id with
    | none => exact ⟨steady, idle (by simp [jobOf?, named])⟩
    | some id =>
      cases computed : record.trigger with
      | error e => exact ⟨steady, idle (by simp [jobOf?, computed])⟩
      | ok trigger =>
        have asks : jobOf? ctx record = some (id.toText, ⟨trigger, jobData ctx record id⟩) :=
          jobOf?_eq_some_iff.mpr ⟨id, trigger, active, named, computed, rfl, rfl⟩
        have plannable :
            EngineRequest.Plannable (.register id.toText trigger (jobData ctx record id)) :=
          TimerRecord.plan_of_trigger computed id.toText
        have fills := register_fills steady plannable asks
        have kept : SteadyEngine.Steady (world.answer (.engine (.register id.toText trigger
            (jobData ctx record id)))).2.engine := SteadyEngine.steady_answer steady
        simp only [Bool.not_true, Bool.false_eq_true, if_false]
        rw [World.run_engine steady plannable]
        cases taken : world.roster id.toText with
        | some job =>
          simp only [taken, Roster.answer] at fills ⊢
          exact ⟨kept, fills⟩
        | none =>
          simp only [taken, Roster.answer] at fills ⊢
          exact ⟨kept, fills⟩

omit [TimerStore σ] in
/-- The jobs after it are those before it and the missing ones. -/
theorem Fills.roster {after : World σ ε} {count : Nat} (fills : Fills ctx records world count after)
    (steady : SteadyEngine.Steady after.engine) (key : String) :
    after.roster key =
      (world.roster key).or (Roster.ofList (missing ctx world.roster records) key) := by
  have same : after.roster =
      Roster.ofList (JobEngine.entries world.engine ++ missing ctx world.roster records) :=
    ofList_eq_of_perm (SteadyEngine.keys_nodup steady) fills.jobs
  rw [same]
  exact List.lookup_append

theorem mem_missing_iff {roster : Roster} {key : String} {job : Job} :
    (key, job) ∈ missing ctx roster records ↔
    (∃ record ∈ records, jobOf? ctx record = some (key, job)) ∧ roster key = none := by
  simp [missing]

omit [TimerStore σ] in
/-- A record that has another id finds the same missing. -/
theorem Fills.missing_eq {middle : World σ ε} {count : Nat}
    (fills : Fills ctx [record] world count middle) (steady : SteadyEngine.Steady middle.engine)
    (distinct : ((record :: records).filterMap (·.id)).Nodup) :
    missing ctx middle.roster records = missing ctx world.roster records := by
  refine List.filter_congr fun entry member => ?_
  obtain ⟨other, listed, asks⟩ := List.mem_filterMap.mp member
  have absent : Roster.ofList (missing ctx world.roster [record]) entry.1 = none := by
    refine List.lookup_eq_none_iff.mpr fun found present => bne_iff_ne.mpr fun same => ?_
    obtain ⟨⟨first, only, asked⟩, _⟩ := mem_missing_iff.mp present
    obtain rfl := List.mem_singleton.mp only
    obtain ⟨id, named, key⟩ := key_of_jobOf? asked
    obtain ⟨otherId, otherNamed, otherKey⟩ := key_of_jobOf? asks
    obtain rfl : otherId = id := Uuid.toText_inj.mp (otherKey.symm.trans (same.trans key))
    rw [List.filterMap_cons_some named, List.nodup_cons] at distinct
    exact distinct.1 (List.mem_filterMap.mpr ⟨other, listed, otherNamed⟩)
  rw [fills.roster steady, absent, Option.or_none]

omit [TimerStore σ] in
theorem Fills.cons {middle after : World σ ε} {first rest : Nat}
    (one : Fills ctx [record] world first middle) (steady : SteadyEngine.Steady middle.engine)
    (distinct : ((record :: records).filterMap (·.id)).Nodup)
    (others : Fills ctx records middle rest after) :
    Fills ctx (record :: records) world (first + rest) after := by
  have split : missing ctx world.roster (record :: records) =
      missing ctx world.roster [record] ++ missing ctx world.roster records := by
    rw [missing, ← List.singleton_append, List.filterMap_append, List.filter_append]
    rfl
  have same := one.missing_eq steady distinct
  refine ⟨others.store.trans one.store, ?_, ?_⟩
  · have jobs := others.jobs.trans (one.jobs.append_right _)
    rwa [same, List.append_assoc, ← split] at jobs
  · rw [split, List.length_append, one.count, others.count, same]

/-- However the scheduling of a record ends, the others have their turn. -/
theorem run_rebuild_cons {δ : Type} {after : World σ ε} {others : Nat}
    (ran : (world.run (schedule ctx record)).2.run (rebuild ctx records : Procedure δ Nat) =
      (.ok others, after)) :
    world.run (rebuild ctx (record :: records) : Procedure δ Nat) =
      (.ok (tally (world.run (schedule ctx record)).1 + others), after) := by
  unfold rebuild
  show world.run
    ((schedule ctx record).attempt.bind fun _ => (rebuild ctx records).bind fun _ => _) = _
  rw [World.run_bind, World.run_attempt]
  dsimp only
  rw [World.run_bind, ran]
  cases (world.run (schedule ctx record)).1 with
  | error e => simp [tally, World.run]
  | ok registered => cases registered <;> simp [tally, World.run, Nat.add_comm]

/-- A rebuild registers what is missing, by induction on the records. -/
theorem rebuild_fills {δ : Type} (ctx : Context) (steady : SteadyEngine.Steady world.engine)
    (distinct : (records.filterMap (·.id)).Nodup) :
    ∃ count after, world.run (rebuild ctx records : Procedure δ Nat) = (.ok count, after) ∧
      SteadyEngine.Steady after.engine ∧ Fills ctx records world count after := by
  induction records generalizing world with
  | nil => exact ⟨0, world, rfl, steady, .idle rfl rfl rfl (.refl _)⟩
  | cons record records ih =>
    obtain ⟨kept, first⟩ := schedule_fills steady ctx record
    have later : (records.filterMap (·.id)).Nodup :=
      distinct.sublist ((List.sublist_cons_self _ _).filterMap _)
    obtain ⟨count, after, ran, steadyAfter, rest⟩ := ih kept later
    refine ⟨_, after, ?_, steadyAfter, first.cons kept distinct rest⟩
    exact run_rebuild_cons ran

omit [TimerStore σ] in
/-- Once the missing jobs have been registered, none is missing. -/
theorem Fills.nothing_missing {after : World σ ε} {count : Nat}
    (fills : Fills ctx records world count after) (steady : SteadyEngine.Steady after.engine) :
    missing ctx after.roster records = [] := by
  refine List.filter_eq_nil_iff.mpr fun entry member free => ?_
  rw [fills.roster steady, Option.isNone_iff_eq_none, Option.or_eq_none_iff] at free
  have listed : entry ∈ missing ctx world.roster records :=
    List.mem_filter.mpr ⟨member, Option.isNone_iff_eq_none.mpr free.1⟩
  have apart := List.lookup_eq_none_iff.mp free.2 entry listed
  simp at apart

/-- A rebuild registers exactly what is missing. It ends with the number of these jobs, the engine
holds them and those it has held, and the order of the records makes no difference to that; when it
is done again, nothing is missing and everything stays as it is. -/
theorem rebuild_registers_missing {δ : Type} (ctx : Context)
    (steady : SteadyEngine.Steady world.engine) (distinct : (records.filterMap (·.id)).Nodup) :
    ∃ count after, world.run (rebuild ctx records : Procedure δ Nat) = (.ok count, after) ∧
      Fills ctx records world count after ∧
      (∀ reordered, records.Perm reordered → ∃ last,
        world.run (rebuild ctx reordered : Procedure δ Nat) = (.ok count, last) ∧
          last.roster = after.roster) ∧
      ∃ last, after.run (rebuild ctx records : Procedure δ Nat) = (.ok 0, last) ∧
        last.store = after.store ∧
        last.roster = after.roster := by
  obtain ⟨count, after, ran, kept, fills⟩ := rebuild_fills (δ := δ) ctx steady distinct
  refine ⟨count, after, ran, fills, fun reordered perm => ?_, ?_⟩
  · have order : (missing ctx world.roster records).Perm (missing ctx world.roster reordered) :=
      (perm.filterMap _).filter _
    obtain ⟨total, last, ran', kept', fills'⟩ :=
      rebuild_fills (δ := δ) ctx steady ((perm.filterMap _).nodup_iff.mp distinct)
    obtain rfl : total = count := by rw [fills'.count, fills.count, order.length_eq]
    refine ⟨last, ran', ofList_eq_of_perm (SteadyEngine.keys_nodup kept') ?_⟩
    exact fills'.jobs.trans ((order.symm.append_left _).trans fills.jobs.symm)
  · obtain ⟨total, last, ran', kept', fills'⟩ := rebuild_fills (δ := δ) ctx kept distinct
    have nothing := fills.nothing_missing kept
    obtain rfl : total = 0 := by rw [fills'.count, nothing, List.length_nil]
    refine ⟨last, ran', fills'.store, ofList_eq_of_perm (SteadyEngine.keys_nodup kept') ?_⟩
    have jobs := fills'.jobs
    rwa [nothing, List.append_nil] at jobs

/-- A timer that goes off after so many minutes, and then again and again. -/
def minutely (id : Nat) (delay : String) (enabled : Bool) : TimerRecord :=
  { TimerRecord.ofModule "mod-1.0.0" ⟨["POST"], none, some "/run", some ⟨delay, .minute⟩, none⟩ with
    id := some (.ofBits id), enabled }

/-- Of these timers one is new, one has a job, one is switched off and one says nothing that can be
computed. -/
def roundup : List TimerRecord :=
  [minutely 1 "x" true, minutely 2 "5" true, minutely 3 "5" false, minutely 4 "5" true]

/-- An engine that holds a job for the second of these timers. -/
def staffed : World MemoryStore RecordingEngine where
  store := .empty
  engine := ⟨[((Uuid.ofBits 2).toText, ⟨.interval 60000, ⟨"north", none, .ofBits 2⟩⟩)], [], []⟩
  sources := ⟨fun _ => default, Uuid.ofBits, 0, 0⟩

theorem roundup_registers_fourth :
    ∃ after, staffed.run (rebuild ⟨"north", none, none⟩ roundup : Procedure Empty Nat) =
      (.ok 1, after) ∧
      (JobEngine.entries after.engine).Perm
        [((Uuid.ofBits 2).toText, ⟨.interval 60000, ⟨"north", none, .ofBits 2⟩⟩),
          ((Uuid.ofBits 4).toText, ⟨.interval 300000, ⟨"north", none, .ofBits 4⟩⟩)] := by
  have steady : SteadyEngine.Steady staffed.engine := ⟨rfl, by decide +kernel⟩
  have distinct : (roundup.filterMap (·.id)).Nodup := by decide +kernel
  obtain ⟨count, after, ran, fills, _⟩ :=
    rebuild_registers_missing (δ := Empty) ⟨"north", none, none⟩ steady distinct
  have missing : missing ⟨"north", none, none⟩ staffed.roster roundup =
      [((Uuid.ofBits 4).toText, ⟨.interval 300000, ⟨"north", none, .ofBits 4⟩⟩)] := by
        decide +kernel
  obtain rfl : count = 1 := by rw [fills.count, missing, List.length_singleton]
  refine ⟨after, ran, ?_⟩
  have jobs := fills.jobs
  rwa [missing] at jobs

end Reconcile

end Horarium
