/-
Module: Horarium.Proofs.RecordVersions
Purpose: What becomes of a record and its job as one version of the record after the other is
  stored. The record ends up as the last version, whatever it was before. Its job keeps the user
  that it fires for as long as all versions are active, and fires for the writer of the versions
  once one of them has been inactive.
Trusted boundary: none
Main exports: Slot, Slot.next, Slot.Evolves, Slot.FiresFor, Slot.Evolves.firesFor_again
-/
import Horarium.Proofs.RegistrySteps

namespace Horarium

/-- The record without the date of its last change. -/
def TimerRecord.undated (record : TimerRecord) : TimerRecord :=
  { record with
    metadata := record.metadata.map fun metadata => { metadata with updatedDate := none } }

/-- What there is under an id: the record of a tenant, and the job. -/
@[ext]
structure Slot where
  record : Option TimerRecord
  job : Option Job

namespace Slot

variable {ctx : Context} {now : Instant} {id : Uuid} {slot middle last : Slot}
  {version : TimerRecord}
  {versions : List TimerRecord}

/-- The slot once the next version of its record has been stored and its job settled. -/
def next (ctx : Context) (now : Instant) (id : Uuid) (version : TimerRecord) (slot : Slot) : Slot :=
  let saved := version.version ctx now id slot.record
  ⟨some saved, settle ctx id slot.record (some saved) slot.job⟩

/-- The slot goes through these versions, each of which is stored at some instant. -/
inductive Evolves (ctx : Context) (id : Uuid) : List TimerRecord → Slot → Slot → Prop where
  | nil (slot : Slot) : Evolves ctx id [] slot slot
  | cons {slot last : Slot} {version : TimerRecord} {versions : List TimerRecord} (now : Instant)
      (schedulable : version.Schedulable)
      (rest : Evolves ctx id versions (slot.next ctx now id version) last) :
      Evolves ctx id (version :: versions) slot last

/-- Without a record that asks for one there is no job. -/
def Idle (slot : Slot) : Prop := demandOf slot.record = none → slot.job = none

/-- The job fires for the user, if there is one. -/
def FiresFor (user : Option Uuid) (slot : Slot) : Prop :=
  ∀ job, slot.job = some job → job.data.user = user

theorem schedulable_version (schedulable : version.Schedulable) (before : Option TimerRecord) :
    (version.version ctx now id before).Schedulable :=
  schedulable.of_routingEntry rfl

/-- A version keeps the creation of the version before, so that it does not matter how many came
between. -/
theorem version_version (version earlier old : TimerRecord) (now before : Instant) :
    version.version ctx now id (some (earlier.version ctx before id (some old))) =
      version.version ctx now id (some old) := rfl

/-- Storing a version again changes the date alone. -/
theorem undated_version_again (version : TimerRecord) (now again : Instant)
    (before : Option TimerRecord) :
    (version.version ctx again id (some (version.version ctx now id before))).undated =
      (version.version ctx now id before).undated := by
  cases before <;> rfl

theorem next_firesFor (schedulable : version.Schedulable) (fires : slot.FiresFor ctx.user) :
    (slot.next ctx now id version).FiresFor ctx.user := by
  intro left settled
  have computable : ∀ record, some (version.version ctx now id slot.record) = some record →
      record.Schedulable := by
    rintro _ ⟨⟩
    exact schedulable_version schedulable slot.record
  rcases settle_inv computable settled with
    ⟨kept, _⟩ | ⟨record, trigger, stored, _, _, ⟨kept, _⟩ | ⟨_, rfl⟩ | ⟨earlier, kept, _, rfl⟩⟩
  · exact fires left kept
  · exact fires left kept
  · obtain rfl := Option.some.inj stored
    simp [Reconcile.jobData]
  · exact fires earlier kept

/-- An inactive version leaves no job. -/
theorem next_job_of_inactive (idle : slot.Idle) (inactive : version.isActive = false) :
    (slot.next ctx now id version).job = none := by
  have unasked : demandOf (some (version.version ctx now id slot.record)) = none :=
    TimerRecord.demand_of_inactive inactive
  by_cases before : demandOf slot.record = none
  · exact (settle_of_demand_eq (before.trans unasked.symm)).trans (idle before)
  · exact settle_drop before unasked

/-- An active version has a job that fires for whom the job before it fired. -/
theorem next_job_of_active {held : Job} (schedulable : version.Schedulable)
    (active : version.isActive = true) (job : slot.job = some held) :
    ∃ left, (slot.next ctx now id version).job = some left ∧ left.data = held.data := by
  have present : (slot.next ctx now id version).job.isSome := by
    apply isSome_settle (schedulable_version schedulable slot.record) active
    intro _
    rw [job, Option.isSome_some]
  obtain ⟨left, settled⟩ := Option.isSome_iff_exists.mp present
  have kept : settle ctx id slot.record (some (version.version ctx now id slot.record)) slot.job =
      some left := settled
  rw [job] at kept
  exact ⟨left, settled, data_of_settle kept⟩

namespace Evolves

theorem eq_of_nil (evolves : Evolves ctx id [] slot last) : last = slot := by
  cases evolves
  rfl

/-- A stored record becomes the last version, with its own creation. -/
theorem of_stored {old : TimerRecord} (evolves : Evolves ctx id versions slot last)
    (stored : slot.record = some old) : versions = [] ∧ last = slot ∨
      ∃ version now, versions.getLast? = some version ∧
        last.record = some (version.version ctx now id (some old)) := by
  induction evolves generalizing old with
  | nil slot => exact .inl ⟨rfl, rfl⟩
  | @cons slot last version versions now _ rest ih =>
    right
    have saved :
        (slot.next ctx now id version).record = some (version.version ctx now id (some old)) := by
      rw [← stored]
      rfl
    rcases ih saved with ⟨rfl, rfl⟩ | ⟨later, instant, lastVersion, record⟩
    · exact ⟨version, now, rfl, saved⟩
    · refine ⟨later, instant, ?_, ?_⟩
      · rw [List.getLast?_cons, lastVersion, Option.getD_some]
      · rw [record, version_version]

/-- A slot ends up with the last version. -/
theorem ends (evolves : Evolves ctx id versions slot last) : versions = [] ∧ last = slot ∨
    ∃ version now before, versions.getLast? = some version ∧
      last.record = some (version.version ctx now id before) := by
  cases evolves with
  | nil slot => exact .inl ⟨rfl, rfl⟩
  | @cons slot last version versions now _ rest =>
    right
    rcases rest.of_stored rfl with ⟨rfl, rfl⟩ | ⟨later, instant, lastVersion, record⟩
    · exact ⟨version, now, slot.record, rfl, rfl⟩
    · refine ⟨later, instant, some (version.version ctx now id slot.record), ?_, record⟩
      rw [List.getLast?_cons, lastVersion, Option.getD_some]

/-- Going through the same versions again changes the date of the record alone. -/
theorem record_again (first : Evolves ctx id versions slot middle)
    (again : Evolves ctx id versions middle last) :
    last.record.map TimerRecord.undated = middle.record.map TimerRecord.undated := by
  rcases first.ends with ⟨rfl, rfl⟩ | ⟨version, now, before, lastVersion, record⟩
  · cases again
    rfl
  · rcases again.of_stored record with ⟨rfl, _⟩ | ⟨same, again, lastAgain, recordAgain⟩
    · simp at lastVersion
    · obtain rfl := Option.some.inj (lastVersion.symm.trans lastAgain)
      rw [record, recordAgain, Option.map_some, Option.map_some, undated_version_again]

theorem firesFor (evolves : Evolves ctx id versions slot last) (fires : slot.FiresFor ctx.user) :
    last.FiresFor ctx.user := by
  induction evolves with
  | nil slot => exact fires
  | cons now schedulable _ ih => exact ih (next_firesFor schedulable fires)

/-- While all versions are active, the job fires for whom it fired. -/
theorem firesFor_of_active {held : Job} (evolves : Evolves ctx id versions slot last)
    (active : ∀ version ∈ versions, version.isActive = true) (job : slot.job = some held) :
    last.FiresFor held.data.user := by
  induction evolves generalizing held with
  | nil slot =>
    intro left kept
    rw [Option.some.inj (job.symm.trans kept)]
  | cons now schedulable _ ih =>
    obtain ⟨left, settled, data⟩ := next_job_of_active schedulable (active _ List.mem_cons_self) job
    rw [← data]
    exact ih (fun version member => active version (List.mem_cons_of_mem _ member)) settled

/-- After an inactive version the job fires for the writer of the versions. -/
theorem firesFor_of_inactive (evolves : Evolves ctx id versions slot last) (idle : slot.Idle)
    (inactive : ∃ version ∈ versions, version.isActive = false) : last.FiresFor ctx.user := by
  induction evolves with
  | nil slot => simp at inactive
  | @cons slot last version versions now schedulable rest ih =>
    cases active : version.isActive with
    | false =>
      apply rest.firesFor
      intro job held
      rw [next_job_of_inactive idle active] at held
      simp at held
    | true =>
      apply ih
      · intro unasked
        exact absurd unasked (demandOf_ne_none_of_active active)
      · obtain ⟨other, member, idles⟩ := inactive
        rcases List.mem_cons.mp member with rfl | later
        · simp [active] at idles
        · exact ⟨other, later, idles⟩

/-- Going through the same versions again leaves the job to the same user. -/
theorem firesFor_again {held : Job} (first : Evolves ctx id versions slot middle)
    (again : Evolves ctx id versions middle last) (idle : slot.Idle)
    (job : middle.job = some held) :
    last.FiresFor held.data.user := by
  by_cases active : ∀ version ∈ versions, version.isActive = true
  · exact again.firesFor_of_active active job
  · have fires : middle.FiresFor ctx.user := by
      apply first.firesFor_of_inactive idle
      simpa using active
    rw [fires held job]
    exact again.firesFor fires

end Evolves

end Slot

end Horarium
