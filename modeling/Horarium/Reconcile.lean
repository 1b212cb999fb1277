/-
Module: Horarium.Reconcile
Purpose: Bringing an engine in line with records. The record is the intent; nothing is stored here,
  and every procedure moves the engine towards the record and no further.
Trusted boundary: human-reviewed definitions
Main exports: Reconcile.jobData, Reconcile.schedule, Reconcile.unschedule, Reconcile.replace,
  Reconcile.reschedule, Reconcile.rebuild
-/
import Horarium.Procedure
import Horarium.Context
import Horarium.Trigger

namespace Horarium.Reconcile

/-- The data of a record's job: it acts as the caller, or as the last writer where there is no
caller. -/
def jobData (ctx : Context) (record : TimerRecord) (id : Uuid) : JobData :=
  ⟨ctx.tenant, ctx.user.or record.lastWriter, id⟩

/-- Registers the job of an active record. Answers whether a job was registered: not for an inactive
record, and not where the engine holds a job under the id already. -/
def schedule (ctx : Context) (record : TimerRecord) : Procedure TriggerError Bool :=
  if !record.isActive then .done false
  else match record.id with
    | none => .fail .missingId
    | some id => match record.trigger with
      | .error e => .fail e
      | .ok trigger => do
        match ← Procedure.engine (.register id.toText trigger (jobData ctx record id)) with
        | .ok _ => .done true
        | .error (.alreadyExists _) => .done false
        | .error cause => .fail (.schedulingFailure id.toText cause)

/-- Drops the job of an active record; an inactive record has none. -/
def unschedule (record : TimerRecord) : Procedure TriggerError PUnit :=
  if !record.isActive then .done ⟨⟩
  else match record.jobKey? with
    | none => .fail .missingId
    | some key => do
      match ← Procedure.engine (.remove key) with
      | .ok _ => .done ⟨⟩
      | .error cause => .fail (.schedulingFailure key cause)

/-- Gives the job of an active record the record's trigger, or registers the job if there is
none. -/
def replace (ctx : Context) (record : TimerRecord) : Procedure TriggerError PUnit :=
  match record.jobKey? with
  | none => .fail .missingId
  | some key => match record.trigger with
    | .error e => .fail e
    | .ok trigger => do
      match ← Procedure.engine (.replace key trigger) with
      | .error cause => .fail (.schedulingFailure key cause)
      | .ok true => .done ⟨⟩
      | .ok false => do
        let _ ← schedule ctx record
        .done ⟨⟩

/-- Moves the engine from one version of a record to the next. Nothing is asked of the engine where
both are inactive, or both active with the same shape of trigger. -/
def reschedule (ctx : Context) (old new : TimerRecord) : Procedure TriggerError PUnit :=
  match old.isActive, new.isActive with
  | false, false => .done ⟨⟩
  | true, false => unschedule old
  | false, true => do
    let _ ← schedule ctx new
    .done ⟨⟩
  | true, true =>
    if TriggerShape.of old = TriggerShape.of new then .done ⟨⟩ else replace ctx new

/-- Registers the jobs of all active records and answers how many were registered. A record that
fails does not stop the others. -/
def rebuild {ε : Type} (ctx : Context) : List TimerRecord → Procedure ε Nat
  | [] => .done 0
  | record :: rest => do
    let outcome ← (schedule ctx record).attempt
    let others ← rebuild ctx rest
    match outcome with
    | .ok true => .done (others + 1)
    | _ => .done others

end Horarium.Reconcile
