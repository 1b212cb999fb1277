/-
Module: Horarium.Proofs.AuditTrail
Purpose: Who created a record, who wrote it last, and when. The registry alone decides on it:
  whatever metadata clients send, a stored record names the user of the creation that inserted it
  and of the latest change that wrote it, each with the reading of the clock that was taken for it.
  What clients send as metadata has no effect at all.
Trusted boundary: none
Main exports: InsertedBy, LastWrittenBy, audit_metadata_decided_by_server
-/
import Horarium.Proofs.FailureAtomicity
import Horarium.Proofs.JobUsers
import Horarium.Proofs.SignedWrites

namespace Horarium

/-! ### Calls one after the other -/

/-- A change that a client asks for, and for whom. -/
structure ClientCall where
  ctx : Context
  change : Change

/-- What a client is answered. -/
inductive Reply where
  | timer (record : TimerRecord)
  | deleted
  | switched (count : Nat)

/-- The answer that a change gives. -/
def Change.reply : (change : Change) → change.Result → Reply
  | create _, record => .timer record
  | update _ _, record => .timer record
  | delete _, _ => .deleted
  | switchModule _ _, count => .switched count

namespace World

variable {σ ε : Type} [TimerStore σ] [SchedulingEngine ε]

/-- One call: what the client is answered, and the world after it. -/
def serve (world : World σ ε) (call : ClientCall) : Except RegistryError Reply × World σ ε :=
  let (outcome, after) := world.run (call.change.operation call.ctx)
  (outcome.map call.change.reply, after)

/-- Calls one after the other. -/
def serveAll (world : World σ ε) : List ClientCall → List (Except RegistryError Reply) × World σ ε
  | [] => ([], world)
  | call :: calls =>
    let (reply, after) := world.serve call
    let (replies, last) := after.serveAll calls
    (reply :: replies, last)

/-- The world after calls. -/
def after (world : World σ ε) (calls : List ClientCall) : World σ ε := (world.serveAll calls).2

theorem after_concat (world : World σ ε) (calls : List ClientCall) (call : ClientCall) :
    world.after (calls ++ [call]) =
      ((world.after calls).run (call.change.operation call.ctx)).2 := by
  induction calls generalizing world with
  | nil => rfl
  | cons first calls ih => exact ih (world.serve first).2

end World

namespace ClientCall

variable {σ ε : Type} [TimerStore σ] [SchedulingEngine ε]

/-- What the call exchanges with the world in which it is made. -/
def exchanges (call : ClientCall) (world : World σ ε) : List AnsweredRequest :=
  world.exchanges (call.change.operation call.ctx)

/-- The call reads the clock once, and this is what it reads. -/
def Reads (call : ClientCall) (world : World σ ε) (now : Instant) : Prop :=
  (call.exchanges world).filterMap (·.reading?) = [now]

/-- The store takes in a record under the id during the call. -/
def Writes (call : ClientCall) (world : World σ ε) (tenant : String) (id : Uuid) : Prop :=
  ∃ record ∈ (call.exchanges world).flatMap (·.saved tenant), record.id = some id

end ClientCall

/-! ### What clients send as metadata -/

/-- The change without the metadata that the client sends. -/
def Change.blank : Change → Change
  | create input => .create { input with metadata := none }
  | update id input => .update id { input with metadata := none }
  | delete id => .delete id
  | switchModule moduleName enable => .switchModule moduleName enable

/-- The call without the metadata that the client sends. -/
def ClientCall.blank (call : ClientCall) : ClientCall := { call with change := call.change.blank }

namespace TimerRecord

theorem resolveModuleName_metadata (record : TimerRecord) (metadata : Option AuditMetadata) :
    ({ record with metadata } : TimerRecord).resolveModuleName =
      record.resolveModuleName.map ({ · with metadata }) := by
  unfold resolveModuleName
  dsimp only
  split
  · split
    · rfl
    · cases ModuleName.ofId _ with
      | error e => rfl
      | ok name => rfl
  · rfl

/-- The checks neither look at the metadata of a record nor change it. -/
theorem prepare_metadata (record : TimerRecord) (metadata : Option AuditMetadata) :
    ({ record with metadata } : TimerRecord).prepare =
      record.prepare.map ({ · with metadata }) := by
  unfold prepare
  rw [resolveModuleName_metadata]
  dsimp only
  cases record.kind with
  | none => rfl
  | some kind =>
    cases record.routingEntry with
    | none => rfl
    | some entry =>
      cases record.resolveModuleName with
      | error e =>
        dsimp only [Except.map]
        cases entry.validate <;> rfl
      | ok named =>
        have lacks : lacksModule { named with metadata } = named.lacksModule := rfl
        dsimp only [Except.map]
        rw [lacks]
        cases entry.validate <;> cases named.lacksModule <;> cases entry.hasZeroInterval <;>
          cases entry.trigger <;> rfl

end TimerRecord

namespace Registry

variable {ctx : Context}

theorem create_metadata (input : TimerRecord) (metadata : Option AuditMetadata) :
    create ctx { input with metadata } = create ctx input := by
  unfold create
  rw [TimerRecord.prepare_metadata]
  cases input.prepare with
  | error e => rfl
  | ok record => rfl

theorem update_metadata (id : Uuid) (input : TimerRecord) (metadata : Option AuditMetadata) :
    update ctx id { input with metadata } = update ctx id input := by
  unfold update
  rw [TimerRecord.prepare_metadata]
  cases input.prepare with
  | error e => rfl
  | ok record => rfl

end Registry

section Blank

variable {σ ε : Type} [TimerStore σ] [SchedulingEngine ε]

theorem World.serve_blank (world : World σ ε) (call : ClientCall) :
    world.serve call.blank = world.serve call := by
  obtain ⟨ctx, change⟩ := call
  have same {p q : Registry.Operation TimerRecord} (equal : p = q) :
      ((world.run p).1.map Reply.timer, (world.run p).2) =
        ((world.run q).1.map Reply.timer, (world.run q).2) := by
    rw [equal]
  cases change with
  | create input => exact same (Registry.create_metadata input none)
  | update id input => exact same (Registry.update_metadata id input none)
  | delete id => rfl
  | switchModule moduleName enable => rfl

/-- Calls that differ in nothing but metadata are answered alike and leave the same world. -/
theorem World.serveAll_blank (world : World σ ε) (calls : List ClientCall) :
    world.serveAll (calls.map .blank) = world.serveAll calls := by
  induction calls generalizing world with
  | nil => rfl
  | cons call calls ih =>
    simp only [List.map_cons, World.serveAll, world.serve_blank, ih]

end Blank

/-! ### Where a stored record comes from -/

/-- The record names this user and this instant for its creation. -/
def TimerRecord.CreatedBy (record : TimerRecord) (user : Option Uuid) (now : Instant) : Prop :=
  ∃ metadata, record.metadata = some metadata ∧ metadata.createdDate = some now ∧
    metadata.createdBy = user

section Step

variable {ε : Type} {world committed after : World MemoryStore ε} {ctx : Context} {tenant : String}
  {id : Uuid}
  {record new : TimerRecord}

/-- Under the id of a creation nothing is stored, unless the id was generated and happens to be in
use. -/
def Insertable (world : World MemoryStore ε) (tenant : String) (id : Uuid) (input : TimerRecord) :
    Prop :=
  world.store.stored tenant id = none ∨ input.id = none ∧ id = world.nextId

/-- What a change leaves under an id continues the record that was there, or has been inserted by a
creation. -/
inductive Continues (change : Change) (ctx : Context) (world : World MemoryStore ε)
    (tenant : String) (id : Uuid) (new : TimerRecord) : Prop where
  | kept (old : TimerRecord) (held : world.store.stored tenant id = some old)
      (inherits : ∀ user now, old.CreatedBy user now → new.CreatedBy user now)
  | inserted (input : TimerRecord) (creates : change = .create input)
      (free : Insertable world tenant id input)
      (created : new.CreatedBy ctx.user world.nextInstant)
      (changed : world.store.stored tenant id ≠ some new)

theorem Continues.of_stored {change : Change} (held : world.store.stored tenant id = some new) :
    Continues change ctx world tenant id new :=
  .kept new held fun _ _ created => created

/-- The stamp of a later version keeps what the version before says about the creation. -/
theorem TimerRecord.CreatedBy.of_stamp {old : TimerRecord} {user : Option Uuid}
    {created now : Instant} (before : old.CreatedBy user created)
    (stamped : new.metadata = some (.stamp ctx now (some old))) :
    new.CreatedBy user created := by
  obtain ⟨metadata, given, date, creator⟩ := before
  refine ⟨_, stamped, ?_, ?_⟩
  · rw [AuditMetadata.stamp, given]
    exact date
  · rw [AuditMetadata.stamp, given]
    exact creator

/-- Where a change sets what is stored under one id, nothing changes elsewhere. -/
theorem Continues.of_sets {change : Change} {own : Uuid} {set : Option TimerRecord}
    {store : MemoryStore} (sets : MemoryStore.Sets ctx.tenant own set world.store store)
    (here : ∀ saved, set = some saved → Continues change ctx world ctx.tenant own saved)
    (stored : store.stored tenant id = some new) : Continues change ctx world tenant id new := by
  by_cases same : tenant = ctx.tenant
  · subst same
    rw [sets.stored] at stored
    split at stored
    · rename_i own
      subst own
      exact here new stored
    · exact .of_stored stored
  · rw [sets.stored_elsewhere same] at stored
    exact .of_stored stored

/-- A version that is stored after another one continues it. -/
theorem Continues.of_commits {change : Change} {own : Uuid} {before : Option TimerRecord}
    {saved : TimerRecord} (commits : Commits ctx record own before saved world committed)
    (inserts : before = none → Continues change ctx world ctx.tenant own saved)
    (stored : committed.store.stored tenant id = some new) :
    Continues change ctx world tenant id new := by
  refine .of_sets commits.sets ?_ stored
  rintro _ ⟨⟩
  cases before with
  | none => exact inserts rfl
  | some old =>
    refine .kept old (commits.known old rfl) fun user now created => ?_
    exact created.of_stamp (congrArg TimerRecord.metadata commits.version)

variable [SchedulingEngine ε] {P : World MemoryStore ε → Request → Prop}

/-- What only asks the engine leaves the store as it is. -/
theorem World.Runs.store_eq {δ α : Type} {p : Procedure δ α} {outcome : Except δ α}
    (runs : World.Runs P world p outcome after) (only : p.Asks Request.IsEngine) :
    after.store = world.store := by
  have kept := (world.run_of_asks_engine only).1
  rw [runs.run_eq] at kept
  exact kept

namespace Registry

theorem create_continues {input : TimerRecord} {outcome : Except RegistryError TimerRecord}
    (good : world.store.WellFormed) (runs : World.Runs P world (create ctx input) outcome after)
    (stored : after.store.stored tenant id = some new) :
    Continues (.create input) ctx world tenant id new := by
  rcases create_commits good runs with
    ⟨declined, _⟩ | ⟨record, own, before, saved, committed, _, chosen, commits, following⟩
  · rw [declined.store] at stored
    exact .of_stored stored
  · rw [following.store_eq
      (((Reconcile.follow_asks ctx before saved).mapError _).bind fun _ => .done _)] at stored
    refine .of_commits commits (fun first => ?_) stored
    have created : saved.CreatedBy ctx.user world.nextInstant := by
      rw [commits.version, first]
      exact ⟨_, rfl, rfl, rfl⟩
    cases chosen with
    | known old held namesake => simp at first
    | given named free unique => exact .inserted input rfl (.inl free) created (by simp [free])
    | generated unnamed next met unique =>
      exact .inserted input rfl (.inr ⟨unnamed, next⟩) created fun held => unique own saved held rfl

theorem update_continues {own : Uuid} {input : TimerRecord}
    {outcome : Except RegistryError TimerRecord} (good : world.store.WellFormed)
    (runs : World.Runs P world (update ctx own input) outcome after)
    (stored : after.store.stored tenant id = some new) :
    Continues (.update own input) ctx world tenant id new := by
  rcases update_commits good runs with
    declined | ⟨record, old, saved, committed, _, commits, following⟩
  · rw [declined.store] at stored
    exact .of_stored stored
  · rw [following.store_eq
      (((Reconcile.follow_asks ctx (some old) saved).mapError _).bind fun _ => .done _)] at stored
    exact .of_commits commits (by simp) stored

theorem delete_continues {own : Uuid} {outcome : Except RegistryError PUnit}
    (runs : World.Runs P world (delete ctx own) outcome after)
    (stored : after.store.stored tenant id = some new) :
    Continues (.delete own) ctx world tenant id new := by
  rcases delete_commits runs with ⟨_, _, rfl⟩ | ⟨_, _, rfl⟩ | ⟨existing, changed, _, sets, dropping⟩
  · exact .of_stored stored
  · exact .of_stored stored
  · rw [dropping.store_eq ((Reconcile.unschedule_asks existing).mapError _)] at stored
    exact .of_sets sets (by simp) stored

theorem switchModule_continues {moduleName : String} {enable : Bool}
    {outcome : Except RegistryError Nat} (good : world.store.WellFormed)
    (runs : World.Runs P world (switchModule ctx moduleName enable) outcome after)
    (stored : after.store.stored tenant id = some new) :
    Continues (.switchModule moduleName enable) ctx world tenant id new := by
  rcases switchModule_commits good runs with
    ⟨_, _, rfl⟩ | ⟨records, lists, ⟨_, _, rfl⟩ | ⟨_, changed, replaces, following⟩⟩
  · exact .of_stored stored
  · exact .of_stored stored
  have only : (if enable then
      scheduleEach ctx (records.map (flip ctx world.nextInstant enable)) >>=
        fun _ => .done records.length
      else unscheduleEach records >>= fun _ => .done records.length).Asks Request.IsEngine := by
    split
    · exact (scheduleEach_asks _).bind fun _ => .done _
    · exact (unscheduleEach_asks _).bind fun _ => .done _
  rw [following.store_eq only] at stored
  by_cases same : tenant = ctx.tenant
  · subst same
    by_cases touched : ∃ old ∈ records, old.id = some id
    · obtain ⟨old, member, named⟩ := touched
      obtain rfl : flip ctx world.nextInstant enable old = new :=
        Option.some.inj ((replaces.replaced old member id named).symm.trans stored)
      obtain ⟨own, ownNamed, held, _⟩ := lists.stored_of_mem good member
      obtain rfl : own = id := Option.some.inj (ownNamed.symm.trans named)
      exact .kept old held fun user created before => before.of_stamp rfl
    · rw [replaces.kept id fun old member named => touched ⟨old, member, named⟩] at stored
      exact .of_stored stored
  · rw [replaces.within.stored_elsewhere same] at stored
    exact .of_stored stored

end Registry

/-- What any change leaves under an id. -/
theorem Change.continues (change : Change) (good : world.store.WellFormed)
    (stored : (world.run (change.operation ctx)).2.store.stored tenant id = some new) :
    Continues change ctx world tenant id new := by
  have runs := world.runs (change.operation ctx)
  cases change with
  | create input => exact Registry.create_continues good runs stored
  | update own input => exact Registry.update_continues good runs stored
  | delete own => exact Registry.delete_continues runs stored
  | switchModule moduleName enable => exact Registry.switchModule_continues good runs stored

end Step

/-! ### Whole sequences of calls -/

/-- No tenant has a timer. -/
def MemoryStore.Vacant (store : MemoryStore) : Prop :=
  ∀ tenant table, store.table? tenant = some table → table = []

section Sequence

variable {ε : Type}

theorem MemoryStore.Vacant.not_stored {store : MemoryStore} (vacant : store.Vacant)
    {tenant : String} {id : Uuid} {record : TimerRecord} :
    store.stored tenant id ≠ some record := by
  intro held
  obtain ⟨table, row, found, kept, _⟩ := MemoryStore.exists_row_of_stored held
  rw [vacant tenant table found] at kept
  simp [TimerTable.row?] at kept

theorem MemoryStore.Vacant.orderly {store : MemoryStore} (vacant : store.Vacant)
    (sources : Sources) :
    store.Orderly sources where
  wellFormed tenant table held := by
    rw [vacant tenant table held]
    exact TimerTable.wellFormed_nil
  records held := absurd held vacant.not_stored

theorem Change.served (ctx : Context) (change : Change) : Served (change.operation ctx) := by
  cases change with
  | create input => exact .create ctx input
  | update id input => exact .update ctx id input
  | delete id => exact .delete ctx id
  | switchModule moduleName enable => exact .switchModule ctx moduleName enable

variable [SchedulingEngine ε] {start : World MemoryStore ε} {tenant : String} {id : Uuid}
  {record : TimerRecord}

/-- The store stays in order, whatever calls are made. -/
theorem World.after_orderly (orderly : start.store.Orderly start.sources)
    (calls : List ClientCall) :
    (start.after calls).store.Orderly (start.after calls).sources := by
  induction calls generalizing start with
  | nil => exact orderly
  | cons call calls ih => exact ih ((call.change.served call.ctx).keeps.kept start orderly)

/-- Among the calls, this creation has inserted the record that is stored under the id now: the
store took it in, and since then there has always been a record under the id that names its user and
the one reading of the clock that it took for its creation. -/
structure InsertedBy (start : World MemoryStore ε) (calls : List ClientCall) (tenant : String)
    (id : Uuid) (earlier : List ClientCall) (call : ClientCall) : Prop where
  placed : earlier ++ [call] <+: calls
  own : call.ctx.tenant = tenant
  creates : ∃ input, call.change = .create input ∧ Insertable (start.after earlier) tenant id input
  writes : call.Writes (start.after earlier) tenant id
  dated : ∃ now, call.Reads (start.after earlier) now ∧
    ∀ stage, earlier ++ [call] <+: stage → stage <+: calls →
      ∃ version, (start.after stage).store.stored tenant id = some version ∧
        version.CreatedBy call.ctx.user now

/-- Among the calls, this one was the last that wrote the record under the id: the store took it in,
no later call made the store take in another one, and the record names the user of the call and the
one reading of the clock that it took for its last change. -/
structure LastWrittenBy (start : World MemoryStore ε) (calls : List ClientCall) (tenant : String)
    (id : Uuid) (record : TimerRecord) (earlier : List ClientCall) (call : ClientCall) : Prop where
  placed : earlier ++ [call] <+: calls
  own : call.ctx.tenant = tenant
  writes : call.Writes (start.after earlier) tenant id
  last : ∀ stage next, earlier ++ [call] <+: stage → stage ++ [next] <+: calls →
    ¬ next.Writes (start.after stage) tenant id
  dated : ∃ now, call.Reads (start.after earlier) now ∧ record.WrittenBy call.ctx.user now

theorem Change.signs (ctx : Context) (change : Change) : (change.operation ctx).Signs ctx := by
  cases change with
  | create input => exact Registry.create_signs input
  | update id input => exact Registry.update_signs id input
  | delete id => exact Registry.delete_signs id
  | switchModule moduleName enable => exact Registry.switchModule_signs moduleName enable

/-- A record that is stored after a call has been taken in and signed by the call, or was there
before. -/
theorem ClientCall.writes_or_keeps (call : ClientCall) (world : World MemoryStore ε)
    (stored : (world.run (call.change.operation call.ctx)).2.store.stored tenant id = some record) :
    (call.ctx.tenant = tenant ∧ call.Writes world tenant id ∧ call.Reads world world.nextInstant ∧
        record.WrittenBy call.ctx.user world.nextInstant) ∨
      ¬ call.Writes world tenant id ∧ world.store.stored tenant id = some record := by
  rcases world.accounted (call.change.operation call.ctx) tenant id record stored with
    ⟨saved, named⟩ | ⟨none, before⟩
  · left
    obtain ⟨exchange, member, taken⟩ := List.mem_flatMap.mp saved
    obtain ⟨own, readings, written⟩ := (call.change.signs call.ctx).signed world member taken
    exact ⟨own.symm, ⟨record, saved, named⟩, readings, written⟩
  · right
    refine ⟨?_, before⟩
    rintro ⟨other, saved, named⟩
    exact none other saved named

/-- A stored record names the call that wrote it last, by induction on the calls: the newest call
wrote the record or left it as it was. -/
theorem exists_lastWrittenBy (vacant : start.store.Vacant) (calls : List ClientCall)
    (stored : (start.after calls).store.stored tenant id = some record) :
    ∃ earlier call, LastWrittenBy start calls tenant id record earlier call := by
  induction calls using List.reverseRecOn with
  | nil => exact absurd stored vacant.not_stored
  | append_singleton calls call ih =>
    rw [World.after_concat] at stored
    rcases call.writes_or_keeps (start.after calls) stored with
      ⟨own, writes, reads, written⟩ | ⟨idle, before⟩
    · refine ⟨calls, call, List.prefix_rfl, own, writes, fun stage next reached within => ?_, _,
        reads, written⟩
      have longer := Nat.le_trans within.length_le reached.length_le
      exact absurd longer (by simp)
    · obtain ⟨earlier, writer, placed, own, writes, last, dated⟩ := ih before
      refine ⟨earlier, writer, placed.trans (List.prefix_append calls [call]), own,
        writes, ?_, dated⟩
      intro stage next reached within
      rcases List.prefix_concat_iff.mp within with whole | shorter
      · obtain ⟨rfl, newest⟩ := List.append_inj' whole rfl
        obtain rfl := List.singleton_inj.mp newest
        exact idle
      · exact last stage next reached shorter

/-- A stored record names the creation that inserted it, by induction on the calls: the newest call
inserted the record or continued it. -/
theorem exists_insertedBy (vacant : start.store.Vacant) (calls : List ClientCall)
    (stored : (start.after calls).store.stored tenant id = some record) :
    ∃ earlier call, InsertedBy start calls tenant id earlier call := by
  induction calls using List.reverseRecOn generalizing record with
  | nil => exact absurd stored vacant.not_stored
  | append_singleton calls call ih =>
    have reached := stored
    rw [World.after_concat] at stored
    have good := (start.after_orderly (vacant.orderly _) calls).wellFormed
    cases call.change.continues good stored with
    | kept old held inherits =>
      obtain ⟨earlier, creation, placed, own, creates, writes, now, reads, since⟩ := ih held
      refine ⟨earlier, creation, placed.trans (List.prefix_append calls [call]), own, creates,
        writes, now, reads, ?_⟩
      intro stage later within
      rcases List.prefix_concat_iff.mp within with rfl | shorter
      · obtain ⟨version, same, created⟩ := since calls placed List.prefix_rfl
        obtain rfl := Option.some.inj (same.symm.trans held)
        exact ⟨record, reached, inherits _ _ created⟩
      · exact since stage later shorter
    | inserted input creates free created changed =>
      rcases call.writes_or_keeps (start.after calls) stored with
        ⟨own, writes, reads, _⟩ | ⟨_, before⟩
      · refine ⟨calls, call, List.prefix_rfl, own, ⟨input, creates, free⟩, writes, _, reads, ?_⟩
        intro stage later within
        obtain rfl := later.eq_of_length_le within.length_le
        exact ⟨record, reached, created⟩
      · exact absurd before changed

/-- Whatever metadata clients send: every stored record names for its creation the user of the
creation that inserted it, and for its last change the user of the latest call that wrote it, each
with the reading of the clock that this call took. Calls that differ in nothing but metadata are
answered alike and leave the same tables and the same engine. -/
theorem audit_metadata_decided_by_server (calls : List ClientCall) :
    (∀ start : World MemoryStore ε, start.store.Vacant → ∀ tenant id record,
      (start.after calls).store.stored tenant id = some record →
        (∃ earlier call, InsertedBy start calls tenant id earlier call) ∧
          ∃ earlier call, LastWrittenBy start calls tenant id record earlier call) ∧
      ∀ {σ : Type} [TimerStore σ] (world : World σ ε) (others : List ClientCall),
        others.map ClientCall.blank = calls.map ClientCall.blank →
          world.serveAll others = world.serveAll calls := by
  constructor
  · intro start vacant tenant id record stored
    exact ⟨exists_insertedBy vacant calls stored, exists_lastWrittenBy vacant calls stored⟩
  · intro σ _ world others same
    rw [← world.serveAll_blank others, same, world.serveAll_blank calls]

end Sequence

/-! ### Clients that send metadata of their own -/

/-- What a client sends who pretends that the timer is another user's and from another year. -/
def forged : Option AuditMetadata :=
  let longAgo := Instant.parse? "2000-01-01T00:00:00Z"
  some ⟨longAgo, some successor, longAgo, some successor⟩

/-- One user creates a timer, and another one updates it; both send forged metadata. -/
def forgedCalls : List ClientCall :=
  [⟨⟨"north", some founder, none⟩, .create { TimerRecord.minutely with metadata := forged }⟩,
    ⟨⟨"north", some successor, none⟩, .update (.ofBits 1) { slower with metadata := forged }⟩]

theorem forgedCalls_audited : founded.store.Vacant ∧
    (∃ record, (founded.after forgedCalls).store.stored "north" (.ofBits 1) = some record ∧
      (∃ earlier call, InsertedBy founded forgedCalls "north" (.ofBits 1) earlier call) ∧
      ∃ earlier call, LastWrittenBy founded forgedCalls "north" (.ofBits 1) record earlier call) ∧
    founded.serveAll (forgedCalls.map .blank) = founded.serveAll forgedCalls := by
  have vacant : founded.store.Vacant := by
    have provisioned : founded.store.tables = [("north", [])] := by decide +kernel
    intro tenant table held
    have member := MemoryStore.mem_tables_of_table? held
    rw [provisioned, List.mem_singleton] at member
    exact (Prod.mk.inj member).2
  have present : ((founded.after forgedCalls).store.stored "north" (.ofBits 1)).isSome = true := by
    decide +kernel
  obtain ⟨record, stored⟩ := Option.isSome_iff_exists.mp present
  have blank : (forgedCalls.map .blank).map ClientCall.blank = forgedCalls.map ClientCall.blank :=
    rfl
  obtain ⟨inserted, written⟩ :=
    (audit_metadata_decided_by_server forgedCalls).1 founded vacant "north" (.ofBits 1)
    record stored
  exact ⟨vacant, ⟨record, stored, inserted, written⟩,
    (audit_metadata_decided_by_server forgedCalls).2 founded (forgedCalls.map .blank) blank⟩

end Horarium
