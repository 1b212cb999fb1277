/-
Module: Horarium.Proofs.Exchanges
Purpose: What a procedure exchanges with its world while it is carried out. The store takes in the
  records that it answers to have saved, and nothing else: a record that is stored afterwards has
  been taken in meanwhile or was there before.
Trusted boundary: none
Main exports: World.exchanges, AnsweredRequest.saved, World.accounted, World.exchanges_bind
-/
import Horarium.Proofs.Commitment
import Horarium.Proofs.Interleaving

namespace Horarium

variable {σ ε δ α β : Type}

/-- What a procedure asks of the world and is answered, the first request first. -/
def World.exchanges [TimerStore σ] [SchedulingEngine ε] (world : World σ ε) :
    Procedure δ α → List AnsweredRequest
  | .done _ => []
  | .fail _ => []
  | .ask request next =>
    let (answer, after) := world.answer request
    ⟨request, answer⟩ :: after.exchanges (next answer)

namespace AnsweredRequest

/-- The records that the store has taken in for a tenant. -/
def saved (tenant : String) : AnsweredRequest → List TimerRecord
  | ⟨.store (.save owner record), .ok _⟩ => if owner = tenant then [record] else []
  | ⟨.store (.saveAll owner records), .ok _⟩ => if owner = tenant then records else []
  | _ => []

/-- What the clock has shown. -/
def reading? : AnsweredRequest → Option Instant
  | ⟨.now, instant⟩ => some instant
  | _ => none

end AnsweredRequest

/-! ### What one request leaves in the store -/

/-- A row is found as it was put in, or as it was before, whichever rows are put in one after the
other. -/
theorem TimerTable.row?_insertAll {rows : List StoredTimer} {table changed : TimerTable}
    (inserted : insertAll table rows = .ok changed) (id : Uuid) :
    (∃ row ∈ rows, row.id = id ∧ row? changed id = some row) ∨
      (∀ row ∈ rows, row.id ≠ id) ∧ row? changed id = row? table id := by
  induction rows generalizing table with
  | nil =>
    obtain rfl : table = changed := Except.ok.inj inserted
    exact .inr ⟨by simp, rfl⟩
  | cons row rows ih =>
    unfold insertAll at inserted
    cases first : insert table row with
    | error e => simp [first, bind, Except.bind] at inserted
    | ok middle =>
      simp only [first, bind, Except.bind] at inserted
      obtain ⟨rfl, _⟩ := insert_eq_ok_iff.mp first
      rcases ih inserted with ⟨later, member, named, found⟩ | ⟨apart, kept⟩
      · exact .inl ⟨later, List.mem_cons_of_mem row member, named, found⟩
      · rw [row?_put] at kept
        split at kept
        · rename_i named
          exact .inl ⟨row, List.mem_cons_self, named, kept⟩
        · rename_i unnamed
          exact .inr ⟨List.forall_mem_cons.mpr ⟨unnamed, apart⟩, kept⟩

namespace MemoryStore

variable {store : MemoryStore} {tenant owner : String} {id : Uuid}

/-- Saving is refused and changes nothing, or puts the rows of the records into the tenant's
table. -/
theorem answer_saveAll_cases (owner : String) (records : List TimerRecord) :
    (∃ e, answer (.saveAll owner records) store = (.error e, store)) ∨
      ∃ table rows changed, store.table? owner = some table ∧
        StoredTimer.ofRecords records = .ok rows ∧
        table.insertAll rows = .ok changed ∧
        answer (.saveAll owner records) store = (.ok records, store.setTable owner changed) := by
  cases converted : StoredTimer.ofRecords records with
  | error e => exact .inl ⟨e, by simp [answer, converted]⟩
  | ok rows =>
    cases held : store.table? owner with
    | none => exact .inl ⟨.tableMissing owner, by simp [answer, converted, write, held]⟩
    | some table =>
      cases inserted : table.insertAll rows with
      | error e => exact .inl ⟨e, by simp [answer, converted, write, held, inserted, Except.map]⟩
      | ok changed =>
        exact .inr ⟨table, rows, changed, rfl, rfl, inserted,
          by simp [answer, converted, write, held, inserted, Except.map]⟩

/-- Saving one record is like saving a list of one. -/
theorem answer_save_cases (owner : String) (record : TimerRecord) :
    (∃ e, answer (.save owner record) store = (.error e, store)) ∨
      ∃ table rows changed, store.table? owner = some table ∧
        StoredTimer.ofRecords [record] = .ok rows ∧
        table.insertAll rows = .ok changed ∧
        answer (.save owner record) store = (.ok record, store.setTable owner changed) := by
  cases converted : StoredTimer.ofRecord record with
  | error e => exact .inl ⟨e, by simp [answer, converted]⟩
  | ok row =>
    have rows : StoredTimer.ofRecords [record] = .ok [row] := by
      simp [StoredTimer.ofRecords, converted, bind, Except.bind, pure, Except.pure]
    cases held : store.table? owner with
    | none => exact .inl ⟨.tableMissing owner, by simp [answer, converted, write, held]⟩
    | some table =>
      cases inserted : table.insert row with
      | error e => exact .inl ⟨e, by simp [answer, converted, write, held, inserted, Except.map]⟩
      | ok changed =>
        have alone : table.insertAll [row] = .ok changed := by
          simp [TimerTable.insertAll, inserted, bind, Except.bind]
        exact .inr ⟨table, [row], changed, rfl, rows, alone,
          by simp [answer, converted, write, held, inserted, Except.map]⟩

/-- What is stored under an id is one of the records that have been taken in, or none of them has
this id and it was stored before. -/
def Accounted (tenant : String) (id : Uuid) (saved : List TimerRecord)
    (before after : MemoryStore) : Prop :=
  ∀ record, after.stored tenant id = some record →
    record ∈ saved ∧ record.id = some id ∨
      (∀ other ∈ saved, other.id ≠ some id) ∧ before.stored tenant id = some record

namespace Accounted

variable {saved later : List TimerRecord} {middle after : MemoryStore}

theorem of_kept
    (kept : ∀ record, after.stored tenant id = some record → store.stored tenant id = some record) :
    Accounted tenant id [] store after :=
  fun record held => .inr ⟨by simp, kept record held⟩

theorem of_reads {request : StoreRequest} (reads : request.Reads) (store : MemoryStore) :
    Accounted tenant id [] store (MemoryStore.answer request store).2 := by
  rw [answer_of_reads reads]
  exact of_kept fun _ found => found

theorem trans (first : Accounted tenant id saved store middle)
    (second : Accounted tenant id later middle after) :
    Accounted tenant id (saved ++ later) store after := by
  intro record held
  rcases second record held with ⟨member, named⟩ | ⟨apart, between⟩
  · exact .inl ⟨List.mem_append_right saved member, named⟩
  rcases first record between with ⟨member, named⟩ | ⟨apartBefore, before⟩
  · exact .inl ⟨List.mem_append_left later member, named⟩
  · exact .inr ⟨List.forall_mem_append.mpr ⟨apartBefore, apart⟩, before⟩

/-- Records that are put into a tenant's table are taken in for this tenant. -/
theorem insertAll {table changed : TimerTable} {records : List TimerRecord}
    {rows : List StoredTimer} (held : store.table? owner = some table)
    (converted : StoredTimer.ofRecords records = .ok rows)
    (inserted : table.insertAll rows = .ok changed) :
    Accounted tenant id (if owner = tenant then records else []) store
      (store.setTable owner changed) := by
  have pairs := StoredTimer.forall₂_of_ofRecords converted
  have own := StoredTimer.own_of_forall₂ pairs
  split
  · rename_i same
    subst same
    intro record
    rw [stored_setTable held, stored_of_table? held]
    rcases TimerTable.row?_insertAll inserted id with ⟨row, member, rfl, found⟩ | ⟨apart, kept⟩
    · rw [found]
      rintro ⟨⟩
      exact .inl ⟨(own row member).1, (StoredTimer.ofRecord_eq_ok_iff.mp (own row member).2).1⟩
    · rw [kept]
      refine fun before => .inr ⟨fun other member named => ?_, before⟩
      rw [← StoredTimer.map_record_of_forall₂ pairs] at member
      obtain ⟨row, rowMember, rfl⟩ := List.mem_map.mp member
      have rowNamed := (StoredTimer.ofRecord_eq_ok_iff.mp (own row rowMember).2).1
      exact apart row rowMember (Option.some.inj (rowNamed.symm.trans named))
  · rename_i apart
    refine of_kept fun record found => ?_
    rw [MemoryStore.stored, table?_setTable, if_neg apart] at found
    exact found

/-- Whatever the store is asked, it takes in what it answers to have saved. -/
theorem answer (request : StoreRequest) (store : MemoryStore) :
    Accounted tenant id
      (AnsweredRequest.saved tenant ⟨.store request, (MemoryStore.answer request store).1⟩) store
      (MemoryStore.answer request store).2 := by
  cases request with
  | save owner record =>
    rcases answer_save_cases owner record with
      ⟨e, refused⟩ | ⟨table, rows, changed, held, converted, inserted, saved⟩
    · rw [refused]
      exact of_kept fun _ found => found
    · rw [saved]
      exact insertAll held converted inserted
  | saveAll owner records =>
    rcases answer_saveAll_cases owner records with
      ⟨e, refused⟩ | ⟨table, rows, changed, held, converted, inserted, saved⟩
    · rw [refused]
      exact of_kept fun _ found => found
    · rw [saved]
      exact insertAll held converted inserted
  | delete owner other =>
    rcases answer_delete store owner other with ⟨_, refused⟩ | ⟨changed, deleted, sets⟩
    · rw [refused]
      exact of_kept fun _ found => found
    · rw [deleted]
      refine of_kept fun record found => ?_
      by_cases same : tenant = owner
      · subst same
        rw [sets.stored] at found
        split at found
        · simp at found
        · exact found
      · rw [sets.stored_elsewhere same] at found
        exact found
  | provision owner =>
    refine of_kept fun record found => ?_
    rw [← stored_provision store owner tenant id]
    exact found
  | _ => exact of_reads (by trivial) store

end Accounted

end MemoryStore

/-! ### What a run leaves in the store -/

namespace World

/-- What is stored after a procedure has been taken in meanwhile, or was there before, by induction
on its requests. -/
theorem accounted [SchedulingEngine ε] (world : World MemoryStore ε) (p : Procedure δ α)
    (tenant : String) (id : Uuid) :
    MemoryStore.Accounted tenant id ((world.exchanges p).flatMap (·.saved tenant)) world.store
      (world.run p).2.store := by
  induction p generalizing world with
  | done a => exact .of_kept fun _ held => held
  | fail e => exact .of_kept fun _ held => held
  | ask request next ih =>
    have here : MemoryStore.Accounted tenant id
        (AnsweredRequest.saved tenant ⟨request, (world.answer request).1⟩)
        world.store (world.answer request).2.store := by
      cases request with
      | store request => exact .answer request world.store
      | engine request => exact .of_kept fun _ held => held
      | now => exact .of_kept fun _ held => held
      | newId => exact .of_kept fun _ held => held
    exact here.trans (ih (world.answer request).1 (world.answer request).2)

variable [TimerStore σ] [SchedulingEngine ε]

/-- Every exchange is one of the requests that the procedure makes. -/
theorem allowed_of_mem_exchanges {allowed : Request → Prop} {p : Procedure δ α}
    (only : p.Asks allowed) (world : World σ ε) {exchange : AnsweredRequest}
    (member : exchange ∈ world.exchanges p) :
    allowed exchange.request := by
  induction only generalizing world with
  | done a => simp [exchanges] at member
  | fail e => simp [exchanges] at member
  | ask here _ ih =>
    rcases List.mem_cons.mp member with rfl | later
    · exact here
    · exact ih _ _ later

/-- What comes after a procedure is exchanged after it, if it comes to that. -/
theorem exchanges_bind (world : World σ ε) (p : Procedure δ α) (f : α → Procedure δ β) :
    world.exchanges (p >>= f) = world.exchanges p ++
      match world.run p with
      | (.ok a, after) => after.exchanges (f a)
      | (.error _, _) => [] := by
  induction p generalizing world with
  | done a => rfl
  | fail e => rfl
  | ask request next ih => exact congrArg (List.cons _) (ih _ _)

/-- A value that is made of the result is not asked for. -/
theorem exchanges_bind_done (world : World σ ε) (p : Procedure δ α) (f : α → β) :
    world.exchanges (p >>= fun a => .done (f a)) = world.exchanges p := by
  have nothing : ∀ ended : Except δ α × World σ ε,
      (match ended with
        | (.ok a, after) => after.exchanges (.done (f a) : Procedure δ β)
        | (.error _, _) => []) = [] := by
    rintro ⟨_ | _, _⟩ <;> rfl
  rw [exchanges_bind, nothing, List.append_nil]

/-- Only a reading of the clock changes what it shows next. -/
theorem nextInstant_answer (world : World σ ε) {request : Request} (other : request ≠ .now) :
    (world.answer request).2.nextInstant = world.nextInstant := by
  cases request with
  | store request => rfl
  | engine request => rfl
  | now => exact absurd rfl other
  | newId => rfl

end World

end Horarium
