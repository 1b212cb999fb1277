/-
Module: Horarium.Proofs.Listings
Purpose: Listings of the store in memory. A listing holds every stored record once, in an order that
  leaves no choice, so that it is the same in whatever order the rows are kept or came in. Pages cut
  it into pieces without gap or overlap, and every look-up by a property answers with the part of it
  that has the property, in the same order.
Trusted boundary: none
Main exports: MemoryStore.Listing, MemoryStore.Catalogued, MemoryStore.after_catalogued
-/
import Horarium.Proofs.KeyedTables
import Horarium.Proofs.RecordOrder

namespace Horarium

/-- Pieces of one length, one after the other, are what they were cut from. -/
theorem flatMap_pieces {α : Type} (all : List α) (size n : Nat) :
    ((List.range n).flatMap fun i => (all.drop (i * size)).take size) = all.take (n * size) := by
  induction n with
  | zero => simp
  | succ n ih => rw [List.range_succ, List.flatMap_append, ih, Nat.succ_mul, List.take_add,
      List.flatMap_singleton]

namespace TimerTable

variable {table rows : TimerTable} {p : StoredTimer → Bool}

/-! ### Order -/

theorem select_perm (table : TimerTable) (p : StoredTimer → Bool) :
    (select table p).Perm ((table.filter p).map (·.record)) :=
  List.mergeSort_perm _ _

/-- Two listings of the same records are the same, since no two records can change places. -/
theorem eq_of_ordered {first second : List TimerRecord} (perm : first.Perm second)
    (ordered : first.Pairwise fun a b => a.place < b.place)
    (other : second.Pairwise fun a b => a.place < b.place) :
    first = second :=
  perm.eq_of_pairwise (fun _ _ _ _ less more => absurd less (lt_asymm more)) ordered other

namespace WellFormed

variable (good : table.WellFormed)
include good

theorem of_perm (perm : rows.Perm table) : rows.WellFormed where
  own row member := good.own row (perm.mem_iff.mp member)
  ids := (perm.map _).nodup_iff.mpr good.ids
  naturalKeys row member other stored :=
    good.naturalKeys row (perm.mem_iff.mp member) other (perm.mem_iff.mp stored)

/-- Every record of a listing is in its place before all that follow. -/
theorem ordered_select (p : StoredTimer → Bool) :
    (select table p).Pairwise fun a b => a.place < b.place := by
  have le_iff (a b : TimerRecord) : (!before b a) = true ↔ a.place ≤ b.place := by
    rw [Bool.not_eq_true', ← Bool.not_eq_true, before_iff, not_lt]
  have sorted := List.pairwise_mergeSort (fun a b c first second =>
      (le_iff a c).mpr (((le_iff a b).mp first).trans ((le_iff b c).mp second)))
    (fun a b => Bool.or_eq_true_iff.mpr
      ((le_total a.place b.place).imp (le_iff a b).mpr (le_iff b a).mpr))
    ((table.filter p).map (·.record))
  have distinct := List.pairwise_map.mp (good.nodup_select p)
  refine (sorted.and distinct).imp fun both => ?_
  exact lt_of_le_of_ne ((le_iff _ _).mp both.1) fun same => both.2 (TimerRecord.id_of_place same)

/-- The order of the rows makes no difference to a listing. -/
theorem select_eq_of_perm (perm : rows.Perm table) (p : StoredTimer → Bool) :
    select rows p = select table p := by
  refine eq_of_ordered ?_ ((good.of_perm perm).ordered_select p) (good.ordered_select p)
  exact (select_perm rows p).trans (((perm.filter p).map _).trans (select_perm table p).symm)

/-- The records with a property are listed in the order of all. -/
theorem select_eq_filter {q : TimerRecord → Bool} (reads : ∀ row ∈ table, p row = q row.record) :
    select table p = (select table fun _ => true).filter q := by
  refine eq_of_ordered ?_ (good.ordered_select p) ((good.ordered_select _).filter q)
  have same : (table.filter p).map (·.record) = (table.map (·.record)).filter q := by
    rw [List.filter_map, List.filter_congr reads]
    rfl
  have all : (select table fun _ => true).Perm (table.map (·.record)) := by
    simpa using select_perm table fun _ => true
  exact (select_perm table p).trans (same ▸ (all.filter q).symm)

end WellFormed

/-! ### Insertion -/

/-- Rows that are in good order together with those of a table can be inserted one after the
other. -/
theorem WellFormed.insertAll_append (good : (table ++ rows).WellFormed) :
    table.insertAll rows = .ok (table ++ rows) := by
  induction rows generalizing table with
  | nil => rw [List.append_nil]; rfl
  | cons row rows ih =>
    have ids := good.ids
    rw [List.map_append, List.map_cons, List.nodup_append] at ids
    have apart : ∀ old ∈ table, old.id ≠ row.id := fun old member =>
      ids.2.2 old.id (List.mem_map_of_mem member) row.id (by simp)
    have unique : ∀ old ∈ table, old.naturalKey = row.naturalKey → old.id = row.id := by
      intro old member same
      exact congrArg _ (good.naturalKeys old (by simp [member]) row (by simp) same)
    have free : table.row? row.id = none := List.find?_eq_none.mpr (by simpa using apart)
    have put : table.put row = table ++ [row] := by simp [TimerTable.put, free]
    have first := insert_eq_ok_iff.mpr ⟨rfl, unique⟩
    rw [put] at first
    rw [List.append_cons] at good ⊢
    rw [TimerTable.insertAll, first]
    exact ih good

end TimerTable

/-- Records have their rows in any order that they come in. -/
theorem StoredTimer.ofRecords_of_perm {table : TimerTable} (good : table.WellFormed)
    {records : List TimerRecord} (perm : records.Perm (table.map (·.record))) :
    ∃ rows, ofRecords records = .ok rows ∧ rows.Perm table := by
  have own : ∀ record ∈ records, ∃ row, ofRecord record = .ok row := by
    intro record member
    obtain ⟨row, stored, rfl⟩ := List.mem_map.mp (perm.mem_iff.mp member)
    exact ⟨row, good.own row stored⟩
  obtain ⟨rows, given⟩ := exists_ofRecords own
  refine ⟨rows, given, ?_⟩
  have rowsOwn := own_of_forall₂ (forall₂_of_ofRecords given)
  have back {rows : List StoredTimer} (own : ∀ row ∈ rows, ofRecord row.record = .ok row) :
      (rows.map (·.record)).filterMap (fun record => (ofRecord record).toOption) = rows := by
    rw [List.filterMap_map, List.filterMap_congr (fun row member => ?_), List.filterMap_some]
    rw [Function.comp, own row member]
    rfl
  have carried := perm.filterMap fun record => (ofRecord record).toOption
  rw [back good.own, ← map_record_of_forall₂ (forall₂_of_ofRecords given),
    back fun row member => (rowsOwn row member).2] at carried
  exact carried

namespace MemoryStore

variable {store : MemoryStore} {tenant : String} {table : TimerTable}

/-! ### What is listed -/

/-- The answers about a tenant's timers, read off one list of them. -/
structure Listing (store : MemoryStore) (tenant : String) (all : List TimerRecord) : Prop where
  list : answer (.list tenant) store = (.ok all, store)
  pages : ∀ size, 1 ≤ size → ∃ page : Nat → Page,
    (∀ i, answer (.page tenant (i * size) size) store = (.ok (page i), store) ∧
      (page i).total = all.length) ∧
      ∀ n, all.length ≤ n * size → (List.range n).flatMap (fun i => (page i).items) = all
  findByModuleAndKind : ∀ name kind, answer (.findByModuleAndKind tenant name kind) store =
    (.ok (all.filter fun record => record.moduleName = some name ∧ record.kind = some kind), store)
  findByModuleAndEnabled :
    ∀ name enabled, answer (.findByModuleAndEnabled tenant name enabled) store =
    (.ok (all.filter fun record => record.moduleName = some name ∧ record.enabled = enabled), store)
  findByNaturalKey : ∀ key, answer (.findByNaturalKey tenant key) store =
    (.ok (all.find? fun record => record.naturalKey.toOption = some key), store)

/-- A table that answers by one list of its records, each once and in order. The answers are the
same in whatever order the rows are kept, and from a store where the records have been saved one by
one in whatever order. -/
structure Catalogued (store : MemoryStore) (tenant : String) (table : TimerTable)
    (all : List TimerRecord) : Prop
    extends store.Listing tenant all where
  once : all.Perm (table.map (·.record))
  ordered : all.Pairwise fun a b => a.place < b.place
  shuffled : ∀ {other : MemoryStore} {rows : TimerTable}, rows.Perm table →
    other.table? tenant = some rows → other.Listing tenant all
  inserted : ∀ {records : List TimerRecord}, records.Perm all →
    ∃ other, saveEach tenant records (MemoryStore.empty.provision tenant) = some other ∧
      other.Listing tenant all

theorem listing_of_wellFormed (good : table.WellFormed) (held : store.table? tenant = some table) :
    store.Listing tenant (table.select fun _ => true) where
  list := by simp [answer, read, held]
  pages size positive := by
    refine ⟨fun i => ⟨((table.select fun _ => true).drop (i * size)).take size,
      (table.select fun _ => true).length⟩,
      fun i => ⟨by simp [answer, read, held], rfl⟩, fun n enough => ?_⟩
    rw [flatMap_pieces, List.take_of_length_le enough]
  findByModuleAndKind name kind := by
    rw [← good.select_eq_filter fun row _ => rfl]
    simp [answer, read, held, Bool.beq_eq_decide_eq]
  findByModuleAndEnabled name enabled := by
    rw [← good.select_eq_filter fun row _ => rfl]
    simp [answer, read, held, Bool.beq_eq_decide_eq]
  findByNaturalKey key := by
    have reads : ∀ row ∈ table,
        (row.naturalKey == key) = decide (row.record.naturalKey.toOption = some key) := by
      intro row member
      rw [(StoredTimer.ofRecord_eq_ok_iff.mp (good.own row member)).2.1, Bool.beq_eq_decide_eq]
      simp [Except.toOption]
    rw [← List.head?_filter, ← good.select_eq_filter reads]
    simp [answer, read, held]

theorem listing_of_perm {rows : TimerTable} (good : table.WellFormed) (perm : rows.Perm table)
    (held : store.table? tenant = some rows) :
    store.Listing tenant (table.select fun _ => true) := by
  rw [← good.select_eq_of_perm perm]
  exact listing_of_wellFormed (good.of_perm perm) held

/-- Records with rows in good order can be saved one after the other from the start, in whatever
order they come. -/
theorem exists_saveEach (good : table.WellFormed) (tenant : String) {records : List TimerRecord}
    (perm : records.Perm (table.map (·.record))) : ∃ other rows, rows.Perm table ∧
      saveEach tenant records (MemoryStore.empty.provision tenant) = some other ∧
      other.table? tenant = some rows := by
  obtain ⟨rows, given, order⟩ := StoredTimer.ofRecords_of_perm good perm
  have tidy : (MemoryStore.empty.provision tenant).Tidy :=
    Tidy.empty.answers (answers .empty (.provision tenant))
  have held : (MemoryStore.empty.provision tenant).table? tenant = some [] := by
    rw [table?_provision, if_pos rfl]
    rfl
  have whole : TimerTable.WellFormed ([] ++ rows) := good.of_perm order
  have inserted : TimerTable.insertAll [] rows = .ok rows := whole.insertAll_append
  refine ⟨(MemoryStore.empty.provision tenant).setTable tenant rows, rows, order, ?_, ?_⟩
  · rw [tidy.saveEach_eq held, given, Except.bind, inserted]
    rfl
  · rw [table?_setTable, if_pos rfl, held]
    rfl

theorem Tidy.catalogued (tidy : store.Tidy) (held : store.table? tenant = some table) :
    store.Catalogued tenant table (table.select fun _ => true) where
  toListing := listing_of_wellFormed (tidy.wellFormed tenant table held) held
  once := by simpa using table.select_perm fun _ => true
  ordered := (tidy.wellFormed tenant table held).ordered_select _
  shuffled perm other := listing_of_perm (tidy.wellFormed tenant table held) perm other
  inserted perm := by
    have good := tidy.wellFormed tenant table held
    have once : (table.select fun _ => true).Perm (table.map (·.record)) := by
      simpa using table.select_perm fun _ => true
    obtain ⟨other, rows, order, saved, found⟩ := exists_saveEach good tenant (perm.trans once)
    exact ⟨other, saved, listing_of_perm good order found⟩

/-- Whatever the store has been asked for, each of its tables answers by one list. -/
theorem after_catalogued {requests : List StoreRequest}
    (held : (MemoryStore.empty.after requests).table? tenant = some table) :
    ∃ all, (MemoryStore.empty.after requests).Catalogued tenant table all :=
  ⟨_, (Tidy.empty.after requests).catalogued held⟩

/-- A record under an id, created so many seconds after the start of 1970. -/
def datedTimer (id seconds : Nat) : TimerRecord :=
  { pathTimer id s!"/{id}" with metadata := some ⟨some (.ofEpoch seconds 0), none, none, none⟩ }

/-- Four records, one without date and two of one date, saved against their order. -/
def unsortedSaves : List StoreRequest :=
  [.provision "north", .save "north" (datedTimer 3 60),
    .saveAll "north" [datedTimer 1 60, pathTimer 2 "/2"], .save "north" (datedTimer 4 30)]

theorem unsortedSaves_catalogued :
    let table : TimerTable := [⟨.ofBits 3, "USER#mod-a#POST#/3", datedTimer 3 60⟩,
      ⟨.ofBits 1, "USER#mod-a#POST#/1", datedTimer 1 60⟩,
      ⟨.ofBits 2, "USER#mod-a#POST#/2", pathTimer 2 "/2"⟩,
      ⟨.ofBits 4, "USER#mod-a#POST#/4", datedTimer 4 30⟩]
    (MemoryStore.empty.after unsortedSaves).table? "north" = some table ∧
      ∃ all, (MemoryStore.empty.after unsortedSaves).Catalogued "north" table all :=
  ⟨by decide +kernel, after_catalogued (by decide +kernel)⟩

/-- The record without date is listed first, and the two of one date by their identifiers. -/
example :
    (pathTimer 2 "/2").place < (datedTimer 4 30).place ∧
    (datedTimer 4 30).place < (datedTimer 1 60).place ∧
    (datedTimer 1 60).place < (datedTimer 3 60).place := by
  simp only [← TimerTable.before_iff]
  decide +kernel

end MemoryStore

end Horarium
