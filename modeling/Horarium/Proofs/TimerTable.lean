/-
Module: Horarium.Proofs.TimerTable
Purpose: Tables of timers in good order: every row is kept under the keys of its record, and no two
  rows share an id or a natural key.
Trusted boundary: none
Main exports: TimerTable.WellFormed, TimerTable.insert_eq_ok_iff, TimerTable.row?_put,
  StoredTimer.ofRecord_eq_ok_iff
-/
import Horarium.Store.Memory
import Mathlib.Data.List.Nodup

namespace Horarium

theorem StoredTimer.ofRecord_eq_ok_iff {record : TimerRecord} {row : StoredTimer} :
    ofRecord record = .ok row ↔
      record.id = some row.id ∧ record.naturalKey = .ok row.naturalKey ∧ row.record = record := by
  obtain ⟨id, key, kept⟩ := row
  unfold ofRecord
  cases record.id with
  | none => simp
  | some given =>
    cases record.naturalKey with
    | error cause => simp
    | ok naturalKey =>
      simp only [Except.ok.injEq, StoredTimer.mk.injEq, Option.some.injEq]
      constructor
      · rintro ⟨rfl, rfl, rfl⟩
        exact ⟨rfl, rfl, rfl⟩
      · rintro ⟨rfl, rfl, rfl⟩
        exact ⟨rfl, rfl, rfl⟩

namespace TimerTable

/-- Every row is kept under the keys of its record, and no two rows share a key. -/
structure WellFormed (table : TimerTable) : Prop where
  own : ∀ row ∈ table, StoredTimer.ofRecord row.record = .ok row
  ids : (table.map (·.id)).Nodup
  naturalKeys : ∀ row ∈ table, ∀ other ∈ table, row.naturalKey = other.naturalKey → row = other

variable {table : TimerTable} {row : StoredTimer} {id : Uuid}

theorem wellFormed_nil : WellFormed [] := ⟨by simp, by simp, by simp⟩

theorem mem_of_row? (found : row? table id = some row) : row ∈ table :=
  List.mem_of_find?_eq_some found

theorem id_of_row? (found : row? table id = some row) : row.id = id := by
  simpa using List.find?_some found

namespace WellFormed

theorem eq_of_id_eq (good : WellFormed table) {other : StoredTimer} (member : row ∈ table)
    (stored : other ∈ table) (same : row.id = other.id) : row = other :=
  List.inj_on_of_nodup_map good.ids member stored same

theorem row?_eq_some_iff (good : WellFormed table) :
    row? table id = some row ↔ row ∈ table ∧ row.id = id := by
  constructor
  · intro found
    exact ⟨mem_of_row? found, id_of_row? found⟩
  · rintro ⟨member, rfl⟩
    cases found : row? table row.id with
    | none =>
      have absent := List.find?_eq_none.mp found row member
      simp at absent
    | some other =>
      rw [good.eq_of_id_eq member (mem_of_row? found) (id_of_row? found).symm]

theorem erase (good : WellFormed table) (id : Uuid) : WellFormed (TimerTable.erase table id) where
  own row member := good.own row (List.mem_of_mem_filter member)
  ids := good.ids.sublist (List.filter_sublist.map _)
  naturalKeys row member other stored :=
    good.naturalKeys row (List.mem_of_mem_filter member) other (List.mem_of_mem_filter stored)

end WellFormed

theorem mem_overwrite {old : StoredTimer} (member : old ∈ overwrite table row) :
    old = row ∨ (old ∈ table ∧ old.id ≠ row.id) := by
  obtain ⟨source, stored, rfl⟩ := List.mem_map.mp member
  by_cases same : source.id = row.id
  · exact .inl (if_pos same)
  · rw [if_neg same]
    exact .inr ⟨stored, same⟩

theorem mem_put {old : StoredTimer} (member : old ∈ put table row) :
    old = row ∨ (old ∈ table ∧ old.id ≠ row.id) := by
  unfold put at member
  split at member
  · exact mem_overwrite member
  · rename_i free
    rcases List.mem_append.mp member with stored | added
    · right
      refine ⟨stored, fun same => free ?_⟩
      have found : (row? table row.id).isSome :=
        List.find?_isSome.mpr ⟨old, stored, by simpa using same⟩
      exact found
    · exact .inl (List.mem_singleton.mp added)

theorem map_id_overwrite (table : TimerTable) (row : StoredTimer) :
    (overwrite table row).map (·.id) = table.map (·.id) := by
  unfold overwrite
  rw [List.map_map]
  refine List.map_congr_left fun old _ => ?_
  simp only [Function.comp]
  split
  · rename_i same
    exact same.symm
  · rfl

theorem insert_eq_ok_iff {changed : TimerTable} :
    insert table row = .ok changed ↔
      changed = put table row ∧
        ∀ old ∈ table, old.naturalKey = row.naturalKey → old.id = row.id := by
  unfold insert
  by_cases clash : (table.any fun old => old.id != row.id && old.naturalKey == row.naturalKey) =
    true
  · rw [if_pos clash]
    simp only [reduceCtorEq, false_iff, not_and]
    intro _ unique
    obtain ⟨old, stored, clashes⟩ := List.any_eq_true.mp clash
    simp only [Bool.and_eq_true, bne_iff_ne, beq_iff_eq] at clashes
    exact clashes.1 (unique old stored clashes.2)
  · rw [if_neg clash]
    simp only [Except.ok.injEq]
    constructor
    · rintro rfl
      refine ⟨rfl, fun old stored same => ?_⟩
      by_contra apart
      exact clash (List.any_eq_true.mpr ⟨old, stored, by simp [apart, same]⟩)
    · rintro ⟨rfl, _⟩
      rfl

theorem WellFormed.put (good : WellFormed table) (own : StoredTimer.ofRecord row.record = .ok row)
    (unique : ∀ old ∈ table, old.naturalKey = row.naturalKey → old.id = row.id) :
    WellFormed (put table row) where
  own old member := by
    rcases mem_put member with rfl | ⟨stored, _⟩
    · exact own
    · exact good.own old stored
  ids := by
    unfold TimerTable.put
    split
    · rw [map_id_overwrite]
      exact good.ids
    · rename_i free
      rw [List.map_append, List.nodup_append]
      refine ⟨good.ids, by simp, ?_⟩
      rintro id member other added rfl
      obtain ⟨old, stored, rfl⟩ := List.mem_map.mp member
      have same : old.id = row.id := by simpa using added
      have found := good.row?_eq_some_iff.mpr ⟨stored, same⟩
      exact free (by simp [found])
  naturalKeys old member other stored same := by
    rcases mem_put member with rfl | ⟨oldStored, oldApart⟩ <;>
      rcases mem_put stored with rfl | ⟨otherStored, otherApart⟩
    · rfl
    · exact absurd (unique other otherStored same.symm) otherApart
    · exact absurd (unique old oldStored same) oldApart
    · exact good.naturalKeys old oldStored other otherStored same

theorem WellFormed.insert {changed : TimerTable} (good : WellFormed table)
    (own : StoredTimer.ofRecord row.record = .ok row) (inserted : insert table row = .ok changed) :
    WellFormed changed := by
  obtain ⟨rfl, unique⟩ := insert_eq_ok_iff.mp inserted
  exact good.put own unique

/-- Listings hold the records of all rows that are asked for, and no others. -/
theorem mem_select {p : StoredTimer → Bool} {record : TimerRecord} :
    record ∈ select table p ↔ ∃ row ∈ table, p row = true ∧ row.record = record := by
  unfold select
  rw [List.mem_mergeSort, List.mem_map]
  constructor
  · rintro ⟨row, member, rfl⟩
    obtain ⟨stored, kept⟩ := List.mem_filter.mp member
    exact ⟨row, stored, kept, rfl⟩
  · rintro ⟨row, stored, kept, rfl⟩
    exact ⟨row, List.mem_filter.mpr ⟨stored, kept⟩, rfl⟩

theorem WellFormed.nodup_select (good : WellFormed table) (p : StoredTimer → Bool) :
    ((select table p).map (·.id)).Nodup := by
  unfold select
  have order := List.mergeSort_perm ((table.filter p).map (·.record)) fun a b => !before b a
  rw [(order.map _).nodup_iff, List.map_map]
  have carried : (table.filter p).map ((·.id) ∘ (·.record)) =
      ((table.filter p).map (·.id)).map some := by
    rw [List.map_map]
    refine List.map_congr_left fun row member => ?_
    exact (StoredTimer.ofRecord_eq_ok_iff.mp (good.own row (List.mem_of_mem_filter member))).1
  rw [carried]
  exact (good.ids.sublist (List.filter_sublist.map _)).map fun _ _ => Option.some.inj

/-- Rows under ids that none of the inserted rows has are as they were. -/
theorem row?_insertAll_of_notMem {rows : List StoredTimer} {changed : TimerTable}
    (inserted : insertAll table rows = .ok changed) (apart : id ∉ rows.map (·.id)) :
    row? changed id = row? table id := by
  induction rows generalizing table with
  | nil =>
    cases inserted
    rfl
  | cons row rows ih =>
    unfold insertAll at inserted
    cases first : insert table row with
    | error e => simp [first, bind, Except.bind] at inserted
    | ok middle =>
      simp only [first, bind, Except.bind] at inserted
      rw [List.map_cons, List.mem_cons, not_or] at apart
      rw [ih inserted apart.2, (insert_eq_ok_iff.mp first).1, row?_put, if_neg (Ne.symm apart.1)]

/-- Each of several inserted rows is found under its id, if their ids differ. -/
theorem row?_insertAll_of_mem {rows : List StoredTimer} {changed : TimerTable}
    (inserted : insertAll table rows = .ok changed) (ids : (rows.map (·.id)).Nodup)
    (member : row ∈ rows) : row? changed row.id = some row := by
  induction rows generalizing table with
  | nil => simp at member
  | cons head rows ih =>
    unfold insertAll at inserted
    cases first : insert table head with
    | error e => simp [first, bind, Except.bind] at inserted
    | ok middle =>
      simp only [first, bind, Except.bind] at inserted
      rw [List.map_cons, List.nodup_cons] at ids
      rcases List.mem_cons.mp member with rfl | later
      · rw [row?_insertAll_of_notMem inserted ids.1, (insert_eq_ok_iff.mp first).1, row?_put,
          if_pos rfl]
      · exact ih inserted ids.2 later

theorem WellFormed.insertAll {rows : List StoredTimer} {changed : TimerTable}
    (good : WellFormed table) (own : ∀ row ∈ rows, StoredTimer.ofRecord row.record = .ok row)
    (inserted : insertAll table rows = .ok changed) : WellFormed changed := by
  induction rows generalizing table with
  | nil =>
    cases inserted
    exact good
  | cons row rows ih =>
    unfold TimerTable.insertAll at inserted
    cases first : TimerTable.insert table row with
    | error e => simp [first, bind, Except.bind] at inserted
    | ok middle =>
      simp only [first, bind, Except.bind] at inserted
      have goodMiddle := good.insert (own row (by simp)) first
      exact ih goodMiddle (fun other member => own other (by simp [member])) inserted

/-- Rows that keep the keys of stored ones can all be inserted. -/
theorem exists_insertAll_of_keys {rows : List StoredTimer} (good : WellFormed table)
    (own : ∀ row ∈ rows, StoredTimer.ofRecord row.record = .ok row)
    (kept : ∀ row ∈ rows, ∃ old ∈ table, old.id = row.id ∧ old.naturalKey = row.naturalKey) :
    ∃ changed, insertAll table rows = .ok changed := by
  induction rows generalizing table with
  | nil => exact ⟨table, rfl⟩
  | cons row rows ih =>
    obtain ⟨old, stored, sameId, sameKey⟩ := kept row (by simp)
    have unique : ∀ other ∈ table, other.naturalKey = row.naturalKey → other.id = row.id := by
      intro other otherStored same
      have equal := good.naturalKeys other otherStored old stored (same.trans sameKey.symm)
      rw [equal, sameId]
    have first : insert table row = .ok (put table row) := insert_eq_ok_iff.mpr ⟨rfl, unique⟩
    have goodMiddle := good.insert (own row (by simp)) first
    have keptMiddle : ∀ other ∈ rows, ∃ old ∈ put table row,
        old.id = other.id ∧ old.naturalKey = other.naturalKey := by
      intro other member
      obtain ⟨before, beforeStored, beforeId, beforeKey⟩ := kept other (by simp [member])
      by_cases same : row.id = before.id
      · have equal : before = old :=
          good.eq_of_id_eq beforeStored stored (same.symm.trans sameId.symm)
        have found : row? (put table row) row.id = some row := by rw [row?_put, if_pos rfl]
        refine ⟨row, mem_of_row? found, ?_, ?_⟩
        · rw [same, beforeId]
        · rw [← sameKey, ← equal, beforeKey]
      · have found : row? (put table row) before.id = some before := by
          rw [row?_put, if_neg same]
          exact good.row?_eq_some_iff.mpr ⟨beforeStored, rfl⟩
        exact ⟨before, mem_of_row? found, beforeId, beforeKey⟩
    obtain ⟨changed, rest⟩ := ih goodMiddle (fun other member => own other (by simp [member]))
      keptMiddle
    refine ⟨changed, ?_⟩
    unfold insertAll
    rw [first]
    exact rest

end TimerTable

namespace StoredTimer

/-- Records that all have rows have them together. -/
theorem exists_ofRecords {records : List TimerRecord}
    (each : ∀ record ∈ records, ∃ row, ofRecord record = .ok row) :
    ∃ rows, ofRecords records = .ok rows := by
  induction records with
  | nil => exact ⟨[], rfl⟩
  | cons record records ih =>
    obtain ⟨row, first⟩ := each record (by simp)
    obtain ⟨rows, rest⟩ := ih fun other member => each other (by simp [member])
    exact ⟨row :: rows, by simp [ofRecords, first, rest, bind, Except.bind, pure, Except.pure]⟩

/-- The rows of records are theirs, one for one. -/
theorem forall₂_of_ofRecords {records : List TimerRecord} {rows : List StoredTimer}
    (kept : ofRecords records = .ok rows) :
    List.Forall₂ (fun record row => ofRecord record = .ok row) records rows := by
  induction records generalizing rows with
  | nil =>
    cases kept
    exact .nil
  | cons record records ih =>
    unfold ofRecords at kept
    cases first : ofRecord record with
    | error e => simp [first, bind, Except.bind] at kept
    | ok row =>
      cases rest : ofRecords records with
      | error e => simp [first, rest, bind, Except.bind] at kept
      | ok others =>
        simp only [first, rest, bind, Except.bind, pure, Except.pure, Except.ok.injEq] at kept
        subst kept
        exact .cons first (ih rest)

theorem map_id_of_forall₂ {records : List TimerRecord} {rows : List StoredTimer}
    (kept : List.Forall₂ (fun record row => ofRecord record = .ok row) records rows) :
    records.map (·.id) = (rows.map (·.id)).map some := by
  induction kept with
  | nil => rfl
  | cons first _ ih =>
    rw [List.map_cons, List.map_cons, List.map_cons, ih, (ofRecord_eq_ok_iff.mp first).1]

theorem map_record_of_forall₂ {records : List TimerRecord} {rows : List StoredTimer}
    (kept : List.Forall₂ (fun record row => ofRecord record = .ok row) records rows) :
    rows.map (·.record) = records := by
  induction kept with
  | nil => rfl
  | cons first _ ih => rw [List.map_cons, ih, (ofRecord_eq_ok_iff.mp first).2.2]

/-- Every row of records is that of the record it keeps. -/
theorem own_of_forall₂ {records : List TimerRecord} {rows : List StoredTimer}
    (kept : List.Forall₂ (fun record row => ofRecord record = .ok row) records rows) :
    ∀ row ∈ rows, row.record ∈ records ∧ ofRecord row.record = .ok row := by
  induction kept with
  | nil => simp
  | cons first _ ih =>
    have same := (ofRecord_eq_ok_iff.mp first).2.2
    intro row member
    rcases List.mem_cons.mp member with rfl | later
    · exact ⟨by simp [same], by rw [same, first]⟩
    · exact ⟨List.mem_cons_of_mem _ (ih row later).1, (ih row later).2⟩

end StoredTimer

end Horarium
