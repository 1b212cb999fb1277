/-
Module: Horarium.Proofs.FireWindows
Purpose: The fires of a stretch of time. A job with an interval fires at the multiples of the
  interval since its trigger was set, so that the fires of a stretch are those of its parts, one
  after the other, whatever jobs there are.
Trusted boundary: none
Main exports: LocalEngine.mem_firesOf, LocalEngine.firesOf_append, LocalEngine.advance_add
-/
import Horarium.Engine.Local
import Mathlib.Data.List.Sort
import Mathlib.Data.List.Nodup
import Mathlib.Data.Fin.Basic

namespace Horarium

/-! ### Sorting by parts -/

section Sorting

variable {α : Type} {le : α → α → Bool}
  (trans : ∀ a b c, le a b = true → le b c = true → le a c = true)
  (total : ∀ a b, (le a b || le b a) = true)
include trans total

/-- An element is sorted in behind those that it does not have to precede, and before all others. -/
theorem mergeSort_cons_eq (a : α) (l : List α) :
    (a :: l).mergeSort le =
      (l.mergeSort le).filter (!le a ·) ++ a :: (l.mergeSort le).filter (le a ·) := by
  obtain ⟨earlier, later, sorted, split, behind⟩ := List.mergeSort_cons trans total a l
  have ordered := List.pairwise_mergeSort trans total (a :: l)
  rw [sorted, List.pairwise_append, List.pairwise_cons] at ordered
  have before : ∀ b ∈ later, le a b = true := ordered.2.1.1
  have left : (earlier ++ later).filter (!le a ·) = earlier := by
    rw [List.filter_append, List.filter_eq_self.mpr behind,
      List.filter_eq_nil_iff.mpr (by simpa using before), List.append_nil]
  have right : (earlier ++ later).filter (le a ·) = later := by
    rw [List.filter_append, List.filter_eq_self.mpr before,
      List.filter_eq_nil_iff.mpr (by simpa using behind), List.nil_append]
  rw [sorted, split, left, right]

/-- Where some elements have to precede all others, the two parts can be sorted each for itself. -/
theorem mergeSort_eq_append {p : α → Bool} {l : List α}
    (apart : ∀ a ∈ l, ∀ b ∈ l, p a = true → p b = false → le b a = false) :
    l.mergeSort le = (l.filter p).mergeSort le ++ (l.filter (!p ·)).mergeSort le := by
  induction l with
  | nil => simp
  | cons a l ih =>
    have rest := ih fun b member c other => apart b (by simp [member]) c (by simp [other])
    rw [mergeSort_cons_eq trans total, rest, List.filter_append, List.filter_append]
    cases first : p a with
    | true =>
      -- everything in the second part comes after the new element, whose place is in the first
      have after : ∀ b ∈ (l.filter (!p ·)).mergeSort le, le a b = true := by
        intro b member
        obtain ⟨listed, second⟩ := List.mem_filter.mp (List.mem_mergeSort.mp member)
        have late := apart a (by simp) b (by simp [listed]) first (by simpa using second)
        simpa [late] using total a b
      have left : ((l.filter (!p ·)).mergeSort le).filter (!le a ·) = [] :=
        List.filter_eq_nil_iff.mpr fun b member => by simp [after b member]
      rw [left, List.filter_eq_self.mpr after, List.append_nil, List.filter_cons_of_pos first,
        List.filter_cons_of_neg (by simp [first]), mergeSort_cons_eq trans total, List.append_assoc,
          List.cons_append]
    | false =>
      have before : ∀ b ∈ (l.filter p).mergeSort le, le a b = false := by
        intro b member
        obtain ⟨listed, earlier⟩ := List.mem_filter.mp (List.mem_mergeSort.mp member)
        exact apart b (by simp [listed]) a (by simp) earlier first
      have left : ((l.filter p).mergeSort le).filter (!le a ·) = (l.filter p).mergeSort le :=
        List.filter_eq_self.mpr fun b member => by simp [before b member]
      have right : ((l.filter p).mergeSort le).filter (le a ·) = [] :=
        List.filter_eq_nil_iff.mpr fun b member => by simp [before b member]
      rw [left, right, List.nil_append, List.filter_cons_of_neg (by simp [first]),
        List.filter_cons_of_pos (by simp [first]), mergeSort_cons_eq trans total, List.append_assoc]

end Sorting

namespace Uuid

theorem not_before_trans {a b c : Uuid} (first : b.before a = false) (second : c.before b = false) :
    c.before a = false := by
  have least : ¬ b.digits < a.digits := decide_eq_false_iff_not.mp first
  have less : ¬ c.digits < b.digits := decide_eq_false_iff_not.mp second
  exact decide_eq_false_iff_not.mpr (List.le_trans least less)

theorem not_before_total (a b : Uuid) : b.before a = false ∨ a.before b = false := by
  rcases List.le_total a.digits b.digits with less | more
  · exact .inl (decide_eq_false_iff_not.mpr less)
  · exact .inr (decide_eq_false_iff_not.mpr more)

end Uuid

namespace LocalEngine

/-! ### Windows -/

variable {start middle stop : Nat} {job : LocalJob} {fire : LocalFire}

/-- The fires of a stretch of time are those that fall into it. -/
theorem mem_firesOf : fire ∈ firesOf start stop job ↔
    ∃ period, job.trigger = .interval period ∧ 0 < period ∧ fire.data = job.data ∧
      (∃ k, 1 ≤ k ∧ fire.millis = job.since + k * period) ∧ start < fire.millis ∧
      fire.millis ≤ stop := by
  unfold firesOf
  cases job.trigger with
  | cron expression zone => simp
  | interval period =>
    simp only [List.mem_map, List.mem_range'_1, TriggerSpec.interval.injEq, exists_eq_left']
    rcases Nat.eq_zero_or_pos period with rfl | positive
    · simp
    have reaches (k : Nat) : (start - job.since) / period < k ↔ start - job.since < k * period :=
      Nat.div_lt_iff_lt_mul positive
    have lasts (k : Nat) : k ≤ (stop - job.since) / period ↔ k * period ≤ stop - job.since :=
      Nat.le_div_iff_mul_le positive
    generalize (start - job.since) / period = before at reaches
    generalize (stop - job.since) / period = last at lasts
    constructor
    · rintro ⟨k, bounds, rfl⟩
      have least : 1 ≤ k := by omega
      have spread : 0 < k * period := Nat.mul_pos least positive
      have late := (reaches k).mp (by omega)
      have early := (lasts k).mp (by omega)
      exact ⟨positive, rfl, ⟨k, least, rfl⟩, by simp only; omega, by simp only; omega⟩
    · rintro ⟨_, data, ⟨k, least, time⟩, late, early⟩
      have spread : 0 < k * period := Nat.mul_pos least positive
      have lower := (reaches k).mpr (by omega)
      have upper := (lasts k).mpr (by omega)
      exact ⟨k, by omega, by rw [← time, ← data]⟩

theorem firesOf_self (start : Nat) (job : LocalJob) : firesOf start start job = [] := by
  unfold firesOf
  cases job.trigger with
  | interval period => simp
  | cron expression zone => rfl

/-- The fires of a stretch of time are those of its first part and then those of the rest. -/
theorem firesOf_append (first : start ≤ middle) (second : middle ≤ stop) (job : LocalJob) :
    firesOf start middle job ++ firesOf middle stop job = firesOf start stop job := by
  unfold firesOf
  cases job.trigger with
  | cron expression zone => rfl
  | interval period =>
    have lower : (start - job.since) / period ≤ (middle - job.since) / period :=
      Nat.div_le_div_right (by omega)
    have upper : (middle - job.since) / period ≤ (stop - job.since) / period :=
      Nat.div_le_div_right (by omega)
    dsimp only
    rw [← List.map_append]
    congr 1
    generalize (start - job.since) / period = before at lower
    generalize (middle - job.since) / period = between at lower upper
    generalize (stop - job.since) / period = after at upper
    have next : between + 1 = before + 1 + 1 * (between - before) := by omega
    have whole : after - before = between - before + (after - between) := by omega
    rw [Nat.add_sub_add_right, Nat.add_sub_add_right, Nat.add_sub_add_right, next, whole,
      List.range'_append]

/-- The fires of a stretch of time up to some moment are those of its first part. -/
theorem firesOf_until (first : start ≤ middle) (second : middle ≤ stop) (job : LocalJob) :
    (firesOf start stop job).filter (fun fire => decide (fire.millis ≤ middle)) =
      firesOf start middle job := by
  rw [← firesOf_append first second job, List.filter_append, List.filter_eq_self.mpr,
    List.filter_eq_nil_iff.mpr, List.append_nil]
  · intro fire member
    obtain ⟨_, _, _, _, _, late, _⟩ := mem_firesOf.mp member
    simpa using late
  · intro fire member
    obtain ⟨_, _, _, _, _, _, early⟩ := mem_firesOf.mp member
    simpa using early

/-- The fires of a stretch of time after some moment are those of the rest. -/
theorem firesOf_from (first : start ≤ middle) (second : middle ≤ stop) (job : LocalJob) :
    (firesOf start stop job).filter (fun fire => !decide (fire.millis ≤ middle)) =
      firesOf middle stop job := by
  rw [← firesOf_append first second job, List.filter_append, List.filter_eq_nil_iff.mpr,
    List.filter_eq_self.mpr, List.nil_append]
  · intro fire member
    obtain ⟨_, _, _, _, _, late, _⟩ := mem_firesOf.mp member
    simpa using late
  · intro fire member
    obtain ⟨_, _, _, _, _, _, early⟩ := mem_firesOf.mp member
    simpa using early

/-! ### The clock -/

theorem fireLe_iff {a b : LocalFire} : fireLe a b = true ↔
    a.millis < b.millis ∨ a.millis = b.millis ∧ b.data.timer.before a.data.timer = false := by
  simp [fireLe]

theorem fireLe_trans (a b c : LocalFire) (first : fireLe a b = true) (second : fireLe b c = true) :
    fireLe a c = true := by
  rw [fireLe_iff] at first second ⊢
  rcases first with first | ⟨first, least⟩ <;> rcases second with second | ⟨second, less⟩
  · exact .inl (first.trans second)
  · exact .inl (second ▸ first)
  · exact .inl (first ▸ second)
  · exact .inr ⟨first.trans second, Uuid.not_before_trans least less⟩

theorem fireLe_total (a b : LocalFire) : (fireLe a b || fireLe b a) = true := by
  rw [Bool.or_eq_true, fireLe_iff, fireLe_iff]
  rcases Nat.lt_trichotomy a.millis b.millis with earlier | same | later
  · exact .inl (.inl earlier)
  · rcases Uuid.not_before_total a.data.timer b.data.timer with less | more
    · exact .inl (.inr ⟨same, less⟩)
    · exact .inr (.inr ⟨same.symm, more⟩)
  · exact .inr (.inl later)

/-- What the engine fires while its clock is moved on falls into that stretch of time, in its
order. -/
theorem advance_fires (engine : LocalEngine) (millis : Nat) :
    (engine.advance millis).1.Pairwise (fun a b => a.millis ≤ b.millis) ∧
      ∀ fire ∈ (engine.advance millis).1, engine.now < fire.millis ∧
        fire.millis ≤ engine.now + millis := by
  constructor
  · refine (List.pairwise_mergeSort fireLe_trans fireLe_total _).imp fun ordered => ?_
    rcases fireLe_iff.mp ordered with earlier | ⟨same, _⟩
    · exact earlier.le
    · exact same.le
  · intro fire member
    obtain ⟨entry, _, fired⟩ := List.mem_flatMap.mp (List.mem_mergeSort.mp member)
    obtain ⟨_, _, _, _, _, late, early⟩ := mem_firesOf.mp fired
    exact ⟨late, early⟩

/-- Moving the clock on twice fires what moving it on once by both amounts does. -/
theorem advance_add (engine : LocalEngine) (first second : Nat) :
    engine.advance (first + second) =
      ((engine.advance first).1 ++ ((engine.advance first).2.advance second).1,
        ((engine.advance first).2.advance second).2) := by
  have lower : engine.now ≤ engine.now + first := Nat.le_add_right _ _
  have upper : engine.now + first ≤ engine.now + first + second := Nat.le_add_right _ _
  have order : ∀ a b : LocalFire, decide (a.millis ≤ engine.now + first) = true →
      decide (b.millis ≤ engine.now + first) = false → fireLe b a = false := by
    intro a b early late
    have apart : a.millis < b.millis :=
      Nat.lt_of_le_of_lt (of_decide_eq_true early) (Nat.lt_of_not_le (of_decide_eq_false late))
    rw [Bool.eq_false_iff]
    intro backwards
    rcases fireLe_iff.mp backwards with before | ⟨same, _⟩ <;> omega
  unfold advance
  simp only [← Nat.add_assoc]
  rw [mergeSort_eq_append fireLe_trans fireLe_total fun a _ b _ => order a b, List.filter_flatMap,
    List.filter_flatMap]
  simp only [firesOf_until lower upper, firesOf_from lower upper]

end LocalEngine

end Horarium
