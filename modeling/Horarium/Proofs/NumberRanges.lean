/-
Module: Horarium.Proofs.NumberRanges
Purpose: The numbers of an accepted Unix expression. What has been read as a field is spelled as
  items of the grammar, so every minute, hour, day of the month and month that an accepted
  expression states lies in the range of its field, where no word begins or ends with a comma, a
  hyphen or a slash. Weekdays are checked after they have been renumbered only: any number of 32
  bits passes for a weekday, and counts by its remainder.
Trusted boundary: none
Main exports: Cron.BaseText, Cron.ItemText, Cron.stated_numbers_bounded
-/
import Horarium.Proofs.FieldwiseAcceptance

namespace Horarium.Cron

/-! ### The numbers that a field states -/

/-- A number with a plus sign or none. -/
def Written (n : Nat) (text : List Char) : Prop :=
  Numeral n text ∨ ∃ digits, text = '+' :: digits ∧ Numeral n digits

/-- What stands before the step of an atom. -/
def baseOf (atom : List Char) : List Char :=
  match Text.splitFirst? '/' atom with
  | some (base, _) => base
  | none => atom

/-- The numbers that the base of an atom states: its value, or the ends of its range. -/
inductive BaseStates (base : List Char) (n : Nat) : Prop where
  | value (written : Written n base)
  | first {low high : List Char} (cut : Text.splitFirst? '-' base = some (low, high))
      (written : Written n low)
  | last {low high : List Char} (cut : Text.splitFirst? '-' base = some (low, high))
      (written : Written n high)

/-- The numbers that a field states, in any of its atoms, as a value or as an end of a range. -/
def States (field : List Char) (n : Nat) : Prop :=
  ∃ atom ∈ Text.splitOn ',' field, BaseStates (baseOf atom) n

/-! ### What has been read is spelled out -/

/-- The texts of the bases of items. -/
inductive BaseText (u : FieldRange) : Base → List Char → Prop where
  | all : BaseText u .all ['*']
  | single {n : Nat} {digits : List Char} (numeral : Numeral n digits) :
      BaseText u (.single n) digits
  | range {first last : Nat} {digits digits' : List Char} (start : Numeral first digits)
      (stop : Numeral last digits') : BaseText u (.range first last) (digits ++ '-' :: digits')
  | name {n : Nat} {letters : List Char} (word : Letters letters)
      (named : u.named? letters = some n) : BaseText u (.single n) letters
  | nameRange {first last : Nat} {letters letters' : List Char} (word : Letters letters)
      (word' : Letters letters')
      (start : u.named? letters = some first) (stop : u.named? letters' = some last) :
      BaseText u (.range first last) (letters ++ '-' :: letters')

/-- The text of an item: that of its base, and then its step. -/
structure ItemText (u : FieldRange) (item : Item) (text : List Char) : Prop where
  parts : ∃ base tail, text = base ++ tail ∧ BaseText u item.base base ∧ ItemStep item.step tail

section Spelled

variable {u : FieldRange} {cs left : List Char}

theorem runOf_spelled {p : Char → Bool} {run : List Char} (solid : Solid cs)
    (read : runOf p cs = some (run, left)) :
    cs = run ++ left ∧ run ≠ [] ∧ ∀ c ∈ run, p c = true := by
  have dropped : Solid (cs.drop (cs.takeWhile p).length) := solid.of_suffix (List.drop_suffix _ _)
  simp only [runOf, solid.skipGap_eq, dropped.skipGap_eq] at read
  split at read
  · simp at read
  · rename_i present
    obtain ⟨rfl, rfl⟩ := Prod.mk.inj (Option.some.inj read)
    refine ⟨?_, by simpa using present, fun c member => List.mem_takeWhile_imp member⟩
    exact (List.prefix_iff_eq_append.mp (List.takeWhile_prefix p)).symm

theorem number?_spelled {n : Nat} (solid : Solid cs) (read : number? cs = some (n, left)) :
    ∃ digits, cs = digits ++ left ∧ Numeral n digits := by
  obtain ⟨run, found, digits⟩ := exists_run_of_number? read
  obtain ⟨whole, present, -⟩ := runOf_spelled solid found
  exact ⟨run, whole, present, digits⟩

theorem name?_spelled {name : List Char} (solid : Solid cs) (read : name? cs = some (name, left)) :
    cs = name ++ left ∧ Letters name := by
  rw [name?_eq_runOf] at read
  obtain ⟨whole, present, letters⟩ := runOf_spelled solid read
  exact ⟨whole, present, letters⟩

theorem withStep_spelled (base : Base) (solid : Solid cs) :
    (withStep base cs).1.base = base ∧
      ∃ tail, cs = tail ++ (withStep base cs).2 ∧ ItemStep (withStep base cs).1.step tail := by
  by_cases slash : cs.head? = some '/'
  · obtain ⟨rest, rfl⟩ := List.head?_eq_some_iff.mp slash
    have solidRest : Solid rest := solid.of_suffix (List.suffix_cons _ _)
    cases number : number? rest with
    | none =>
      simp only [withStep, number]
      exact ⟨trivial, [], rfl, .absent⟩
    | some found =>
      obtain ⟨digits, whole, numeral⟩ := number?_spelled solidRest number
      simp only [withStep, number]
      exact ⟨trivial, '/' :: digits, by rw [List.cons_append, ← whole], .present numeral⟩
  · rw [withStep_of_head slash]
    exact ⟨rfl, [], rfl, .absent⟩

theorem afterHyphen?_spelled {after : List Char} (found : afterHyphen? cs = some after) :
    cs = '-' :: after := by
  unfold afterHyphen? at found
  split at found
  · rw [Option.some.inj found]
  · simp at found

/-- The text of an item from that of its base, with the step that has been read behind it. -/
theorem itemText_withStep {base : Base} {text after : List Char} (spelled : BaseText u base text)
    (solid : Solid after) (whole : cs = text ++ after) :
    ∃ text, cs = text ++ (withStep base after).2 ∧ ItemText u (withStep base after).1 text := by
  obtain ⟨same, tail, step, stepped⟩ := withStep_spelled base solid
  rw [← same] at spelled
  exact ⟨text ++ tail, by rw [List.append_assoc, ← step, whole], _, tail, rfl, spelled, stepped⟩

theorem item?_spelled {item : Item} (solid : Solid cs) (read : item? u cs = some (item, left)) :
    ∃ text, cs = text ++ left ∧ ItemText u item text := by
  cases item?_eq_some_iff.mp read with
  | all cs => exact itemText_withStep .all (solid.of_suffix (List.suffix_cons _ _)) rfl
  | single _ number _ =>
    obtain ⟨digits, whole, numeral⟩ := number?_spelled solid number
    exact itemText_withStep (.single numeral) (solid.of_suffix (number?_suffix number)) whole
  | range _ start stop =>
    obtain ⟨digits, whole, numeral⟩ := number?_spelled solid start
    obtain ⟨rest, hyphen, stop⟩ := Option.bind_eq_some_iff.mp stop
    obtain rfl := afterHyphen?_spelled hyphen
    have solidRest : Solid rest :=
      (solid.of_suffix (number?_suffix start)).of_suffix (List.suffix_cons _ _)
    obtain ⟨digits', rfl, numeral'⟩ := number?_spelled solidRest stop
    exact itemText_withStep (.range numeral numeral') (solidRest.of_suffix (number?_suffix stop))
      (by simp [whole])
  | name _ _ word known _ =>
    obtain ⟨whole, letters⟩ := name?_spelled solid word
    exact ⟨_, whole, _, [], by simp, .name letters known, .absent⟩
  | nameRange _ _ start knownStart stop knownStop =>
    obtain ⟨whole, letters⟩ := name?_spelled solid start
    obtain ⟨rest, hyphen, stop⟩ := Option.bind_eq_some_iff.mp stop
    obtain rfl := afterHyphen?_spelled hyphen
    have solidRest : Solid rest :=
      (solid.of_suffix (name?_suffix start)).of_suffix (List.suffix_cons _ _)
    obtain ⟨rfl, letters'⟩ := name?_spelled solidRest stop
    exact itemText_withStep (.nameRange letters letters' knownStart knownStop)
      (solidRest.of_suffix (name?_suffix stop)) (by simp [whole])

theorem moreItems_spelled {budget : Nat} {items : List Item} (solid : Solid cs)
    (read : moreItems u budget cs = some (items, left)) :
    ∃ texts, cs = afterCommas texts ++ left ∧ List.Forall₂ (ItemText u) items texts := by
  induction budget generalizing cs items with
  | zero =>
    obtain ⟨rfl, rfl⟩ := Prod.mk.inj (Option.some.inj read)
    exact ⟨[], rfl, .nil⟩
  | succ budget ih =>
    by_cases comma : cs.head? = some ','
    · obtain ⟨cs, rfl⟩ := List.head?_eq_some_iff.mp comma
      have solidRest : Solid cs := solid.of_suffix (List.suffix_cons _ _)
      rw [moreItems_comma] at read
      obtain ⟨⟨item, after⟩, first, read⟩ := Option.bind_eq_some_iff.mp read
      obtain ⟨⟨more, left'⟩, others, same⟩ := Option.map_eq_some_iff.mp read
      obtain ⟨rfl, rfl⟩ := Prod.mk.inj same
      obtain ⟨text, rfl, spelled⟩ := item?_spelled solidRest first
      obtain ⟨texts, rfl, spelledAll⟩ := ih (solidRest.of_suffix (item?_suffix first)) others
      exact ⟨text :: texts, by simp, .cons spelled spelledAll⟩
    · rw [moreItems_of_head comma] at read
      obtain ⟨rfl, rfl⟩ := Prod.mk.inj (Option.some.inj read)
      exact ⟨[], rfl, .nil⟩

/-- A text that has been read to its end as the items of a field consists of their texts. -/
theorem items?_spelled {items : List Item} (solid : Solid cs)
    (read : items? u cs = some (items, [])) :
    ∃ texts, texts ≠ [] ∧ cs = [','].intercalate texts ∧ List.Forall₂ (ItemText u) items texts := by
  rw [items?_eq_map, solid.skipGap_eq] at read
  obtain ⟨⟨items', after⟩, found, same⟩ := Option.map_eq_some_iff.mp read
  obtain ⟨rfl, ended⟩ := Prod.mk.inj same
  obtain ⟨⟨item, left⟩, first, found⟩ := Option.bind_eq_some_iff.mp found
  obtain ⟨⟨more, left'⟩, others, same⟩ := Option.map_eq_some_iff.mp found
  obtain ⟨rfl, rfl⟩ := Prod.mk.inj same
  have solidLeft := solid.of_suffix (item?_suffix first)
  obtain rfl : left' = [] := by
    rwa [(solidLeft.of_suffix (moreItems_suffix others)).skipGap_eq] at ended
  obtain ⟨text, rfl, spelled⟩ := item?_spelled solid first
  obtain ⟨texts, rfl, spelledAll⟩ := moreItems_spelled solidLeft others
  exact ⟨text :: texts, List.cons_ne_nil _ _, by rw [intercalate_cons, List.append_nil],
    .cons spelled spelledAll⟩

end Spelled

/-! ### The numbers of a field that has been read -/

theorem Numeral.inj {n m : Nat} {text : List Char} (first : Numeral n text)
    (second : Numeral m text) : n = m :=
  Option.some.inj (first.2.symm.trans second.2)

namespace Written

variable {n : Nat} {text : List Char}

theorem eq_of_numeral {m : Nat} (written : Written n text) (numeral : Numeral m text) : n = m := by
  rcases written with numeral' | ⟨digits, rfl, -⟩
  · exact numeral'.inj numeral
  · exact absurd List.mem_cons_self (numeral.notMem (c := '+') (by decide))

theorem notMem (written : Written n text) {c : Char} (other : Text.digit? c = none ∧ c ≠ '+') :
    c ∉ text := by
  rcases written with numeral | ⟨digits, rfl, numeral⟩
  · exact numeral.notMem other.1
  · simpa using ⟨other.2, numeral.notMem other.1⟩

/-- A number is read as a day, unless it has more than 32 bits. -/
theorem dayNumber?_eq (written : Written n text) :
    dayNumber? text = (some n).filter (· ≤ Text.max32) := by
  have read : ∀ {digits}, Numeral n digits →
      (if digits.isEmpty then none else (Text.readDigits? 0 digits).filter (· ≤ Text.max32)) =
        (some n).filter (· ≤ Text.max32) := by
    intro digits numeral
    rw [if_neg (by simpa using numeral.1), numeral.2]
  rcases written with numeral | ⟨digits, rfl, numeral⟩
  · have unsigned : '+' ∉ text := numeral.notMem (by decide)
    unfold dayNumber? Text.readNat?
    split
    · simp at unsigned
    · exact read numeral
  · exact read numeral

theorem eq_of_dayNumber? {m : Nat} (written : Written n text) (read : dayNumber? text = some m) :
    n = m ∧ n ≤ Text.max32 := by
  rw [written.dayNumber?_eq, Option.filter_some] at read
  split at read
  · rename_i small
    exact ⟨Option.some.inj read, by simpa using small⟩
  · simp at read

end Written

/-- Letters spell no number. -/
theorem Letters.not_written {n : Nat} {text : List Char} (word : Letters text) :
    ¬ Written n text := by
  intro written
  obtain ⟨c, cs, rfl⟩ := List.exists_cons_of_ne_nil word.1
  have letter := word.2 c List.mem_cons_self
  refine written.notMem ⟨digit?_of_letter letter, ?_⟩ List.mem_cons_self
  rintro rfl
  exact absurd letter (by decide)

section BaseText

variable {u : FieldRange} {base : Base} {text : List Char}

theorem BaseText.notMem (spelled : BaseText u base text) {c : Char}
    (other : Text.digit? c = none ∧ c.isAlpha = false ∧ c ∉ ['*', '-']) : c ∉ text := by
  obtain ⟨digit, letter, mark⟩ := other
  rw [List.mem_cons, List.mem_singleton, not_or] at mark
  cases spelled with
  | all => simpa using mark.1
  | single numeral => exact numeral.notMem digit
  | range start stop => simpa using ⟨start.notMem digit, mark.2, stop.notMem digit⟩
  | name word _ => exact word.notMem letter
  | nameRange word word' _ _ => simpa using ⟨word.notMem letter, mark.2, word'.notMem letter⟩

/-- A base without a hyphen that is a number is the item's value. -/
theorem BaseText.value (spelled : BaseText u base text) {n : Nat} (written : Written n text) :
    base = .single n ∧ Numeral n text := by
  have uncut : '-' ∉ text := written.notMem (by decide)
  cases spelled with
  | all => exact absurd List.mem_cons_self (written.notMem (c := '*') (by decide))
  | single numeral =>
    obtain rfl := written.eq_of_numeral numeral
    exact ⟨rfl, numeral⟩
  | name word _ => exact absurd written word.not_written
  | range _ _ | nameRange _ _ _ _ => simp at uncut

/-- A base with a number on one side of its hyphen has numbers on both, which are the ends of the
item's range. -/
theorem BaseText.ends (spelled : BaseText u base text) {low high : List Char}
    (cut : Text.splitFirst? '-' text = some (low, high)) {n : Nat}
    (written : Written n low ∨ Written n high) :
    ∃ first last, base = .range first last ∧ Numeral first low ∧ Numeral last high := by
  have uncut : '-' ∉ text → False := fun uncut => by simp [splitFirst?_eq_none uncut] at cut
  cases spelled with
  | all => exact (uncut (by decide)).elim
  | single numeral => exact (uncut (numeral.notMem (by decide))).elim
  | name word _ => exact (uncut (word.notMem (by decide))).elim
  | @range first last digits digits' start stop =>
    rw [splitFirst?_append (start.notMem (by decide))] at cut
    obtain ⟨rfl, rfl⟩ := Prod.mk.inj (Option.some.inj cut)
    exact ⟨first, last, rfl, start, stop⟩
  | nameRange word word' _ _ =>
    rw [splitFirst?_append (word.notMem (by decide))] at cut
    obtain ⟨rfl, rfl⟩ := Prod.mk.inj (Option.some.inj cut)
    exact (written.elim word.not_written word'.not_written).elim

/-- The numbers that the base of a valid item states lie in the range of the field. -/
theorem BaseStates.bounded {item : Item} {n : Nat} (states : BaseStates text n)
    (spelled : BaseText u item.base text) (valid : item.isValid u = true) :
    u.low ≤ n ∧ n ≤ u.high := by
  obtain ⟨base, step⟩ := item
  cases states with
  | value written =>
    obtain ⟨rfl, -⟩ := spelled.value written
    simp only [Item.isValid, Bool.and_eq_true, decide_eq_true_eq] at valid
    exact valid.2
  | first cut written =>
    obtain ⟨first, last, rfl, start, -⟩ := spelled.ends cut (.inl written)
    obtain rfl := written.eq_of_numeral start
    simp only [Item.isValid, Bool.and_eq_true, decide_eq_true_eq] at valid
    omega
  | last cut written =>
    obtain ⟨first, last, rfl, -, stop⟩ := spelled.ends cut (.inr written)
    obtain rfl := written.eq_of_numeral stop
    simp only [Item.isValid, Bool.and_eq_true, decide_eq_true_eq] at valid
    omega

end BaseText

theorem baseOf_append {base tail : List Char} (whole : '/' ∉ base) (ended : AtomEnd tail) :
    baseOf (base ++ tail) = base := by
  cases ended with
  | absent => rw [List.append_nil, baseOf, splitFirst?_eq_none whole]
  | slash step => rw [baseOf, splitFirst?_append whole]

theorem ItemStep.atomEnd {step : Option Nat} {tail : List Char} (stepped : ItemStep step tail) :
    AtomEnd tail := by
  cases stepped with
  | absent => exact .absent
  | present _ => exact .slash _

namespace ItemText

variable {u : FieldRange} {item : Item} {text : List Char}

theorem baseOf_spelled (spelled : ItemText u item text) : BaseText u item.base (baseOf text) := by
  obtain ⟨base, tail, rfl, front, stepped⟩ := spelled.parts
  rwa [baseOf_append (front.notMem (by decide)) stepped.atomEnd]

theorem comma_notMem (spelled : ItemText u item text) : ',' ∉ text := by
  obtain ⟨itemBase, step⟩ := item
  obtain ⟨base, tail, rfl, front, stepped⟩ := spelled.parts
  rw [List.mem_append, not_or]
  refine ⟨front.notMem (by decide), ?_⟩
  cases stepped with
  | absent => simp
  | present numeral => simpa using numeral.notMem (c := ',') (by decide)

end ItemText

theorem splitOn_intercalate {texts : List (List Char)} (present : texts ≠ [])
    (absent : ∀ text ∈ texts, ',' ∉ text) :
    Text.splitOn ',' ([','].intercalate texts) = texts := by
  induction texts with
  | nil => exact absurd rfl present
  | cons text texts ih =>
    rw [List.forall_mem_cons] at absent
    cases texts with
    | nil => rw [List.intercalate_singleton, Text.splitOn_of_notMem absent.1]
    | cons next texts =>
      rw [List.intercalate_cons_cons, List.append_assoc, List.singleton_append,
        Text.splitOn_append absent.1, ih (List.cons_ne_nil _ _) absent.2]

/-- The atoms of a field are the texts of valid items. -/
theorem IsField.atom {u : FieldRange} {values : List Nat} {word : List Char}
    (isField : IsField (u, values) word) (solid : Solid word) {atom : List Char}
    (member : atom ∈ Text.splitOn ',' word) :
    ∃ item : Item, item.isValid u = true ∧ BaseText u item.base (baseOf atom) := by
  unfold IsField at isField
  rw [field?_eq_bind] at isField
  obtain ⟨⟨items, left⟩, found, selected⟩ := Option.bind_eq_some_iff.mp isField
  obtain ⟨chosen, accepted, same⟩ := Option.map_eq_some_iff.mp selected
  obtain ⟨rfl, rfl⟩ := Prod.mk.inj same
  obtain ⟨valid, -⟩ := FieldRange.values?_inv accepted
  obtain ⟨texts, present, rfl, spelled⟩ := items?_spelled solid found
  rw [splitOn_intercalate present (forall_of_forall₂_right spelled ItemText.comma_notMem)] at member
  obtain ⟨item, inside, spelled⟩ := exists_of_mem_right spelled member
  exact ⟨item, valid item inside, spelled.baseOf_spelled⟩

/-- The numbers that a field states lie in its range. -/
theorem IsField.bounded {u : FieldRange} {values : List Nat} {word : List Char}
    (isField : IsField (u, values) word) (solid : Solid word) {n : Nat} (states : States word n) :
    u.low ≤ n ∧ n ≤ u.high := by
  obtain ⟨atom, member, states⟩ := states
  obtain ⟨item, valid, spelled⟩ := isField.atom solid member
  exact states.bounded spelled valid

/-! ### Question marks state nothing -/

theorem starred_char_eq_iff {separator c : Char} (other : separator ∉ ['?', '*']) :
    (if c = '?' then '*' else c) = separator ↔ c = separator := by
  simp only [List.mem_cons, List.not_mem_nil, or_false, not_or] at other
  split
  · rename_i mark
    exact iff_of_false (Ne.symm other.2) fun same => other.1 (same.symm.trans mark)
  · rfl

theorem splitFirst?_starred {separator : Char} (other : separator ∉ ['?', '*']) (text : List Char) :
    Text.splitFirst? separator (starred text) =
      (Text.splitFirst? separator text).map (Prod.map starred starred) := by
  induction text with
  | nil => rfl
  | cons c cs ih =>
    rw [starred, List.map_cons, ← starred]
    simp only [Text.splitFirst?, beq_iff_eq, starred_char_eq_iff other]
    split
    · rfl
    · rw [ih, Option.map_map, Option.map_map]
      rfl

theorem splitOn_starred (text : List Char) :
    Text.splitOn ',' (starred text) = (Text.splitOn ',' text).map starred := by
  unfold Text.splitOn
  induction text with
  | nil => rfl
  | cons c cs ih =>
    obtain ⟨piece, pieces, found⟩ := List.exists_cons_of_ne_nil (Text.pieces_ne_nil (· == ',') cs)
    rw [starred, List.map_cons, ← starred]
    simp only [Text.pieces, ih, found, beq_iff_eq, @starred_char_eq_iff ',' c (by decide)]
    split
    · rfl
    · rfl

theorem baseOf_starred (atom : List Char) : baseOf (starred atom) = starred (baseOf atom) := by
  unfold baseOf
  rw [splitFirst?_starred (by decide)]
  cases Text.splitFirst? '/' atom <;> rfl

theorem Written.to_starred {n : Nat} {text : List Char} (written : Written n text) :
    Written n (starred text) := by
  rwa [starred_eq_self (written.notMem (by decide))]

theorem cut_starred {base low high : List Char}
    (cut : Text.splitFirst? '-' base = some (low, high)) :
    Text.splitFirst? '-' (starred base) = some (starred low, starred high) := by
  rw [splitFirst?_starred (by decide), cut]
  rfl

theorem BaseStates.to_starred {base : List Char} {n : Nat} (states : BaseStates base n) :
    BaseStates (starred base) n := by
  cases states with
  | value written => exact .value written.to_starred
  | first cut written => exact .first (cut_starred cut) written.to_starred
  | last cut written => exact .last (cut_starred cut) written.to_starred

/-- A field that the engine takes states numbers in its range only. -/
theorem Fits.bounded {u : FieldRange} {word : List Char} (fits : Fits u word)
    (isWord : Text.IsWord word) {n : Nat} (states : States word n) : u.low ≤ n ∧ n ≤ u.high := by
  obtain ⟨values, isField⟩ := fits.reads
  obtain ⟨atom, member, states⟩ := states
  refine isField.bounded (solid_starred isWord)
    ⟨starred atom, ?_, baseOf_starred atom ▸ states.to_starred⟩
  rw [splitOn_starred]
  exact List.mem_map_of_mem member

/-! ### The numbers of renumbered weekdays -/

theorem BaseStates.of_whole {base : List Char} {n : Nat} (states : BaseStates base n)
    (whole : Text.splitFirst? '-' base = none) : Written n base := by
  cases states with
  | value written => exact written
  | first cut _ | last cut _ => simp [whole] at cut

theorem BaseStates.of_cut {base low high : List Char} {n : Nat} (states : BaseStates base n)
    (cut : Text.splitFirst? '-' base = some (low, high)) : Written n low ∨ Written n high := by
  have same : ∀ {low' high'}, Text.splitFirst? '-' base = some (low', high') →
      low = low' ∧ high = high' :=
    fun cut' => Prod.mk.inj (Option.some.inj (cut.symm.trans cut'))
  cases states with
  | value written => simp [splitFirst?_eq_none (written.notMem (c := '-') (by decide))] at cut
  | first cut' written =>
    obtain ⟨rfl, rfl⟩ := same cut'
    exact .inl written
  | last cut' written =>
    obtain ⟨rfl, rfl⟩ := same cut'
    exact .inr written

theorem Numeral.starred_eq {n : Nat} {text : List Char} (numeral : Numeral n (starred text)) :
    starred text = text :=
  starred_eq_self fun mark => numeral.notMem (c := '*') (by decide)
    (List.mem_map.mpr ⟨'?', mark, rfl⟩)

/-- A base that is kept as it is, though a number stands in it, is no base that the engine takes:
its numbers would be days, and renumbered. -/
theorem BaseStates.not_kept {base : List Char} {n : Nat} (states : BaseStates base n)
    (unread : (Text.splitFirst? '-' base = none ∧ dayNumber? base = none) ∨
      ∃ low high, Text.splitFirst? '-' base = some (low, high) ∧
      (dayNumber? low = none ∨ dayNumber? high = none))
    {item : Item} (valid : item.isValid .dayOfWeek = true)
    (spelled : BaseText .dayOfWeek item.base (starred base)) :
    False := by
  have read : ∀ {n text}, Numeral n (starred text) → n ≤ 7 → dayNumber? text = some n := by
    intro n text numeral week
    exact (numeral.starred_eq ▸ numeral).dayNumber? week
  obtain ⟨itemBase, step⟩ := item
  rcases unread with ⟨whole, other⟩ | ⟨low, high, cut, other⟩
  · obtain ⟨-, week⟩ := states.to_starred.bounded spelled valid
    have numeral := (spelled.value (states.of_whole whole).to_starred).2
    simp [read numeral week] at other
  · have ends := (states.of_cut cut).imp Written.to_starred Written.to_starred
    obtain ⟨first, last, rfl, start, stop⟩ := spelled.ends (cut_starred cut) ends
    simp only [Item.isValid, Bool.and_eq_true, decide_eq_true_eq] at valid
    have week : last ≤ 7 := valid.2.2
    simp [read start (valid.2.1.1.trans week), read stop week] at other

/-- Among the bases that take the place of a base, one states the engine's number of each day that
the base states, and that day has no more than 32 bits. -/
theorem Renumbered.states {base : List Char} {stepped : Bool} {bases : List (List Char)}
    (renumbered : Renumbered base stepped bases)
    (kept : base ∈ bases → ∃ item : Item, item.isValid .dayOfWeek = true ∧
      BaseText .dayOfWeek item.base (starred base))
    {n : Nat} (states : BaseStates base n) :
    n ≤ Text.max32 ∧ ∃ piece ∈ bases, BaseStates piece (shiftDay n) := by
  have numeral : ∀ n, Written n (Text.decimal n) := fun n => .inl (.decimal n)
  have cutAfter : ∀ n after, Text.splitFirst? '-' (Text.decimal n ++ '-' :: after) =
      some (Text.decimal n, after) :=
    fun n after => splitFirst?_append ((Numeral.decimal n).notMem (by decide)) after
  cases renumbered with
  | name whole other =>
    obtain ⟨item, valid, spelled⟩ := kept List.mem_cons_self
    exact (states.not_kept (.inl ⟨whole, other⟩) valid spelled).elim
  | names cut other =>
    obtain ⟨item, valid, spelled⟩ := kept List.mem_cons_self
    exact (states.not_kept (.inr ⟨_, _, cut, other⟩) valid spelled).elim
  | day whole number =>
    obtain ⟨rfl, small⟩ := (states.of_whole whole).eq_of_dayNumber? number
    exact ⟨small, _, List.mem_cons_self, .value (numeral _)⟩
  | days cut start stop _ =>
    rcases states.of_cut cut with written | written
    · obtain ⟨rfl, small⟩ := written.eq_of_dayNumber? start
      exact ⟨small, _, List.mem_cons_self, .first (cutAfter _ _) (numeral _)⟩
    · obtain ⟨rfl, small⟩ := written.eq_of_dayNumber? stop
      exact ⟨small, _, List.mem_cons_self, .last (cutAfter _ _) (numeral _)⟩
  | wrapped cut start stop _ _ =>
    rcases states.of_cut cut with written | written
    · obtain ⟨rfl, small⟩ := written.eq_of_dayNumber? start
      exact ⟨small, _, List.mem_cons_self, .first (cutAfter _ _) (numeral _)⟩
    · obtain ⟨rfl, small⟩ := written.eq_of_dayNumber? stop
      refine ⟨small, _, List.mem_cons_of_mem _ List.mem_cons_self, ?_⟩
      split
      · rename_i sunday
        rw [sunday]
        exact .value (.inl (by decide))
      · exact .last rfl (numeral _)

/-- The atoms of the renumbered field are those that take the place of the field's atoms: none of
them holds a comma. -/
theorem atoms_of_shiftWeekdays {field shifted : List Char}
    (renumbered : shiftWeekdays field = .ok shifted) :
    ∃ groups, List.Forall₂ (fun atom group => shiftAtom atom = .ok group)
      (Text.splitOn ',' field) groups ∧
      Text.splitOn ',' shifted = groups.flatten := by
  obtain ⟨groups, each, rfl⟩ := shiftWeekdays_inv renumbered
  refine ⟨groups, each, splitOn_intercalate ?_ fun piece inside found => ?_⟩
  · obtain ⟨atom, member⟩ := List.exists_mem_of_ne_nil _ (Text.pieces_ne_nil (· == ',') field)
    obtain ⟨group, grouped, shifted⟩ := exists_of_mem_right each.flip member
    obtain ⟨piece, pieces, rfl⟩ := List.exists_cons_of_ne_nil (present_of_shiftAtom shifted).1
    exact List.ne_nil_of_mem (List.mem_flatten.mpr ⟨_, grouped, List.mem_cons_self⟩)
  · obtain ⟨group, grouped, inside⟩ := List.mem_flatten.mp inside
    obtain ⟨atom, whole, shifted⟩ := exists_of_mem_right each grouped
    rcases mem_of_shiftAtom shifted inside found with uncut | other | digit
    · have cut := Text.not_cut_of_mem_pieces whole uncut
      simp at cut
    · simp at other
    · simp [Text.digit?] at digit

/-- No slash comes into the base of an atom that takes the place of another. -/
theorem Renumbered.baseOf_piece {base tail : List Char} {stepped : Bool} {bases : List (List Char)}
    (renumbered : Renumbered base stepped bases) (whole : '/' ∉ base) (ended : AtomEnd tail)
    {piece : List Char} (inside : piece ∈ bases) : baseOf (piece ++ tail) = piece := by
  refine baseOf_append (fun slash => ?_) ended
  rcases renumbered.mem inside slash with uncut | other | digit
  · exact whole uncut
  · simp at other
  · simp [Text.digit?] at digit

/-- A weekday that is stated before the renumbering is a number of 32 bits at most, and the engine's
number of it is stated afterwards. -/
theorem States.shifted {weekday weekday' : List Char} {n : Nat} (states : States weekday n)
    (renumbered : shiftWeekdays weekday = .ok weekday') (fits : Fits .dayOfWeek weekday')
    (isWord : Text.IsWord weekday') : n ≤ Text.max32 ∧ States weekday' (shiftDay n) := by
  obtain ⟨values, isField⟩ := fits.reads
  obtain ⟨groups, each, atoms⟩ := atoms_of_shiftWeekdays renumbered
  obtain ⟨atom, member, states⟩ := states
  obtain ⟨group, grouped, shifted⟩ := exists_of_mem_right each.flip member
  obtain ⟨base, tail, bases, rfl, whole, ended, renumbered, rfl⟩ := shiftAtom_inv shifted
  rw [baseOf_append whole ended] at states
  have placed : ∀ piece ∈ bases, piece ++ tail ∈ Text.splitOn ',' weekday' := by
    intro piece inside
    rw [atoms]
    exact List.mem_flatten.mpr ⟨_, grouped, List.mem_map_of_mem inside⟩
  have kept : base ∈ bases → ∃ item : Item, item.isValid .dayOfWeek = true ∧
      BaseText .dayOfWeek item.base (starred base) := by
    intro inside
    have member : starred (base ++ tail) ∈ Text.splitOn ',' (starred weekday') := by
      rw [splitOn_starred]
      exact List.mem_map_of_mem (placed base inside)
    obtain ⟨item, valid, spelled⟩ := isField.atom (solid_starred isWord) member
    rw [baseOf_starred, renumbered.baseOf_piece whole ended inside] at spelled
    exact ⟨item, valid, spelled⟩
  obtain ⟨small, piece, inside, stated⟩ := renumbered.states kept states
  refine ⟨small, piece ++ tail, placed piece inside, ?_⟩
  rwa [renumbered.baseOf_piece whole ended inside]

/-- A field that restricts nothing states nothing. -/
theorem not_states_of_isAnyDay {weekday : List Char} (any : isAnyDay weekday = true) {n : Nat} :
    ¬ States weekday n := by
  rintro ⟨atom, member, states⟩
  simp only [isAnyDay, Bool.or_eq_true, decide_eq_true_eq] at any
  rcases any with rfl | rfl <;> obtain rfl := List.mem_singleton.mp member <;>
    exact (states.of_whole rfl).notMem (by decide) List.mem_cons_self

/-- The numbers that an accepted Unix expression states lie in the ranges of its fields, where no
word begins or ends with a comma, a hyphen or a slash. All that holds of a weekday is that it has no
more than 32 bits: it is taken for the day that its remainder by seven is. -/
theorem stated_numbers_bounded {expression engine : String}
    {minute hour dayOfMonth month weekday : List Char}
    (words : Text.words expression.toList = [minute, hour, dayOfMonth, month, weekday])
    (unjoined : ∀ word ∈ [minute, hour, dayOfMonth, month, weekday], Unjoined word)
    (translated : toEngine expression = .ok engine) :
    (∀ n, States minute n → n ≤ 59) ∧ (∀ n, States hour n → n ≤ 23) ∧
      (∀ n, States dayOfMonth n → 1 ≤ n ∧ n ≤ 31) ∧ (∀ n, States month n → 1 ≤ n ∧ n ≤ 12) ∧
      ∃ weekday', (Text.words engine.toList)[5]? = some weekday' ∧
        ∀ n, States weekday n → n ≤ Text.max32 ∧ States weekday' (n % 7 + 1) := by
  have isWord : ∀ word ∈ [minute, hour, dayOfMonth, month, weekday], Text.IsWord word := by
    intro word member
    exact Text.isWord_of_mem_words (words ▸ member)
  simp only [List.forall_mem_cons] at isWord
  obtain ⟨minuteWord, hourWord, dayWord, monthWord, weekdayWord, -⟩ := isWord
  obtain ⟨dayOfMonth', weekday', days, words', isMinute, isHour, isDay, isMonth, isWeekday⟩ :=
    fits_of_toEngine words unjoined translated
  refine ⟨fun n states => (isMinute.bounded minuteWord states).2,
    fun n states => (isHour.bounded hourWord states).2,
    fun n states => isDay.bounded dayWord states, fun n states => isMonth.bounded monthWord states,
    weekday', by rw [words']; rfl, fun n states => ?_⟩
  rcases dayFields_cases days with ⟨any, -, -⟩ | ⟨-, renumbered, -⟩
  · exact absurd states (not_states_of_isAnyDay any)
  · exact states.shifted renumbered isWeekday (isWord_of_dayFields days dayWord weekdayWord).2

/-- Lists, ranges, steps and names in the first four fields, and weekdays 12 and 13, which are
Friday and Saturday. -/
theorem quarterHours_numbers_bounded :
    toEngine "*/15 9-17/2 1,15 jan-MAR 12-13" = .ok "0 */15 9-17/2 1,15 jan-MAR 6-7 *" ∧
      (∀ n, States "*/15".toList n → n ≤ 59) ∧ (∀ n, States "9-17/2".toList n → n ≤ 23) ∧
      (∀ n, States "1,15".toList n → 1 ≤ n ∧ n ≤ 31) ∧
      (∀ n, States "jan-MAR".toList n → 1 ≤ n ∧ n ≤ 12) ∧
      ∀ n, States "12-13".toList n → States "6-7".toList (n % 7 + 1) := by
  have translated :
      toEngine "*/15 9-17/2 1,15 jan-MAR 12-13" = .ok "0 */15 9-17/2 1,15 jan-MAR 6-7 *" := by
    decide +kernel
  have words : Text.words "*/15 9-17/2 1,15 jan-MAR 12-13".toList =
      ["*/15".toList, "9-17/2".toList, "1,15".toList, "jan-MAR".toList, "12-13".toList] := by
    decide +kernel
  obtain ⟨minute, hour, day, month, weekday', place, weekday⟩ :=
    stated_numbers_bounded words (by decide +kernel) translated
  have sixth : (Text.words "0 */15 9-17/2 1,15 jan-MAR 6-7 *".toList)[5]? = some "6-7".toList := by
    decide +kernel
  obtain rfl := Option.some.inj (sixth.symm.trans place)
  exact ⟨translated, minute, hour, day, month, fun n states => (weekday n states).2⟩

/-- There is no weekday 8, and an expression that states it is accepted, for Mondays. -/
theorem eighth_weekday_accepted :
    toEngine "0 0 * * 8" = .ok "0 0 0 ? * 2 *" ∧
      (Text.words "0 0 * * 8".toList)[4]? = some ['8'] ∧ States ['8'] 8 ∧ ¬ 8 ≤ 7 :=
  ⟨by decide +kernel, by decide +kernel,
    ⟨['8'], List.mem_singleton.mpr rfl, .value (.inl (by decide))⟩, by decide⟩

end Horarium.Cron
