/-
Module: Horarium.Proofs.UnixTranslation
Purpose: What the translation of Unix cron keeps. The minutes, hours, days of the month and months
  are those of the Unix fields, the seconds are zero and the years are all. The weekdays are those
  of the Unix field in the engine's numbers, but for a range from 0 to 7: both ends are Sunday to
  the engine, so of the whole week only Sunday is left.
Trusted boundary: none
Main exports: Cron.UnixPart.folded, Cron.UnixSchedule.Kept, Cron.UnixPart.IsWholeWeek,
  Cron.toEngine_keeps_meaning
-/
import Horarium.Cron.Unix
import Horarium.Proofs.FieldReading

namespace Horarium.Cron

/-! ### Fields that are taken over as they are -/

/-- The engine's field has the range of the Unix field, and knows its names. -/
structure UnixField.Fits (field : UnixField) (u : FieldRange) : Prop where
  low : field.low = u.low
  high : field.high = u.high
  small : u.high ≤ Text.max32
  names : ∀ entry ∈ field.names, u.names.lookup entry.1 = some entry.2
  letters : ∀ entry ∈ field.names, Letters entry.1.toList

theorem UnixField.fits_minute : UnixField.minute.Fits .minute := by
  constructor <;> decide

theorem UnixField.fits_hour : UnixField.hour.Fits .hour := by
  constructor <;> decide

theorem UnixField.fits_dayOfMonth : UnixField.dayOfMonth.Fits .dayOfMonth := by
  constructor <;> decide

theorem UnixField.fits_month : UnixField.month.Fits .month := by
  constructor <;> decide

theorem isAlpha_of_toLower {c : Char} (letter : c.toLower.isAlpha) : c.isAlpha := by
  unfold Char.toLower at letter
  split at letter
  · rename_i upper
    have capital : c.isUpper = true := decide_eq_true upper
    show (c.isUpper || c.isLower) = true
    rw [capital, Bool.true_or]
  · exact letter

theorem letters_of_lower {name : String} {text : List Char}
    (lower : String.ofList (text.map Char.toLower) = name) (letters : Letters name.toList) :
    Letters text := by
  subst lower
  simp only [Letters, String.toList_ofList, ne_eq, List.map_eq_nil_iff, List.mem_map,
    forall_exists_index, and_imp, forall_apply_eq_imp_iff₂] at letters
  exact ⟨letters.1, fun c member => isAlpha_of_toLower (letters.2 c member)⟩

theorem StepSpelling.item {step : Nat} {tail : List Char} (stepped : StepSpelling step tail) :
    ∃ itemStep, ItemStep itemStep tail ∧ itemStep.getD 1 = step := by
  cases stepped with
  | absent => exact ⟨none, .absent, rfl⟩
  | present numeral _ => exact ⟨some step, .present numeral, rfl⟩

/-- A part of a Unix field is spelled as an item of the engine that selects the same values. -/
theorem UnixField.Fits.item {field : UnixField} {u : FieldRange} (fits : field.Fits u)
    {part : UnixPart} {text : List Char} (spells : field.Spells part text) :
    ∃ item, ItemSpelling u item text ∧ ∀ v, item.admits u v = true ↔ part.Selects field v := by
  have small : ∀ {n}, n ≤ field.high → n ≤ Text.max32 := by
    intro n high
    rw [fits.high] at high
    exact high.trans fits.small
  have named : ∀ {n letters}, field.Named n letters → u.named? letters = some n ∧ Letters letters :=
    fun name => ⟨fits.names _ name, letters_of_lower rfl (fits.letters _ name)⟩
  cases spells with
  | all stepped =>
    obtain ⟨itemStep, itemStepped, rfl⟩ := stepped.item
    refine ⟨_, .all itemStepped, fun v => ?_⟩
    simp only [Item.admits_iff, Item.bounds, UnixPart.Selects, fits.low, fits.high]
  | value numeral low high =>
    refine ⟨_, .single numeral (small high), fun v => ?_⟩
    simp only [Item.admits_iff, Item.bounds, UnixPart.Selects]
    simp
    omega
  | name name =>
    obtain ⟨known, word⟩ := named name
    refine ⟨_, .name word known, fun v => ?_⟩
    simp only [Item.admits_iff, Item.bounds, UnixPart.Selects]
    simp
    omega
  | range start stop low order high stepped =>
    obtain ⟨itemStep, itemStepped, rfl⟩ := stepped.item
    refine ⟨_, .range start stop (small (order.trans high)) (small high) itemStepped, fun v => ?_⟩
    simp only [Item.admits_iff, Item.bounds, UnixPart.Selects]
  | nameRange start stop order =>
    obtain ⟨knownStart, wordStart⟩ := named start
    obtain ⟨knownStop, wordStop⟩ := named stop
    refine ⟨_, .nameRange wordStart wordStop knownStart knownStop, fun v => ?_⟩
    simp only [Item.admits_iff, Item.bounds, UnixPart.Selects, Option.getD_none]

/-- The pieces of a text between commas make up the text. -/
theorem intercalate_splitOn (text : List Char) :
    [','].intercalate (Text.splitOn ',' text) = text := by
  unfold Text.splitOn
  induction text with
  | nil => rfl
  | cons c cs ih =>
    obtain ⟨piece, pieces, found⟩ := List.exists_cons_of_ne_nil (Text.pieces_ne_nil (· == ',') cs)
    rw [found, intercalate_cons] at ih
    by_cases comma : c = ','
    · subst comma
      have cut : Text.pieces (· == ',') (',' :: cs) = [] :: piece :: pieces := by
        simp [Text.pieces, found]
      rw [cut, intercalate_cons, ← ih]
      simp
    · have uncut : Text.pieces (· == ',') (c :: cs) = (c :: piece) :: pieces := by
        simp [Text.pieces, found, comma]
      rw [uncut, intercalate_cons, ← ih, List.cons_append]

/-- Where every text that one relation pairs with a part is paired with an item that suits the part,
so are lists of them. -/
theorem exists_forall₂ {α β γ : Type} {R : α → β → Prop} {S : γ → β → Prop} {T : α → γ → Prop}
    {parts : List α} {texts : List β} (pairs : List.Forall₂ R parts texts)
    (each : ∀ {part text}, R part text → ∃ item, S item text ∧ T part item) :
    ∃ items, List.Forall₂ S items texts ∧ List.Forall₂ T parts items := by
  induction pairs with
  | nil => exact ⟨[], .nil, .nil⟩
  | cons pair _ ih =>
    obtain ⟨item, spelled, suits⟩ := each pair
    obtain ⟨items, spelledAll, suitsAll⟩ := ih
    exact ⟨item :: items, .cons spelled spelledAll, .cons suits suitsAll⟩

theorem UnixField.Reads.parts_ne_nil {field : UnixField} {parts : List UnixPart} {text : List Char}
    (reads : field.Reads parts text) : parts ≠ [] := by
  rintro rfl
  exact Text.pieces_ne_nil (· == ',') text (List.forall₂_nil_left_iff.mp reads)

/-- A Unix field is spelled as a field of the engine that selects the same values. -/
theorem UnixField.Fits.field {field : UnixField} {u : FieldRange} (fits : field.Fits u)
    {parts : List UnixPart} {text : List Char} (reads : field.Reads parts text) :
    ∃ items, FieldSpelling u items text ∧
      ∀ v, (∃ item ∈ items, item.admits u v = true) ↔ field.Selects parts v := by
  obtain ⟨items, spellings, same⟩ := exists_forall₂ reads fits.item
  refine ⟨items, ⟨?_, _, (intercalate_splitOn text).symm, spellings⟩, fun v => ?_⟩
  · rintro rfl
    exact reads.parts_ne_nil (List.forall₂_nil_right_iff.mp same)
  · clear spellings reads
    unfold UnixField.Selects
    induction same with
    | nil => simp
    | cons first _ ih => simp only [List.exists_mem_cons_iff, first, ih]

/-! ### Question marks -/

/-- The text with stars for question marks. -/
def starred (text : List Char) : List Char := text.map fun c => if c = '?' then '*' else c

theorem starred_eq_self {text : List Char} (unmarked : '?' ∉ text) : starred text = text := by
  unfold starred
  refine (List.map_congr_left fun c member => if_neg ?_).trans (List.map_id text)
  rintro rfl
  exact unmarked member

theorem mark_notMem_intercalate {texts : List (List Char)} (unmarked : ∀ text ∈ texts, '?' ∉ text) :
    '?' ∉ [','].intercalate texts := by
  have later : ∀ texts : List (List Char), (∀ text ∈ texts, '?' ∉ text) →
      '?' ∉ afterCommas texts := by
    intro texts unmarked
    simpa [afterCommas] using unmarked
  cases texts with
  | nil => simp [List.intercalate]
  | cons text texts =>
    rw [List.forall_mem_cons] at unmarked
    rw [intercalate_cons, List.mem_append, not_or]
    exact ⟨unmarked.1, later texts unmarked.2⟩

/-- What a relation says of the texts on its right is true of all of them. -/
theorem forall_of_forall₂_right {α : Type} {R : α → List Char → Prop} {parts : List α}
    {texts : List (List Char)} (pairs : List.Forall₂ R parts texts) {p : List Char → Prop}
    (each : ∀ {part text}, R part text → p text) :
    ∀ text ∈ texts, p text :=
  ((List.forall₂_and_left _ _).mp (pairs.flip.imp fun _ _ pair => ⟨each pair, pair⟩)).1

theorem FieldSpelling.mark_notMem {u : FieldRange} {items : List Item} {field : List Char}
    (spelling : FieldSpelling u items field) : '?' ∉ field := by
  have steps : ∀ {step tail}, ItemStep step tail → '?' ∉ tail := by
    rintro _ _ (_ | numeral)
    · simp
    · simpa using numeral.notMem (c := '?') (by decide)
  obtain ⟨-, texts, rfl, spellings⟩ := spelling
  refine mark_notMem_intercalate (forall_of_forall₂_right spellings ?_)
  rintro _ _
    (stepped | ⟨numeral, _⟩ | ⟨word, _⟩ | ⟨start, stop, _, _, stepped⟩ | ⟨word, word', _, _⟩)
  · simpa using steps stepped
  · exact numeral.notMem (by decide)
  · exact word.notMem (by decide)
  · simpa using ⟨start.notMem (c := '?') (by decide), stop.notMem (c := '?') (by decide),
      steps stepped⟩
  · simpa using ⟨word.notMem (c := '?') (by decide), word'.notMem (c := '?') (by decide)⟩

/-- No question mark stands in a field that consists of parts. -/
theorem UnixField.Reads.mark_notMem {field : UnixField} {parts : List UnixPart} {text : List Char}
    (letters : ∀ entry ∈ field.names, Letters entry.1.toList)
    (reads : field.Reads parts text) : '?' ∉ text := by
  have word : ∀ {n text}, field.Named n text → Letters text :=
    fun named => letters_of_lower rfl (letters _ named)
  have steps : ∀ {step tail}, StepSpelling step tail → '?' ∉ tail := by
    rintro _ _ (_ | ⟨numeral, _⟩)
    · simp
    · simpa using numeral.notMem (c := '?') (by decide)
  rw [← intercalate_splitOn text]
  refine mark_notMem_intercalate (forall_of_forall₂_right reads ?_)
  rintro _ _
    (stepped | ⟨numeral, _, _⟩ | named | ⟨start, stop, _, _, _, stepped⟩ | ⟨named, named', _⟩)
  · simpa using steps stepped
  · exact numeral.notMem (by decide)
  · exact (word named).notMem (by decide)
  · simpa using ⟨start.notMem (c := '?') (by decide), stop.notMem (c := '?') (by decide),
      steps stepped⟩
  · simpa using ⟨(word named).notMem (c := '?') (by decide),
      (word named').notMem (c := '?') (by decide)⟩

/-! ### Weekdays -/

/-- The part with the first and the last day taken for one: a range from one to the other is that
day. -/
def UnixPart.folded (part : UnixPart) : UnixPart :=
  match part with
  | .range first last step => if first = 0 ∧ last = 7 then .value 0 else .range first last step
  | part => part

theorem UnixPart.folded_range (first last step : Nat) : (UnixPart.range first last step).folded =
    if first = 0 ∧ last = 7 then .value 0 else .range first last step := rfl

theorem splitFirst?_append {separator : Char} {before : List Char} (absent : separator ∉ before)
    (after : List Char) :
    Text.splitFirst? separator (before ++ separator :: after) = some (before, after) := by
  induction before with
  | nil => simp [Text.splitFirst?]
  | cons c before ih =>
    rw [List.mem_cons, not_or] at absent
    have other : (c == separator) = false := beq_eq_false_iff_ne.mpr (Ne.symm absent.1)
    simp [Text.splitFirst?, other, ih absent.2]

theorem splitFirst?_eq_none {separator : Char} {text : List Char} (absent : separator ∉ text) :
    Text.splitFirst? separator text = none := by
  induction text with
  | nil => rfl
  | cons c text ih =>
    rw [List.mem_cons, not_or] at absent
    have other : (c == separator) = false := beq_eq_false_iff_ne.mpr (Ne.symm absent.1)
    simp [Text.splitFirst?, other, ih absent.2]

theorem shiftAtom_of_whole {atom : List Char} (whole : '/' ∉ atom) :
    shiftAtom atom = shiftRange atom atom false := by
  rw [shiftAtom, splitFirst?_eq_none whole]

/-- The step of an atom is set aside, and put behind each of the atoms that take its place. -/
theorem shiftAtom_append {base tail : List Char} {step : Nat} (whole : '/' ∉ base)
    (stepped : StepSpelling step tail) :
    shiftAtom (base ++ tail) =
      (shiftRange (base ++ tail) base (!tail.isEmpty)).map fun bases => bases.map (· ++ tail) := by
  cases stepped with
  | absent =>
    rw [List.append_nil, shiftAtom_of_whole whole, List.isEmpty_nil, Bool.not_true]
    cases shiftRange base base false <;> simp [Except.map]
  | present numeral _ =>
    rw [shiftAtom, splitFirst?_append whole]
    rfl

theorem dayNumber?_of_letters {text : List Char} (word : Letters text) :
    dayNumber? text = none := by
  obtain ⟨present, letters⟩ := word
  obtain ⟨c, cs, rfl⟩ := List.exists_cons_of_ne_nil present
  have letter := letters c List.mem_cons_self
  have unsigned : c ≠ '+' := by
    rintro rfl
    exact absurd letter (by decide)
  unfold dayNumber? Text.readNat?
  split
  · rename_i plus
    exact absurd (List.cons.inj plus).1 unsigned
  · simp [Text.readDigits?, digit?_of_letter letter]

theorem Numeral.dayNumber? {n : Nat} {digits : List Char} (numeral : Numeral n digits)
    (week : n ≤ 7) :
    dayNumber? digits = some n :=
  numeral.readNat? (week.trans (by decide))

theorem Numeral.ne_star {n : Nat} {digits : List Char} (numeral : Numeral n digits) :
    digits ≠ ['*'] := by
  rintro rfl
  exact numeral.notMem (c := '*') (by decide) (by simp)

theorem shiftRange_number {n : Nat} {digits : List Char} (numeral : Numeral n digits) (week : n ≤ 7)
    (atom : List Char) (stepped : Bool) :
    shiftRange atom digits stepped = .ok [Text.decimal (shiftDay n)] := by
  have whole := splitFirst?_eq_none (numeral.notMem (c := '-') (by decide))
  simp [shiftRange, numeral.ne_star, whole, numeral.dayNumber? week]

theorem shiftRange_range {first last : Nat} {digits digits' : List Char}
    (start : Numeral first digits) (stop : Numeral last digits') (weekStart : first ≤ 7)
    (weekStop : last ≤ 7) (atom : List Char) (stepped : Bool) :
    shiftRange atom (digits ++ '-' :: digits') stepped =
      if shiftDay last < shiftDay first then
        if stepped then .error (.wrappedStep (String.ofList atom))
        else .ok [Text.decimal (shiftDay first) ++ ['-', '7'],
          if shiftDay last = 1 then ['1'] else '1' :: '-' :: Text.decimal (shiftDay last)]
      else .ok [Text.decimal (shiftDay first) ++ '-' :: Text.decimal (shiftDay last)] := by
  have split := splitFirst?_append (start.notMem (c := '-') (by decide)) digits'
  have other : digits ++ '-' :: digits' ≠ ['*'] := by
    obtain ⟨c, cs, rfl⟩ := List.exists_cons_of_ne_nil start.1
    simp
  simp only [shiftRange, other, if_false, split, start.dayNumber? weekStart,
    stop.dayNumber? weekStop]

theorem shiftRange_name {letters : List Char} (word : Letters letters) (atom : List Char)
    (stepped : Bool) :
    shiftRange atom letters stepped = .ok [letters] := by
  have whole : Text.splitFirst? '-' letters = none := splitFirst?_eq_none (word.notMem (by decide))
  have other : letters ≠ ['*'] := by
    rintro rfl
    exact word.notMem (c := '*') (by decide) (by simp)
  simp [shiftRange, other, whole, dayNumber?_of_letters word]

theorem shiftRange_nameRange {letters letters' : List Char} (word : Letters letters)
    (atom : List Char) (stepped : Bool) :
    shiftRange atom (letters ++ '-' :: letters') stepped = .ok [letters ++ '-' :: letters'] := by
  have split := splitFirst?_append (word.notMem (c := '-') (by decide)) letters'
  have other : letters ++ '-' :: letters' ≠ ['*'] := by
    obtain ⟨c, cs, rfl⟩ := List.exists_cons_of_ne_nil word.1
    simp
  simp [shiftRange, other, split, dayNumber?_of_letters word]

/-- The engine's number of a name of a weekday. -/
theorem named?_of_weekday {n : Nat} {letters : List Char}
    (named : UnixField.weekday.Named n letters) :
    FieldRange.dayOfWeek.named? letters = some (shiftDay n) ∧ Letters letters ∧ n ≤ 7 := by
  have known : ∀ entry ∈ UnixField.weekday.names,
      FieldRange.dayOfWeek.names.lookup entry.1 = some (shiftDay entry.2) ∧
      Letters entry.1.toList ∧ entry.2 ≤ 7 := by decide
  obtain ⟨number, letters, week⟩ := known _ named
  exact ⟨number, letters_of_lower rfl letters, week⟩

/-- The items select the weekdays that the part selects, in the engine's numbers. -/
def SelectsWeekdays (part : UnixPart) (items : List Item) : Prop :=
  (∀ item ∈ items, item.isValid .dayOfWeek = true) → ∀ w,
    (∃ item ∈ items, item.admits .dayOfWeek w = true) ↔
      ∃ d, part.folded.Selects .weekday d ∧ w = shiftDay d

theorem shiftDay_le (n : Nat) : shiftDay n ≤ 7 := by
  unfold shiftDay
  omega

theorem shiftDay_le_max32 (n : Nat) : shiftDay n ≤ Text.max32 := (shiftDay_le n).trans (by decide)

theorem selectsWeekdays_single {part : UnixPart} {item : Item}
    (same : item.isValid .dayOfWeek = true → ∀ w, item.admits .dayOfWeek w = true ↔
      ∃ d, part.folded.Selects .weekday d ∧ w = shiftDay d) : SelectsWeekdays part [item] := by
  intro valid w
  simpa using same (valid item (by simp)) w

theorem selects_all_iff {step w : Nat} : (1 ≤ w ∧ w ≤ 7 ∧ step ∣ w - 1) ↔
    ∃ d, (UnixPart.all step).folded.Selects .weekday d ∧ w = shiftDay d := by
  simp only [UnixPart.folded, UnixPart.Selects, UnixField.weekday, shiftDay, Nat.zero_le, true_and,
    Nat.sub_zero]
  constructor
  · rintro ⟨low, high, steps⟩
    exact ⟨w - 1, ⟨by omega, steps⟩, by omega⟩
  · rintro ⟨d, ⟨high, steps⟩, rfl⟩
    refine ⟨by omega, by omega, ?_⟩
    -- The last day is the first day again, which every step reaches.
    rcases Nat.lt_or_eq_of_le high with inside | rfl
    · rwa [Nat.mod_eq_of_lt inside, Nat.add_sub_cancel]
    · simp

/-- A range that does not run over the end of the engine's week selects the same days. -/
theorem selects_range_iff {first last step w : Nat} (order : first ≤ last) (week : last ≤ 7)
    (forward : shiftDay first ≤ shiftDay last) :
    (shiftDay first ≤ w ∧ w ≤ shiftDay last ∧ step ∣ w - shiftDay first) ↔
      ∃ d, (UnixPart.range first last step).folded.Selects .weekday d ∧ w = shiftDay d := by
  rw [UnixPart.folded_range]
  by_cases whole : first = 0 ∧ last = 7
  · obtain ⟨rfl, rfl⟩ := whole
    simp only [and_self, if_true, UnixPart.Selects, exists_eq_left]
    constructor
    · rintro ⟨low, high, _⟩
      exact le_antisymm high low
    · rintro rfl
      exact ⟨le_rfl, le_rfl, by simp⟩
  · rw [if_neg whole]
    simp only [UnixPart.Selects]
    by_cases sunday : first = 7
    · obtain rfl : last = 7 := by omega
      subst sunday
      constructor
      · rintro ⟨low, high, _⟩
        exact ⟨7, ⟨le_rfl, le_rfl, by simp⟩, le_antisymm high low⟩
      · rintro ⟨d, ⟨low, high, _⟩, rfl⟩
        obtain rfl : d = 7 := le_antisymm high low
        exact ⟨le_rfl, le_rfl, by simp⟩
    · have inside : last < 7 := by
        unfold shiftDay at forward
        omega
      have number : ∀ {d}, d < 7 → shiftDay d = d + 1 := fun bound => by
        rw [shiftDay, Nat.mod_eq_of_lt bound]
      rw [number (order.trans_lt inside), number inside]
      constructor
      · rintro ⟨low, high, steps⟩
        refine ⟨w - 1, ⟨by omega, by omega, ?_⟩, ?_⟩
        · rwa [Nat.sub_sub, Nat.add_comm 1 first]
        · rw [number (by omega), Nat.sub_add_cancel (by omega)]
      · rintro ⟨d, ⟨low, high, steps⟩, rfl⟩
        rw [number (high.trans_lt inside)]
        exact ⟨by omega, by omega, by rwa [Nat.add_sub_add_right]⟩

/-- A range that runs over the end of the engine's week selects the days up to the end, and
Sunday. -/
theorem selects_wrapped_iff {first w : Nat} (week : first ≤ 7)
    (wraps : shiftDay 7 < shiftDay first) :
    (∃ item ∈ [(⟨.range (shiftDay first) 7, none⟩ : Item), ⟨.single 1, none⟩],
        item.admits .dayOfWeek w = true) ↔
      ∃ d, (UnixPart.range first 7 1).folded.Selects .weekday d ∧ w = shiftDay d := by
  have number : shiftDay first = first + 1 ∧ first ≠ 0 := by
    unfold shiftDay at wraps ⊢
    omega
  have unfolded : ¬ (first = 0 ∧ 7 = 7) := fun whole => number.2 whole.1
  rw [UnixPart.folded_range, if_neg unfolded]
  simp only [List.exists_mem_cons_iff, List.not_mem_nil, false_and, exists_false, or_false,
    Item.admits_iff, Item.bounds, Option.isSome_none, Bool.false_eq_true, if_false,
    Option.getD_none, Nat.one_dvd, and_true, UnixPart.Selects, number.1]
  constructor
  · rintro (⟨low, high⟩ | ⟨low, high⟩)
    · refine ⟨w - 1, ⟨by omega, by omega⟩, ?_⟩
      unfold shiftDay
      omega
    · exact ⟨7, ⟨week, le_rfl⟩, le_antisymm high low⟩
  · rintro ⟨d, ⟨low, high⟩, rfl⟩
    unfold shiftDay
    omega

/-- An atom of the weekday field stands for items that select the same days. -/
theorem shiftAtom_items {part : UnixPart} {text : List Char} {atoms : List (List Char)}
    (spells : UnixField.weekday.Spells part text) (shifted : shiftAtom text = .ok atoms) :
    ∃ items, items ≠ [] ∧ List.Forall₂ (ItemSpelling .dayOfWeek) items atoms ∧
      SelectsWeekdays part items := by
  cases spells with
  | @all step tail stepped =>
    obtain ⟨itemStep, itemStepped, rfl⟩ := stepped.item
    have kept : shiftAtom (['*'] ++ tail) = .ok [['*'] ++ tail] := by
      rw [shiftAtom_append (by decide) stepped]
      rfl
    obtain rfl := Except.ok.inj (kept.symm.trans shifted)
    refine ⟨[⟨.all, itemStep⟩], by simp, .cons (.all itemStepped) .nil, ?_⟩
    refine selectsWeekdays_single fun _ w => ?_
    rw [Item.admits_iff, ← selects_all_iff]
    rfl
  | @value n digits numeral low high =>
    rw [shiftAtom_of_whole (numeral.notMem (by decide)), shiftRange_number numeral high] at shifted
    obtain rfl := Except.ok.inj shifted
    refine ⟨[⟨.single (shiftDay n), none⟩], by simp,
      .cons (.single (.decimal _) (shiftDay_le_max32 n)) .nil, ?_⟩
    refine selectsWeekdays_single fun _ w => ?_
    simp [Item.admits_iff, Item.bounds, UnixPart.folded, UnixPart.Selects]
    omega
  | @name n letters named =>
    obtain ⟨known, word, _⟩ := named?_of_weekday named
    rw [shiftAtom_of_whole (word.notMem (by decide)), shiftRange_name word] at shifted
    obtain rfl := Except.ok.inj shifted
    refine ⟨[⟨.single (shiftDay n), none⟩], by simp, .cons (.name word known) .nil, ?_⟩
    refine selectsWeekdays_single fun _ w => ?_
    simp [Item.admits_iff, Item.bounds, UnixPart.folded, UnixPart.Selects]
    omega
  | @range first last step digits digits' tail start stop low order high stepped =>
    have whole : '/' ∉ digits ++ '-' :: digits' := by
      simpa using ⟨start.notMem (c := '/') (by decide), stop.notMem (c := '/') (by decide)⟩
    have joined : digits ++ '-' :: (digits' ++ tail) = (digits ++ '-' :: digits') ++ tail := by simp
    rw [joined, shiftAtom_append whole stepped, shiftRange_range start stop (order.trans high) high]
      at shifted
    split at shifted
    · rename_i wraps
      cases stepped with
      | absent =>
        obtain rfl := Except.ok.inj shifted
        have week : last ≤ 7 := high
        obtain rfl : last = 7 := by
          unfold shiftDay at wraps
          omega
        refine ⟨[⟨.range (shiftDay first) 7, none⟩, ⟨.single 1, none⟩], by simp, ?_, ?_⟩
        · have seven : Numeral 7 ['7'] := by decide
          have spelling := ItemSpelling.range (u := .dayOfWeek) (.decimal (shiftDay first)) seven
            (shiftDay_le_max32 first) (by decide) .absent
          have sunday : ItemSpelling .dayOfWeek ⟨.single 1, none⟩ ['1'] :=
            .single (by decide) (by decide)
          exact .cons (by simpa using spelling) (.cons sunday .nil)
        · intro _ w
          exact selects_wrapped_iff order wraps
      | present numeral positive => simp [Except.map] at shifted
    · rename_i backward
      have forward := Nat.le_of_not_lt backward
      obtain ⟨itemStep, itemStepped, rfl⟩ := stepped.item
      obtain rfl := Except.ok.inj shifted
      refine ⟨[⟨.range (shiftDay first) (shiftDay last), itemStep⟩], by simp, ?_, ?_⟩
      · have spelling := ItemSpelling.range (u := .dayOfWeek) (.decimal (shiftDay first))
          (.decimal (shiftDay last)) (shiftDay_le_max32 first) (shiftDay_le_max32 last) itemStepped
        simpa using spelling
      · refine selectsWeekdays_single fun _ w => ?_
        rw [Item.admits_iff, ← selects_range_iff order high forward]
        rfl
  | @nameRange first last letters letters' start stop order =>
    obtain ⟨knownStart, wordStart, _⟩ := named?_of_weekday start
    obtain ⟨knownStop, wordStop, week⟩ := named?_of_weekday stop
    have whole : '/' ∉ letters ++ '-' :: letters' := by
      simpa using ⟨wordStart.notMem (c := '/') (by decide), wordStop.notMem (c := '/') (by decide)⟩
    rw [shiftAtom_of_whole whole, shiftRange_nameRange wordStart] at shifted
    obtain rfl := Except.ok.inj shifted
    refine ⟨[⟨.range (shiftDay first) (shiftDay last), none⟩], by simp,
      .cons (.nameRange wordStart wordStop knownStart knownStop) .nil, ?_⟩
    refine selectsWeekdays_single fun valid w => ?_
    have forward : shiftDay first ≤ shiftDay last := by
      simp only [Item.isValid, Bool.and_eq_true, decide_eq_true_eq] at valid
      exact valid.2.1.1
    rw [Item.admits_iff, ← selects_range_iff order week forward]
    rfl

theorem shiftAtoms_cons_inv {atom : List Char} {atoms shifted : List (List Char)}
    (renumbered : shiftAtoms (atom :: atoms) = .ok shifted) :
    ∃ first rest, shiftAtom atom = .ok first ∧ shiftAtoms atoms = .ok rest ∧
      shifted = first ++ rest := by
  unfold shiftAtoms at renumbered
  cases one : shiftAtom atom with
  | error _ => simp [one, bind, Except.bind] at renumbered
  | ok first =>
    cases others : shiftAtoms atoms with
    | error _ => simp [one, others, bind, Except.bind] at renumbered
    | ok rest =>
      simp only [one, others, bind, Except.bind, pure, Except.pure, Except.ok.injEq] at renumbered
      exact ⟨first, rest, rfl, rfl, renumbered.symm⟩

/-- The renumbered atoms of the weekday field stand for items that select the same days, by
induction on the parts of the field. -/
theorem shiftAtoms_items {parts : List UnixPart} {texts atoms : List (List Char)}
    (spells : List.Forall₂ UnixField.weekday.Spells parts texts)
    (shifted : shiftAtoms texts = .ok atoms) :
    ∃ items, List.Forall₂ (ItemSpelling .dayOfWeek) items atoms ∧ (parts ≠ [] → items ≠ []) ∧
      ((∀ item ∈ items, item.isValid .dayOfWeek = true) → ∀ w,
        (∃ item ∈ items, item.admits .dayOfWeek w = true) ↔
          ∃ d, UnixField.weekday.Selects (parts.map UnixPart.folded) d ∧ w = shiftDay d) := by
  induction spells generalizing atoms with
  | nil =>
    obtain rfl := Except.ok.inj shifted
    exact ⟨[], .nil, fun absent => absurd rfl absent, fun _ w => by simp [UnixField.Selects]⟩
  | @cons part text parts texts first _ ih =>
    obtain ⟨atoms₁, atoms₂, shiftedFirst, shiftedRest, rfl⟩ := shiftAtoms_cons_inv shifted
    obtain ⟨items₁, present, spelled₁, selects₁⟩ := shiftAtom_items first shiftedFirst
    obtain ⟨items₂, spelled₂, -, selects₂⟩ := ih shiftedRest
    refine ⟨items₁ ++ items₂, List.rel_append spelled₁ spelled₂, fun _ => by simp [present], ?_⟩
    intro valid w
    have inFirst := selects₁ (fun item member => valid item (List.mem_append_left _ member)) w
    have inRest := selects₂ (fun item member => valid item (List.mem_append_right _ member)) w
    simp only [List.mem_append, or_and_right, exists_or, inFirst, inRest, UnixField.Selects,
      List.map_cons, List.exists_mem_cons_iff]

/-- The renumbered weekday field is a field of the engine that selects the same days. -/
theorem shiftWeekdays_field {parts : List UnixPart} {field shifted : List Char}
    (reads : UnixField.weekday.Reads parts field) (translated : shiftWeekdays field = .ok shifted) :
    ∃ items, FieldSpelling .dayOfWeek items shifted ∧
      ((∀ item ∈ items, item.isValid .dayOfWeek = true) → ∀ w,
        (∃ item ∈ items, item.admits .dayOfWeek w = true) ↔
          ∃ d, UnixField.weekday.Selects (parts.map UnixPart.folded) d ∧ w = shiftDay d) := by
  unfold shiftWeekdays at translated
  cases shiftedAtoms : shiftAtoms (Text.splitOn ',' field) with
  | error _ => simp [shiftedAtoms, bind, Except.bind] at translated
  | ok atoms =>
    simp only [shiftedAtoms, bind, Except.bind, pure, Except.pure, Except.ok.injEq] at translated
    obtain ⟨items, spelled, present, selects⟩ := shiftAtoms_items reads shiftedAtoms
    exact ⟨items, ⟨present reads.parts_ne_nil, atoms, translated.symm, spelled⟩, selects⟩

/-! ### The whole expression -/

/-- A day field with stars for question marks, which stand for any day. -/
theorem UnixField.ReadsDay.starred {field : UnixField} {parts : List UnixPart} {text : List Char}
    (letters : ∀ entry ∈ field.names, Letters entry.1.toList)
    (reads : field.ReadsDay parts text) : field.Reads parts (starred text) := by
  rcases reads with reads | ⟨rfl, rfl⟩
  · rwa [starred_eq_self (reads.mark_notMem letters)]
  · exact .cons (.all .absent) .nil

theorem starred_of_isAnyDay {text : List Char} (any : isAnyDay text = true) :
    starred text = ['*'] := by
  simp only [isAnyDay, Bool.or_eq_true, decide_eq_true_eq] at any
  rcases any with rfl | rfl <;> rfl

/-- What becomes of the day fields: one of them is a question mark or each of them restricts the
days. -/
theorem dayFields_cases {dayOfMonth weekday dayOfMonth' weekday' : List Char}
    (translated : dayFields dayOfMonth weekday = .ok (dayOfMonth', weekday')) :
    (isAnyDay weekday = true ∧ weekday' = ['?'] ∧ dayOfMonth' = if dayOfMonth = ['?'] then ['*']
      else dayOfMonth) ∨
      isAnyDay weekday = false ∧ shiftWeekdays weekday = .ok weekday' ∧
        dayOfMonth' = if isAnyDay dayOfMonth then ['?'] else dayOfMonth := by
  unfold dayFields at translated
  split at translated
  · rename_i any
    obtain ⟨rfl, rfl⟩ := Prod.mk.inj (Except.ok.inj translated)
    exact .inl ⟨any, rfl, rfl⟩
  · rename_i some
    cases shifted : shiftWeekdays weekday with
    | error _ => simp [shifted, bind, Except.bind] at translated
    | ok shifted' =>
      simp only [shifted, bind, Except.bind, pure, Except.pure, Except.ok.injEq, Prod.mk.injEq]
        at translated
      obtain ⟨rfl, rfl⟩ := translated
      exact .inr ⟨by simpa using some, rfl, rfl⟩

theorem starred_dayOfMonth {dayOfMonth weekday dayOfMonth' weekday' : List Char}
    (translated : dayFields dayOfMonth weekday = .ok (dayOfMonth', weekday')) :
    starred dayOfMonth' = starred dayOfMonth := by
  rcases dayFields_cases translated with ⟨-, -, rfl⟩ | ⟨-, -, rfl⟩
  · split
    · rename_i mark
      rw [mark]
      rfl
    · rfl
  · split
    · rename_i any
      rw [starred_of_isAnyDay any]
      rfl
    · rfl

/-- Up to question marks, the day of the month is kept and the weekdays are renumbered. -/
theorem dayFields_inv {dayOfMonth dayOfWeek dayOfMonth' dayOfWeek' : List Char}
    (unmarked : isAnyDay dayOfWeek = false → '?' ∉ dayOfWeek)
    (translated : dayFields dayOfMonth dayOfWeek = .ok (dayOfMonth', dayOfWeek')) :
    starred dayOfMonth' = starred dayOfMonth ∧
      ∃ shifted, shiftWeekdays (starred dayOfWeek) = .ok shifted ∧
        starred dayOfWeek' = starred shifted := by
  refine ⟨starred_dayOfMonth translated, ?_⟩
  rcases dayFields_cases translated with ⟨any, rfl, -⟩ | ⟨some, shifted, -⟩
  · exact ⟨['*'], by rw [starred_of_isAnyDay any]; rfl, rfl⟩
  · exact ⟨_, by rwa [starred_eq_self (unmarked some)], rfl⟩

/-- Every name of a schedule begins with an at sign. -/
theorem Schedule.ofShorthand?_eq_none {text : String} (other : text.toList.head? ≠ some '@') :
    Schedule.ofShorthand? text = none := by
  unfold Schedule.ofShorthand?
  dsimp only
  split
  all_goals first
    | rfl
    | exact absurd rfl other

theorem trimGaps_prefix {c : Char} {cs : List Char} (solid : isGap c = false) :
    trimGaps (c :: cs) <+: c :: cs := by
  unfold trimGaps
  rw [skipGap_of_not_gap solid]
  exact List.rdropWhile_prefix isGap _

/-- What begins with a digit is no name of a schedule. -/
theorem Schedule.ofShorthand?_digit {c : Char} (digit : (Text.digit? c).isSome) (cs : List Char) :
    Schedule.ofShorthand? (String.ofList (trimGaps (starred (c :: cs)))) = none := by
  refine Schedule.ofShorthand?_eq_none fun at_sign => ?_
  have kept : starred (c :: cs) = c :: starred cs := by
    have unmarked : c ≠ '?' := by
      rintro rfl
      exact absurd digit (by decide)
    simp [starred, unmarked]
  rw [String.toList_ofList, kept] at at_sign
  obtain ⟨rest, trimmed⟩ : trimGaps (c :: starred cs) <+: c :: starred cs :=
    trimGaps_prefix (startsField_of_digit digit).not_gap
  cases found : trimGaps (c :: starred cs) with
  | nil => simp [found] at at_sign
  | cons d ds =>
    rw [found] at trimmed at_sign
    obtain ⟨rfl, _⟩ := List.cons.inj trimmed
    obtain rfl : d = '@' := by simpa using at_sign
    exact absurd digit (by decide)

/-- A schedule that begins with a digit is read field by field, with stars for question marks, once
none of its words divides by a step of zero. -/
theorem Schedule.parse_eq_ok_iff {c : Char} {cs : List Char} {schedule : Schedule}
    (digit : (Text.digit? c).isSome) :
    Schedule.parse (String.ofList (c :: cs)) = .ok schedule ↔
      (∀ word ∈ Text.words (c :: cs), Schedule.hasZeroStep word = false) ∧
        Schedule.ofFields? (starred (c :: cs)) = some schedule := by
  have normal : ((c :: cs).map fun c => if c = '?' then '*' else c) = starred (c :: cs) := rfl
  unfold Schedule.parse
  simp only [String.toList_ofList, normal, Schedule.ofShorthand?_digit digit cs, Option.none_or]
  cases zero : (Text.words (c :: cs)).find? Schedule.hasZeroStep with
  | some word =>
    refine iff_of_false (by simp) fun accepted => ?_
    have steps := List.find?_some zero
    rw [accepted.1 word (List.mem_of_find?_eq_some zero)] at steps
    simp at steps
  | none =>
    have steps : ∀ word ∈ Text.words (c :: cs), Schedule.hasZeroStep word = false := by
      simpa using List.find?_eq_none.mp zero
    cases read : Schedule.ofFields? (starred (c :: cs)) with
    | none => simp
    | some found => simpa using fun _ => steps

/-- What the translation of five fields comes from. -/
theorem toEngine_inv {expression engine : String} {minute hour dayOfMonth month weekday : List Char}
    (words : Text.words expression.toList = [minute, hour, dayOfMonth, month, weekday])
    (translated : toEngine expression = .ok engine) :
    ∃ dayOfMonth' weekday' schedule, dayFields dayOfMonth weekday = .ok (dayOfMonth', weekday') ∧
      engine = String.ofList
        ([' '].intercalate [['0'], minute, hour, dayOfMonth', month, weekday', ['*']]) ∧
      Schedule.parse engine = .ok schedule := by
  unfold toEngine engineForm at translated
  simp only [words, ofUnix] at translated
  cases days : dayFields dayOfMonth weekday with
  | error _ => simp [days, bind, Except.bind] at translated
  | ok fields =>
    obtain ⟨dayOfMonth', weekday'⟩ := fields
    simp only [days, bind, Except.bind, pure, Except.pure] at translated
    split at translated
    · simp at translated
    · rename_i schedule parsed
      obtain rfl := Except.ok.inj translated
      exact ⟨dayOfMonth', weekday', schedule, rfl, rfl, parsed⟩

/-- The schedule has the times and the days of the month of the Unix fields, in every year and in
the first second of the minute. -/
structure UnixSchedule.Kept (unix : UnixSchedule) (schedule : Schedule) : Prop where
  seconds : schedule.seconds = [0]
  minutes : ∀ v, v ∈ schedule.minutes ↔ UnixField.minute.Selects unix.minutes v
  hours : ∀ v, v ∈ schedule.hours ↔ UnixField.hour.Selects unix.hours v
  daysOfMonth : ∀ v, v ∈ schedule.daysOfMonth ↔ UnixField.dayOfMonth.Selects unix.daysOfMonth v
  months : ∀ v, v ∈ schedule.months ↔ UnixField.month.Selects unix.months v
  years : schedule.years = FieldRange.year.all

/-- The weekdays of the schedule are those of the Unix field. -/
def UnixSchedule.WeekdaysKept (unix : UnixSchedule) (schedule : Schedule) : Prop :=
  ∀ w, w ∈ schedule.daysOfWeek ↔ ∃ d, UnixField.weekday.Selects unix.weekdays d ∧ w = d % 7 + 1

theorem starred_fields (second minute hour dayOfMonth month dayOfWeek year : List Char) :
    starred ([' '].intercalate [second, minute, hour, dayOfMonth, month, dayOfWeek, year]) =
      [' '].intercalate [starred second, starred minute, starred hour, starred dayOfMonth,
        starred month, starred dayOfWeek, starred year] := by
  simp [starred, List.intercalate]

/-- The translation keeps every field, but for weekday ranges from 0 to 7, which count as Sunday
alone. -/
theorem UnixSchedule.Spells.translated {unix : UnixSchedule} {expression engine : String}
    (spells : unix.Spells expression) (translated : toEngine expression = .ok engine) :
    ∃ schedule, Schedule.parse engine = .ok schedule ∧ unix.Kept schedule ∧
      ∀ w, w ∈ schedule.daysOfWeek ↔
        ∃ d, UnixField.weekday.Selects (unix.weekdays.map UnixPart.folded) d ∧ w = shiftDay d := by
  obtain @⟨minute, hour, dayOfMonth, month, weekday, words, minutes, hours, daysOfMonth, months,
    weekdays⟩ := spells
  obtain ⟨dayOfMonth', weekday', schedule, days, rfl, parsed⟩ := toEngine_inv words translated
  refine ⟨schedule, parsed, ?_⟩
  have letters : ∀ entry ∈ UnixField.weekday.names, Letters entry.1.toList := by decide
  have unmarked : isAnyDay weekday = false → '?' ∉ weekday := by
    intro restricted
    rcases weekdays with reads | ⟨rfl, _⟩
    · exact reads.mark_notMem letters
    · simp [isAnyDay] at restricted
  obtain ⟨keptDay, shifted, shiftedWeekday, starredWeekday⟩ := dayFields_inv unmarked days
  -- Every field is spelled out by items of the engine.
  obtain ⟨minuteItems, spelledMinute, selectsMinute⟩ := UnixField.fits_minute.field minutes
  obtain ⟨hourItems, spelledHour, selectsHour⟩ := UnixField.fits_hour.field hours
  obtain ⟨dayItems, spelledDay, selectsDay⟩ :=
    UnixField.fits_dayOfMonth.field (daysOfMonth.starred UnixField.fits_dayOfMonth.letters)
  obtain ⟨monthItems, spelledMonth, selectsMonth⟩ := UnixField.fits_month.field months
  obtain ⟨weekdayItems, spelledWeekday, selectsWeekday⟩ :=
    shiftWeekdays_field (weekdays.starred letters) shiftedWeekday
  have spelledSecond : FieldSpelling .second [⟨.single 0, none⟩] ['0'] :=
    ⟨by simp, [['0']], rfl, .cons (.single (by decide) (by decide)) .nil⟩
  have spelledYear : FieldSpelling .year [⟨.all, none⟩] ['*'] :=
    ⟨by simp, [['*']], rfl, .cons (.all .absent) .nil⟩
  have starredText := starred_fields ['0'] minute hour dayOfMonth' month weekday' ['*']
  rw [starred_eq_self spelledMinute.mark_notMem, starred_eq_self spelledHour.mark_notMem, keptDay,
    starred_eq_self spelledMonth.mark_notMem, starredWeekday,
      starred_eq_self spelledWeekday.mark_notMem]
    at starredText
  have spelling :
      Schedule.Spelling [⟨.single 0, none⟩] minuteItems hourItems dayItems monthItems weekdayItems
        [⟨.all, none⟩]
        (starred ([' '].intercalate [['0'], minute, hour, dayOfMonth', month, weekday', ['*']])) :=
    ⟨_, _, _, _, _, _, _, starredText, spelledSecond, spelledMinute, spelledHour, spelledDay,
      spelledMonth, spelledWeekday, spelledYear⟩
  have read := ((Schedule.parse_eq_ok_iff (c := '0') (by decide)).mp parsed).2
  obtain ⟨second, minute, hour, day, month, weekday, year⟩ := spelling.values read
  have onTheMinute : FieldRange.second.values? [⟨.single 0, none⟩] = some [0] := by decide
  have everyYear : FieldRange.year.values? [⟨.all, none⟩] = some FieldRange.year.all := by
    decide +kernel
  obtain ⟨validWeekday, inWeekday⟩ := FieldRange.values?_inv weekday
  refine ⟨⟨?_, ?_, ?_, ?_, ?_, ?_⟩, fun w => (inWeekday w).trans (selectsWeekday validWeekday w)⟩
  · exact (Option.some.inj (onTheMinute.symm.trans second)).symm
  · exact fun v => ((FieldRange.values?_inv minute).2 v).trans (selectsMinute v)
  · exact fun v => ((FieldRange.values?_inv hour).2 v).trans (selectsHour v)
  · exact fun v => ((FieldRange.values?_inv day).2 v).trans (selectsDay v)
  · exact fun v => ((FieldRange.values?_inv month).2 v).trans (selectsMonth v)
  · exact (Option.some.inj (everyYear.symm.trans year)).symm

/-- A range from the first to the last day of the week, both of which are Sunday. -/
def UnixPart.IsWholeWeek (part : UnixPart) : Prop := ∃ step, part = .range 0 7 step

theorem UnixPart.folded_of_whole {part : UnixPart} (whole : part.IsWholeWeek) :
    part.folded = .value 0 := by
  obtain ⟨step, rfl⟩ := whole
  rfl

theorem UnixPart.folded_of_not_whole {part : UnixPart} (other : ¬ part.IsWholeWeek) :
    part.folded = part := by
  cases part with
  | all step => rfl
  | value n => rfl
  | range first last step =>
    rw [UnixPart.folded_range, if_neg]
    rintro ⟨rfl, rfl⟩
    exact other ⟨step, rfl⟩

/-- The parts of the weekday field select days from 0 to 7. -/
theorem UnixField.Spells.le_seven {part : UnixPart} {text : List Char} {d : Nat}
    (spells : UnixField.weekday.Spells part text) (selects : part.Selects .weekday d) : d ≤ 7 := by
  cases spells with
  | all _ => exact selects.2.1
  | value _ _ high =>
    obtain rfl : d = _ := selects
    exact high
  | name named =>
    obtain rfl : d = _ := selects
    exact (named?_of_weekday named).2.2
  | range _ _ _ _ high _ => exact selects.2.1.trans high
  | nameRange _ stop _ => exact selects.2.1.trans (named?_of_weekday stop).2.2

theorem UnixField.ReadsDay.le_seven {parts : List UnixPart} {text : List Char} {d : Nat}
    (reads : UnixField.weekday.ReadsDay parts text) (selects : UnixField.weekday.Selects parts d) :
    d ≤ 7 := by
  obtain ⟨part, member, selects⟩ := selects
  rcases reads with reads | ⟨-, rfl⟩
  · have bounded : ∀ part ∈ parts, ∀ d, part.Selects .weekday d → d ≤ 7 :=
      ((List.forall₂_and_left parts _).mp
        (reads.imp fun _ _ spells => ⟨fun _ => spells.le_seven, spells⟩)).1
    exact bounded part member d selects
  · obtain rfl : part = .all 1 := by simpa using member
    exact selects.2.1

/-- With ranges over the whole week taken for Sunday, the days are the same exactly if the other
parts select the days that are missing. -/
theorem folded_selects_iff {parts : List UnixPart}
    (week : ∀ d, UnixField.weekday.Selects parts d → d ≤ 7) :
    (∀ w, (∃ d, UnixField.weekday.Selects (parts.map UnixPart.folded) d ∧ w = shiftDay d) ↔
        ∃ d, UnixField.weekday.Selects parts d ∧ w = shiftDay d) ↔
      ∀ step, UnixPart.range 0 7 step ∈ parts → ∀ d, 1 ≤ d → d ≤ 6 → step ∣ d →
        ∃ part ∈ parts, ¬ part.IsWholeWeek ∧ part.Selects .weekday d := by
  simp only [UnixField.Selects, List.mem_map, exists_exists_and_eq_and] at week ⊢
  constructor
  · intro same step whole d low high steps
    obtain ⟨d', ⟨part, member, selects⟩, equal⟩ := (same (shiftDay d)).mpr
      ⟨d, ⟨_, whole, by omega, by omega, by simpa using steps⟩, rfl⟩
    by_cases wholePart : part.IsWholeWeek
    · rw [UnixPart.folded_of_whole wholePart] at selects
      obtain rfl : d' = 0 := selects
      unfold shiftDay at equal
      omega
    · rw [UnixPart.folded_of_not_whole wholePart] at selects
      have bound := week d' ⟨part, member, selects⟩
      obtain rfl : d = d' := by
        unfold shiftDay at equal
        omega
      exact ⟨part, member, wholePart, selects⟩
  · intro covered w
    constructor
    · rintro ⟨d, ⟨part, member, selects⟩, rfl⟩
      by_cases whole : part.IsWholeWeek
      · rw [UnixPart.folded_of_whole whole] at selects
        obtain rfl : d = 0 := selects
        obtain ⟨step, rfl⟩ := whole
        exact ⟨0, ⟨_, member, le_rfl, by omega, by simp⟩, rfl⟩
      · rw [UnixPart.folded_of_not_whole whole] at selects
        exact ⟨d, ⟨part, member, selects⟩, rfl⟩
    · rintro ⟨d, ⟨part, member, selects⟩, rfl⟩
      by_cases whole : part.IsWholeWeek
      · obtain ⟨step, rfl⟩ := whole
        obtain ⟨-, high, steps⟩ := selects
        by_cases sunday : d % 7 = 0
        · refine ⟨0, ⟨_, member, rfl⟩, ?_⟩
          rw [shiftDay, sunday, shiftDay]
        · obtain ⟨part, member', other, selects⟩ :=
            covered step member d (by omega) (by omega) (by simpa using steps)
          exact ⟨d, ⟨part, member', by rwa [UnixPart.folded_of_not_whole other]⟩, rfl⟩
      · exact ⟨d, ⟨part, member, by rwa [UnixPart.folded_of_not_whole whole]⟩, rfl⟩

/-- What the translation of five well-formed fields denotes: the seconds are zero, the years are all
and the minutes, hours, days of the month and months are kept. The weekdays are kept exactly if each
weekday that a range from 0 to 7 selects is also selected by a part that is no such range. -/
theorem toEngine_keeps_meaning {unix : UnixSchedule} {expression engine : String}
    (spells : unix.Spells expression) (translated : toEngine expression = .ok engine) :
    ∃ schedule, Schedule.parse engine = .ok schedule ∧ unix.Kept schedule ∧
      (unix.WeekdaysKept schedule ↔
        ∀ step, UnixPart.range 0 7 step ∈ unix.weekdays → ∀ d, 1 ≤ d → d ≤ 6 → step ∣ d →
          ∃ part ∈ unix.weekdays, ¬ part.IsWholeWeek ∧ part.Selects .weekday d) := by
  obtain ⟨schedule, parsed, kept, weekdays⟩ := spells.translated translated
  obtain ⟨-, -, -, -, -, readsWeekday⟩ := spells
  refine ⟨schedule, parsed, kept, ?_⟩
  rw [← folded_selects_iff fun d => readsWeekday.le_seven]
  exact forall_congr' fun w => by rw [weekdays w]; rfl

/-- Every quarter of the odd hours from nine to five, on two days of the first three months, from
Friday to Sunday. -/
def quarterlyShift : UnixSchedule where
  minutes := [.all 15]
  hours := [.range 9 17 2]
  daysOfMonth := [.value 1, .value 15]
  months := [.range 1 3 1]
  weekdays := [.range 5 7 1]

theorem quarterlyShift_kept : quarterlyShift.Spells "*/15 9-17/2 1,15 jan-MAR 5-7" ∧
    toEngine "*/15 9-17/2 1,15 jan-MAR 5-7" = .ok "0 */15 9-17/2 1,15 jan-MAR 6-7,1 *" ∧
    ∃ schedule, Schedule.parse "0 */15 9-17/2 1,15 jan-MAR 6-7,1 *" = .ok schedule ∧
      quarterlyShift.Kept schedule ∧ quarterlyShift.WeekdaysKept schedule := by
  have minutes : UnixField.minute.Spells (.all 15) ['*', '/', '1', '5'] :=
    .all (.present (by decide) (by decide))
  have hours : UnixField.hour.Spells (.range 9 17 2) (['9'] ++ '-' :: (['1', '7'] ++ ['/', '2'])) :=
    .range (by decide) (by decide) (by decide) (by decide) (by decide)
      (.present (by decide) (by decide))
  have days : UnixField.dayOfMonth.Spells (.value 1) ['1'] ∧
      UnixField.dayOfMonth.Spells (.value 15) ['1', '5'] :=
    ⟨.value (by decide) (by decide) (by decide), .value (by decide) (by decide) (by decide)⟩
  have months : UnixField.month.Spells (.range 1 3 1) ("jan".toList ++ '-' :: "MAR".toList) :=
    .nameRange (by decide +kernel) (by decide +kernel) (by decide)
  have weekdays : UnixField.weekday.Spells (.range 5 7 1) (['5'] ++ '-' :: (['7'] ++ [])) :=
    .range (by decide) (by decide) (by decide) (by decide) (by decide) .absent
  have words : Text.words "*/15 9-17/2 1,15 jan-MAR 5-7".toList = [['*', '/', '1', '5'],
      ['9', '-', '1', '7', '/', '2'], ['1', ',', '1', '5'], "jan-MAR".toList, ['5', '-', '7']] := by
    decide +kernel
  have spells : quarterlyShift.Spells "*/15 9-17/2 1,15 jan-MAR 5-7" :=
    .fields words (.cons minutes .nil) (.cons hours .nil) (.inl (.cons days.1 (.cons days.2 .nil)))
      (.cons months .nil) (.inl (.cons weekdays .nil))
  have translated :
      toEngine "*/15 9-17/2 1,15 jan-MAR 5-7" = .ok "0 */15 9-17/2 1,15 jan-MAR 6-7,1 *" := by
    decide +kernel
  obtain ⟨schedule, parsed, kept, weekdays⟩ := toEngine_keeps_meaning spells translated
  exact ⟨spells, translated, schedule, parsed, kept,
    weekdays.mpr fun step whole => by simp [quarterlyShift] at whole⟩

/-- Midnight of every day from Sunday to Sunday. -/
def everyMidnight : UnixSchedule where
  minutes := [.value 0]
  hours := [.value 0]
  daysOfMonth := [.all 1]
  months := [.all 1]
  weekdays := [.range 0 7 1]

/-- Of the days from Sunday to Sunday, the translation keeps Sunday alone. -/
theorem everyMidnight_fires_on_sundays : everyMidnight.Spells "0 0 * * 0-7" ∧
    toEngine "0 0 * * 0-7" = .ok "0 0 0 ? * 1-1 *" ∧
    ∃ schedule, Schedule.parse "0 0 0 ? * 1-1 *" = .ok schedule ∧ schedule.daysOfWeek = [1] ∧
      ¬ everyMidnight.WeekdaysKept schedule := by
  have zero : UnixField.minute.Spells (.value 0) ['0'] ∧ UnixField.hour.Spells (.value 0) ['0'] :=
    ⟨.value (by decide) (by decide) (by decide), .value (by decide) (by decide) (by decide)⟩
  have star : ∀ field : UnixField, field.Reads [.all 1] ['*'] := fun _ => .cons (.all .absent) .nil
  have week : UnixField.weekday.Spells (.range 0 7 1) (['0'] ++ '-' :: (['7'] ++ [])) :=
    .range (by decide) (by decide) (by decide) (by decide) (by decide) .absent
  have words : Text.words "0 0 * * 0-7".toList = [['0'], ['0'], ['*'], ['*'], ['0', '-', '7']] := by
    decide +kernel
  have spells : everyMidnight.Spells "0 0 * * 0-7" :=
    .fields words (.cons zero.1 .nil) (.cons zero.2 .nil) (.inl (star _)) (star _)
      (.inl (.cons week .nil))
  have sunday : Schedule.parse "0 0 0 ? * 1-1 *" =
      .ok ⟨[0], [0], [0], FieldRange.dayOfMonth.all, FieldRange.month.all, [1],
        FieldRange.year.all⟩ := by
    decide +kernel
  refine ⟨spells, by decide +kernel, _, sunday, rfl, fun kept => ?_⟩
  have monday :=
    (kept 2).mpr ⟨1, ⟨_, List.mem_singleton_self _, by decide, by decide, by decide⟩, rfl⟩
  simp at monday

end Horarium.Cron
