/-
Module: Horarium.Proofs.FieldwiseAcceptance
Purpose: Unix expressions are accepted field by field: an expression none of whose words begins or
  ends with a comma, a hyphen or a slash is accepted exactly if each of its words is, with stars in
  place of the others. Words that do run together in the engine's grammar, and then an expression is
  accepted although one of its words is refused.
Trusted boundary: none
Main exports: Cron.Unjoined, Cron.Fits, Cron.engineWords, Cron.accepted_iff_each_alone
-/
import Horarium.Proofs.EngineForms
import Horarium.Proofs.FieldBoundaries

namespace Horarium.Cron

/-! ### Words that run together with no other -/

/-- A text that begins with no joiner. -/
def Begins (text : List Char) : Prop := ∃ c ∈ text.head?, c ∉ joiners

/-- A text that ends with no joiner. -/
def Ends (text : List Char) : Prop := ∃ c ∈ text.getLast?, c ∉ joiners

instance (text : List Char) : Decidable (Begins text) :=
  decidable_of_iff ((text.head?.any fun c => decide (c ∉ joiners)) = true)
    (by simp [Begins, Option.any_eq_true])

instance (text : List Char) : Decidable (Ends text) :=
  decidable_of_iff ((text.getLast?.any fun c => decide (c ∉ joiners)) = true)
    (by simp [Ends, Option.any_eq_true])

/-- A text that neither begins nor ends with a joiner. -/
structure Unjoined (text : List Char) : Prop where
  begins : Begins text
  ends : Ends text

instance (text : List Char) : Decidable (Unjoined text) :=
  decidable_of_iff (Begins text ∧ Ends text)
    ⟨fun ⟨begins, ends⟩ => ⟨begins, ends⟩, fun ⟨begins, ends⟩ => ⟨begins, ends⟩⟩

theorem begins_append_joiner {joiner : Char} (joins : joiner ∈ joiners) (front back : List Char) :
    Begins (front ++ joiner :: back) ↔ Begins front := by
  cases front with
  | nil => simp [Begins, joins]
  | cons c front => rfl

theorem ends_append_joiner {joiner : Char} (joins : joiner ∈ joiners) (front back : List Char) :
    Ends (front ++ joiner :: back) ↔ Ends back := by
  unfold Ends
  rw [List.getLast?_append, List.getLast?_cons, Option.some_or]
  cases back.getLast? with
  | none => simp [joins]
  | some c => rfl

theorem digit?_of_joiner {c : Char} (joins : c ∈ joiners) : Text.digit? c = none := by
  simp only [joiners, List.mem_cons, List.not_mem_nil, or_false] at joins
  rcases joins with rfl | rfl | rfl <;> rfl

theorem Numeral.begins {n : Nat} {digits : List Char} (numeral : Numeral n digits) :
    Begins digits := by
  obtain ⟨c, digits, rfl⟩ := List.exists_cons_of_ne_nil numeral.1
  refine ⟨c, rfl, fun joins => ?_⟩
  have digit := numeral.isSome_digit? c List.mem_cons_self
  simp [digit?_of_joiner joins] at digit

theorem Numeral.ends {n : Nat} {digits : List Char} (numeral : Numeral n digits) : Ends digits := by
  refine ⟨digits.getLast numeral.1, List.getLast?_eq_some_getLast numeral.1, fun joins => ?_⟩
  have digit := numeral.isSome_digit? _ (List.getLast_mem numeral.1)
  simp [digit?_of_joiner joins] at digit

/-- The renumbered days begin and end as the days do. -/
theorem Renumbered.unjoined {base : List Char} {stepped : Bool} {bases : List (List Char)}
    (renumbered : Renumbered base stepped bases) {piece : List Char} (member : piece ∈ bases) :
    (Begins base → Begins piece) ∧ (Ends base → Ends piece) := by
  have joins : '-' ∈ joiners := by decide
  have begins : ∀ n, Begins (Text.decimal n) := fun n => (Numeral.decimal n).begins
  have ends : ∀ n, Ends (Text.decimal n) := fun n => (Numeral.decimal n).ends
  cases renumbered with
  | name _ _ | names _ _ =>
    obtain rfl := List.mem_singleton.mp member
    exact ⟨id, id⟩
  | day _ _ =>
    obtain rfl := List.mem_singleton.mp member
    exact ⟨fun _ => begins _, fun _ => ends _⟩
  | days _ _ _ _ =>
    obtain rfl := List.mem_singleton.mp member
    exact ⟨fun _ => (begins_append_joiner joins _ _).mpr (begins _),
      fun _ => (ends_append_joiner joins _ _).mpr (ends _)⟩
  | wrapped _ _ _ _ _ =>
    rcases List.mem_cons.mp member with rfl | last
    · exact ⟨fun _ => (begins_append_joiner joins _ _).mpr (begins _),
        fun _ => (ends_append_joiner joins _ ['7']).mpr (by decide)⟩
    · obtain rfl := List.mem_singleton.mp last
      split
      · exact ⟨fun _ => by decide, fun _ => by decide⟩
      · exact ⟨fun _ => (begins_append_joiner joins ['1'] _).mpr (by decide),
          fun _ => (ends_append_joiner joins ['1'] _).mpr (ends _)⟩

theorem unjoined_of_shiftAtom {atom : List Char} {atoms : List (List Char)}
    (shifted : shiftAtom atom = .ok atoms) {piece : List Char} (member : piece ∈ atoms) :
    (Begins atom → Begins piece) ∧ (Ends atom → Ends piece) := by
  obtain ⟨base, tail, bases, rfl, -, ended, renumbered, rfl⟩ := shiftAtom_inv shifted
  obtain ⟨front, first, rfl⟩ := List.mem_map.mp member
  obtain ⟨begins, ends⟩ := renumbered.unjoined first
  cases ended with
  | absent => simpa using ⟨begins, ends⟩
  | slash step =>
    have joins : '/' ∈ joiners := by decide
    simpa only [begins_append_joiner joins, ends_append_joiner joins] using ⟨begins, id⟩

theorem intercalate_append {front back : List (List Char)} (first : front ≠ []) (last : back ≠ []) :
    [','].intercalate (front ++ back) = [','].intercalate front ++
      ',' :: [','].intercalate back := by
  obtain ⟨text, texts, rfl⟩ := List.exists_cons_of_ne_nil first
  obtain ⟨text', texts', rfl⟩ := List.exists_cons_of_ne_nil last
  simp [intercalate_cons, afterCommas]

theorem begins_intercalate (text : List Char) (texts : List (List Char)) :
    Begins ([','].intercalate (text :: texts)) ↔ Begins text := by
  cases texts with
  | nil => rw [List.intercalate_singleton]
  | cons next texts =>
    rw [intercalate_cons, afterCommas_cons]
    exact begins_append_joiner (by decide) _ _

theorem begins_shiftWeekdays {field shifted : List Char}
    (renumbered : shiftWeekdays field = .ok shifted) (begins : Begins field) : Begins shifted := by
  obtain ⟨groups, each, rfl⟩ := shiftWeekdays_inv renumbered
  rw [← intercalate_splitOn field] at begins
  generalize Text.splitOn ',' field = atoms at each begins
  cases each with
  | nil => simp [Begins, List.intercalate] at begins
  | cons first _ =>
    obtain ⟨piece, pieces, rfl⟩ := List.exists_cons_of_ne_nil (present_of_shiftAtom first).1
    rw [List.flatten_cons, List.cons_append, begins_intercalate]
    exact (unjoined_of_shiftAtom first List.mem_cons_self).1 ((begins_intercalate _ _).mp begins)

theorem ends_intercalate {texts : List (List Char)} (present : texts ≠ [])
    (each : ∀ text ∈ texts, Ends text) :
    Ends ([','].intercalate texts) := by
  induction texts with
  | nil => exact absurd rfl present
  | cons text texts ih =>
    rw [List.forall_mem_cons] at each
    cases texts with
    | nil => simpa using each.1
    | cons next texts =>
      have later := ih (List.cons_ne_nil _ _) each.2
      rwa [List.intercalate_cons_cons, List.append_assoc, List.singleton_append,
        ends_append_joiner (by decide)]

/-- The last atom of a list ends the list, and so does the last of the pieces that take its
place. -/
theorem ends_intercalate_flatten {atoms : List (List Char)} {groups : List (List (List Char))}
    (each : List.Forall₂ (fun atom group => shiftAtom atom = .ok group) atoms groups)
    (ends : Ends ([','].intercalate atoms)) :
    groups.flatten ≠ [] ∧ Ends ([','].intercalate groups.flatten) := by
  have comma : ',' ∈ joiners := by decide
  induction each with
  | nil => simp [Ends, List.intercalate] at ends
  | @cons atom group atoms groups first others ih =>
    have present := (present_of_shiftAtom first).1
    cases others with
    | nil =>
      rw [List.intercalate_singleton] at ends
      rw [List.flatten_cons, List.flatten_nil, List.append_nil]
      exact ⟨present,
        ends_intercalate present fun piece member => (unjoined_of_shiftAtom first member).2 ends⟩
    | cons next others =>
      rw [List.intercalate_cons_cons, List.append_assoc, List.singleton_append,
        ends_append_joiner comma] at ends
      obtain ⟨more, ends⟩ := ih ends
      rw [List.flatten_cons, intercalate_append present more, ends_append_joiner comma]
      exact ⟨by simp [present], ends⟩

theorem unjoined_shiftWeekdays {field shifted : List Char}
    (renumbered : shiftWeekdays field = .ok shifted) (unjoined : Unjoined field) :
    Unjoined shifted := by
  refine ⟨begins_shiftWeekdays renumbered unjoined.begins, ?_⟩
  obtain ⟨groups, each, rfl⟩ := shiftWeekdays_inv renumbered
  have ends := unjoined.ends
  rw [← intercalate_splitOn field] at ends
  exact (ends_intercalate_flatten each ends).2

theorem isBlank_of_isGap {c : Char} (gap : isGap c = true) : Text.isBlank c = true := by
  simp only [isGap, Bool.or_eq_true, decide_eq_true_eq] at gap
  rcases gap with ((rfl | rfl) | rfl) | rfl <;> decide

theorem solid_starred {word : List Char} (isWord : Text.IsWord word) : Solid (starred word) := by
  intro c member
  obtain ⟨c, inside, rfl⟩ := List.mem_map.mp member
  split
  · decide
  · refine Bool.eq_false_iff.mpr fun gap => ?_
    have blank := isBlank_of_isGap gap
    rw [isWord.solid c inside] at blank
    simp at blank

/-- A word that begins and ends with no joiner runs together with no other, also with stars for its
question marks. -/
theorem Unjoined.apart {word : List Char} (isWord : Text.IsWord word) (unjoined : Unjoined word) :
    Apart (starred word) := by
  obtain ⟨⟨first, begins, free⟩, last, ends, free'⟩ := unjoined
  rw [Option.mem_def] at begins ends
  have kept : ∀ c : Char, c ∉ joiners → (if c = '?' then '*' else c) ∉ joiners := by
    intro c free
    split
    · decide
    · exact free
  have solid := solid_starred isWord
  refine ⟨⟨solid, fun c found => ?_⟩, ?_⟩
  · rw [starred, List.getLast?_map, ends, Option.map_some] at found
    obtain rfl := Option.some.inj found
    exact kept last free'
  · obtain ⟨cs, rfl⟩ := List.head?_eq_some_iff.mp begins
    refine ⟨_, starred cs, rfl, ?_⟩
    have free := kept first free
    have solid := solid _ List.mem_cons_self
    simp only [joiners, isGap, List.mem_cons, List.not_mem_nil, or_false, not_or,
      Bool.or_eq_false_iff, decide_eq_false_iff_not] at free solid
    simp only [StartsField, List.mem_cons, List.not_mem_nil, or_false, not_or]
    exact ⟨solid.1.1.1, solid.1.1.2, solid.1.2, solid.2, free⟩

/-! ### Acceptance -/

/-- A word that the engine takes for a field: no item of it divides by a step of zero, and with
stars for its question marks it is read to its end. -/
structure Fits (u : FieldRange) (word : List Char) : Prop where
  steps : Schedule.hasZeroStep word = false
  reads : ∃ values, IsField (u, values) (starred word)

/-- The engine's weekday field. -/
def weekdayForm (weekday : List Char) : Except Reason (List Char) :=
  if isAnyDay weekday then .ok ['?'] else shiftWeekdays weekday

theorem dayFields_of_weekdayForm {weekday weekday' : List Char}
    (formed : weekdayForm weekday = .ok weekday') (dayOfMonth : List Char) :
    ∃ dayOfMonth', dayFields dayOfMonth weekday = .ok (dayOfMonth', weekday') := by
  unfold weekdayForm at formed
  unfold dayFields
  split at formed
  · rename_i any
    obtain rfl := Except.ok.inj formed
    exact ⟨_, if_pos any⟩
  · rename_i some
    rw [if_neg some, formed]
    exact ⟨_, rfl⟩

theorem weekdayForm_of_dayFields {dayOfMonth weekday dayOfMonth' weekday' : List Char}
    (translated : dayFields dayOfMonth weekday = .ok (dayOfMonth', weekday')) :
    weekdayForm weekday = .ok weekday' := by
  unfold weekdayForm
  rcases dayFields_cases translated with ⟨any, rfl, -⟩ | ⟨some, shifted, -⟩
  · rw [if_pos any]
  · rw [if_neg (by simpa using some), shifted]

theorem hasZeroStep_of_isAnyDay {word : List Char} (any : isAnyDay word = true) :
    Schedule.hasZeroStep word = false := by
  simp only [isAnyDay, Bool.or_eq_true, decide_eq_true_eq] at any
  rcases any with rfl | rfl <;> decide

theorem unjoined_of_isAnyDay {word : List Char} (any : isAnyDay word = true) : Unjoined word := by
  simp only [isAnyDay, Bool.or_eq_true, decide_eq_true_eq] at any
  rcases any with rfl | rfl <;> decide

/-- The engine's day of the month takes the place of the Unix field, or of a field that restricts
nothing. -/
theorem dayOfMonth_kept {dayOfMonth weekday dayOfMonth' weekday' : List Char}
    (translated : dayFields dayOfMonth weekday = .ok (dayOfMonth', weekday')) :
    dayOfMonth' = dayOfMonth ∨ isAnyDay dayOfMonth = true ∧ isAnyDay dayOfMonth' = true := by
  rcases dayFields_cases translated with ⟨-, -, rfl⟩ | ⟨-, -, rfl⟩
  · split
    · rename_i mark
      exact .inr ⟨by rw [mark]; decide, by decide⟩
    · exact .inl rfl
  · split
    · rename_i any
      exact .inr ⟨any, by decide⟩
    · exact .inl rfl

theorem fits_dayOfMonth_iff {dayOfMonth weekday dayOfMonth' weekday' : List Char}
    (translated : dayFields dayOfMonth weekday = .ok (dayOfMonth', weekday')) :
    Fits .dayOfMonth dayOfMonth' ↔ Fits .dayOfMonth dayOfMonth := by
  rcases dayOfMonth_kept translated with rfl | ⟨any, any'⟩
  · rfl
  · have same := starred_dayOfMonth translated
    constructor <;> rintro ⟨_, reads⟩
    · exact ⟨hasZeroStep_of_isAnyDay any, same ▸ reads⟩
    · exact ⟨hasZeroStep_of_isAnyDay any', same ▸ reads⟩

theorem unjoined_of_weekdayForm {weekday weekday' : List Char}
    (formed : weekdayForm weekday = .ok weekday') (unjoined : Unjoined weekday) :
    Unjoined weekday' := by
  unfold weekdayForm at formed
  split at formed
  · obtain rfl := Except.ok.inj formed
    decide
  · exact unjoined_shiftWeekdays formed unjoined

/-- The seven words of the engine expression of five fields. -/
def engineWords (minute hour dayOfMonth month weekday : List Char) : List (List Char) :=
  [['0'], minute, hour, dayOfMonth, month, weekday, ['*']]

section EngineWords

variable {minute hour dayOfMonth month weekday : List Char}

theorem engineWords_spec
    (each : ∀ word ∈ [minute, hour, dayOfMonth, month, weekday], Text.IsWord word ∧ Unjoined word) :
    ∀ word ∈ engineWords minute hour dayOfMonth month weekday, Text.IsWord word ∧
      Unjoined word := by
  have zero : Text.IsWord ['0'] ∧ Unjoined ['0'] := by decide
  have star : Text.IsWord ['*'] ∧ Unjoined ['*'] := by decide
  intro word member
  rcases List.mem_cons.mp member with rfl | member
  · exact zero
  · rcases List.mem_append.mp
        (show word ∈ [minute, hour, dayOfMonth, month, weekday] ++ [['*']] from member) with
      inside | last
    · exact each word inside
    · obtain rfl := List.mem_singleton.mp last
      exact star

/-- The engine expression of five words that stand apart denotes the schedule whose fields the seven
words are. -/
theorem parse_engineWords_iff
    (each : ∀ word ∈ [minute, hour, dayOfMonth, month, weekday], Text.IsWord word ∧ Unjoined word)
    {schedule : Schedule} :
    Schedule.parse
      (String.ofList ([' '].intercalate (engineWords minute hour dayOfMonth month weekday))) =
        .ok schedule ↔
      (∀ word ∈ engineWords minute hour dayOfMonth month weekday,
        Schedule.hasZeroStep word = false) ∧
        List.Forall₂ IsField schedule.fields
          ((engineWords minute hour dayOfMonth month weekday).map starred) := by
  have spec := engineWords_spec each
  have words := Text.words_intercalate fun word member => (spec word member).1
  have apart : ∀ word ∈ (engineWords minute hour dayOfMonth month weekday).map starred,
      Apart word := by
    intro word member
    obtain ⟨word, inside, rfl⟩ := List.mem_map.mp member
    exact (spec word inside).2.apart (spec word inside).1
  have stars : starred ([' '].intercalate (engineWords minute hour dayOfMonth month weekday)) =
      [' '].intercalate ((engineWords minute hour dayOfMonth month weekday).map starred) :=
    starred_fields ['0'] minute hour dayOfMonth month weekday ['*']
  have shape : [' '].intercalate (engineWords minute hour dayOfMonth month weekday) =
      '0' :: ' ' :: [' '].intercalate [minute, hour, dayOfMonth, month, weekday, ['*']] :=
        join_cons ['0'] minute _
  rw [shape] at words stars ⊢
  rw [Schedule.parse_eq_ok_iff (by decide), words, stars, Schedule.ofFields?_join_iff rfl apart]

/-- It denotes a schedule exactly if each of the five words fits. -/
theorem exists_parse_engineWords_iff
    (each : ∀ word ∈ [minute, hour, dayOfMonth, month, weekday], Text.IsWord word ∧ Unjoined word) :
    (∃ schedule, Schedule.parse
        (String.ofList ([' '].intercalate (engineWords minute hour dayOfMonth month weekday))) =
          .ok schedule) ↔
      Fits .minute minute ∧ Fits .hour hour ∧ Fits .dayOfMonth dayOfMonth ∧ Fits .month month ∧
        Fits .dayOfWeek weekday := by
  simp only [parse_engineWords_iff each]
  constructor
  · rintro ⟨schedule, steps, fields⟩
    simp only [engineWords, List.forall_mem_cons] at steps
    simp only [Schedule.fields, engineWords, List.map_cons, List.forall₂_cons] at fields
    obtain ⟨-, minute, hour, dayOfMonth, month, weekday, -⟩ := steps
    obtain ⟨-, minutes, hours, daysOfMonth, months, daysOfWeek, -⟩ := fields
    exact ⟨⟨minute, _, minutes⟩, ⟨hour, _, hours⟩, ⟨dayOfMonth, _, daysOfMonth⟩, ⟨month, _, months⟩,
      ⟨weekday, _, daysOfWeek⟩⟩
  · rintro ⟨⟨minute, minutes, isMinute⟩, ⟨hour, hours, isHour⟩, ⟨day, days, isDay⟩,
      ⟨month, months, isMonth⟩, ⟨weekday, weekdays, isWeekday⟩⟩
    have zero : Schedule.hasZeroStep ['0'] = false := by decide
    have star : Schedule.hasZeroStep ['*'] = false := by decide
    have second : IsField (.second, [0]) (starred ['0']) := by unfold IsField; decide
    have year : IsField (.year, FieldRange.year.all) (starred ['*']) := by
      unfold IsField; decide +kernel
    refine ⟨⟨[0], minutes, hours, days, months, weekdays, FieldRange.year.all⟩, ?_, ?_⟩
    · simp [engineWords, zero, star, minute, hour, day, month, weekday]
    · exact .cons second (.cons isMinute (.cons isHour (.cons isDay (.cons isMonth (.cons isWeekday
        (.cons year .nil))))))

end EngineWords

/-- The words of the engine's day fields stand apart where those of the Unix fields do. -/
theorem unjoined_dayFields {minute hour dayOfMonth month weekday dayOfMonth' weekday' : List Char}
    (translated : dayFields dayOfMonth weekday = .ok (dayOfMonth', weekday'))
    (each : ∀ word ∈ [minute, hour, dayOfMonth, month, weekday], Text.IsWord word ∧ Unjoined word) :
    ∀ word ∈ [minute, hour, dayOfMonth', month, weekday'], Text.IsWord word ∧ Unjoined word := by
  simp only [List.forall_mem_cons, List.not_mem_nil, false_imp_iff, implies_true,
    and_true] at each ⊢
  obtain ⟨isMinute, isHour, ⟨isDay, apartDay⟩, isMonth, isWeekday, apartWeekday⟩ := each
  obtain ⟨isDay', isWeekday'⟩ := isWord_of_dayFields translated isDay isWeekday
  have apartDay' : Unjoined dayOfMonth' := by
    rcases dayOfMonth_kept translated with rfl | ⟨-, any⟩
    · exact apartDay
    · exact unjoined_of_isAnyDay any
  exact ⟨isMinute, isHour, ⟨isDay', apartDay'⟩, isMonth, isWeekday',
    unjoined_of_weekdayForm (weekdayForm_of_dayFields translated) apartWeekday⟩

/-- The fields of an expression of five words that stand apart, if it is accepted: all but the
weekdays are words of its own, and the weekdays are renumbered. -/
theorem fits_of_toEngine {expression engine : String}
    {minute hour dayOfMonth month weekday : List Char}
    (words : Text.words expression.toList = [minute, hour, dayOfMonth, month, weekday])
    (unjoined : ∀ word ∈ [minute, hour, dayOfMonth, month, weekday], Unjoined word)
    (translated : toEngine expression = .ok engine) :
    ∃ dayOfMonth' weekday', dayFields dayOfMonth weekday = .ok (dayOfMonth', weekday') ∧
      Text.words engine.toList = engineWords minute hour dayOfMonth' month weekday' ∧
      Fits .minute minute ∧ Fits .hour hour ∧ Fits .dayOfMonth dayOfMonth ∧ Fits .month month ∧
        Fits .dayOfWeek weekday' := by
  have isWord : ∀ word ∈ [minute, hour, dayOfMonth, month, weekday], Text.IsWord word := by
    intro word member
    exact Text.isWord_of_mem_words (words ▸ member)
  obtain ⟨dayOfMonth', weekday', schedule, days, rfl, parsed⟩ := toEngine_inv words translated
  have spec := unjoined_dayFields days fun word member => ⟨isWord word member, unjoined word member⟩
  have words' :
      Text.words ([' '].intercalate (engineWords minute hour dayOfMonth' month weekday')) =
      engineWords minute hour dayOfMonth' month weekday' :=
    Text.words_intercalate fun word member => (engineWords_spec spec word member).1
  obtain ⟨isMinute, isHour, isDay, isMonth, isWeekday⟩ :=
    (exists_parse_engineWords_iff spec).mp ⟨schedule, parsed⟩
  refine ⟨dayOfMonth', weekday', days, ?_, isMinute, isHour, (fits_dayOfMonth_iff days).mp isDay,
    isMonth, isWeekday⟩
  rw [String.toList_ofList]
  exact words'

/-- The words of an expression of five words, by their positions: what the engine has to take them
for. -/
def FitsAt : Nat → List Char → Prop
  | 0, minute => Fits .minute minute
  | 1, hour => Fits .hour hour
  | 2, dayOfMonth => Fits .dayOfMonth dayOfMonth
  | 3, month => Fits .month month
  | _, weekday => ∃ weekday', weekdayForm weekday = .ok weekday' ∧ Fits .dayOfWeek weekday'

theorem fits_star {u : FieldRange} (reads : ∃ values, IsField (u, values) ['*']) : Fits u ['*'] :=
  ⟨by decide, reads⟩

/-- A star fits everywhere. -/
theorem fitsAt_star (i : Nat) : FitsAt i ['*'] := by
  match i with
  | 0 => exact fits_star ⟨FieldRange.minute.all, by unfold IsField; decide⟩
  | 1 => exact fits_star ⟨FieldRange.hour.all, by unfold IsField; decide⟩
  | 2 => exact fits_star ⟨FieldRange.dayOfMonth.all, by unfold IsField; decide⟩
  | 3 => exact fits_star ⟨FieldRange.month.all, by unfold IsField; decide⟩
  | _ + 4 =>
    exact ⟨['?'], by decide, by decide, FieldRange.dayOfWeek.all, by unfold IsField; decide⟩

/-- An expression of five words that stand apart is accepted exactly if each of them fits in its
place. -/
theorem accepted_iff_fitsAt {expression : String} (five : (Text.words expression.toList).length = 5)
    (unjoined : ∀ word ∈ Text.words expression.toList, Unjoined word) :
    (∃ engine, toEngine expression = .ok engine) ↔
      ∀ i word, (Text.words expression.toList)[i]? = some word → FitsAt i word := by
  obtain ⟨minute, hour, dayOfMonth, month, weekday, words⟩ : ∃ minute hour dayOfMonth month weekday,
      Text.words expression.toList = [minute, hour, dayOfMonth, month, weekday] := by
    match found : Text.words expression.toList, five with
    | [minute, hour, dayOfMonth, month, weekday], _ => exact ⟨_, _, _, _, _, rfl⟩
  rw [words] at unjoined
  have places : (∀ i word, (Text.words expression.toList)[i]? = some word → FitsAt i word) ↔
      Fits .minute minute ∧ Fits .hour hour ∧ Fits .dayOfMonth dayOfMonth ∧ Fits .month month ∧
        ∃ weekday', weekdayForm weekday = .ok weekday' ∧ Fits .dayOfWeek weekday' := by
    rw [words]
    constructor
    · exact fun each => ⟨each 0 _ rfl, each 1 _ rfl, each 2 _ rfl, each 3 _ rfl, each 4 _ rfl⟩
    · rintro ⟨isMinute, isHour, isDay, isMonth, isWeekday⟩ i word found
      match i, found with
      | 0, rfl => exact isMinute
      | 1, rfl => exact isHour
      | 2, rfl => exact isDay
      | 3, rfl => exact isMonth
      | 4, rfl => exact isWeekday
  rw [places]
  constructor
  · rintro ⟨engine, translated⟩
    obtain ⟨dayOfMonth', weekday', days, -, isMinute, isHour, isDay, isMonth, isWeekday⟩ :=
      fits_of_toEngine words unjoined translated
    exact ⟨isMinute, isHour, isDay, isMonth, weekday', weekdayForm_of_dayFields days, isWeekday⟩
  · rintro ⟨isMinute, isHour, isDay, isMonth, weekday', formed, isWeekday⟩
    obtain ⟨dayOfMonth', days⟩ := dayFields_of_weekdayForm formed dayOfMonth
    refine ⟨String.ofList ([' '].intercalate (engineWords minute hour dayOfMonth' month weekday')),
      toEngine_eq_ok_iff.mpr ⟨?_, ?_⟩⟩
    · simp only [engineForm, words, ofUnix, days, String.toList_ofList]
      rfl
    · refine (exists_parse_engineWords_iff (unjoined_dayFields days fun word member =>
        ⟨Text.isWord_of_mem_words (words ▸ member), unjoined word member⟩)).mpr ?_
      exact ⟨isMinute, isHour, (fits_dayOfMonth_iff days).mpr isDay, isMonth, isWeekday⟩

/-- The expression with one word in its place and stars in the four others. -/
def alone (i : Nat) (word : List Char) : String :=
  String.ofList ([' '].intercalate ((List.replicate 5 ['*']).set i word))

theorem words_alone (i : Nat) {word : List Char} (isWord : Text.IsWord word) :
    Text.words (alone i word).toList = (List.replicate 5 ['*']).set i word := by
  rw [alone, String.toList_ofList, Text.words_intercalate]
  intro other member
  rcases List.mem_or_eq_of_mem_set member with star | rfl
  · rw [List.eq_of_mem_replicate star]
    decide
  · exact isWord

theorem accepted_alone_iff {i : Nat} (place : i < 5) {word : List Char} (isWord : Text.IsWord word)
    (unjoined : Unjoined word) :
    (∃ engine, toEngine (alone i word) = .ok engine) ↔ FitsAt i word := by
  have words := words_alone i isWord
  rw [accepted_iff_fitsAt (by simp [words]), words]
  · constructor
    · exact fun each => each i word (by simp [place])
    · intro fits j other found
      by_cases same : i = j
      · subst same
        obtain rfl : word = other := by simpa [place] using found
        exact fits
      · rw [List.getElem?_set_ne same] at found
        rw [List.eq_of_mem_replicate (List.mem_of_getElem? found)]
        exact fitsAt_star j
  · intro other member
    rw [words] at member
    rcases List.mem_or_eq_of_mem_set member with star | rfl
    · rw [List.eq_of_mem_replicate star]
      decide
    · exact unjoined

/-- An expression of five words none of which begins or ends with a comma, a hyphen or a slash is
accepted exactly if each of its words is accepted in its place with stars for the four others. -/
theorem accepted_iff_each_alone {expression : String}
    (five : (Text.words expression.toList).length = 5)
    (unjoined : ∀ word ∈ Text.words expression.toList, Unjoined word) :
    (∃ engine, toEngine expression = .ok engine) ↔
      ∀ i word, (Text.words expression.toList)[i]? = some word →
        ∃ engine, toEngine (alone i word) = .ok engine := by
  rw [accepted_iff_fitsAt five unjoined]
  refine forall_congr' fun i => forall_congr' fun word => imp_congr_right fun found => ?_
  have member := List.mem_of_getElem? found
  have place : i < 5 := five ▸ (List.getElem?_eq_some_iff.mp found).1
  exact (accepted_alone_iff place (Text.isWord_of_mem_words member) (unjoined word member)).symm

/-- Five words with lists, ranges, steps and names: the expression is accepted, and so is each of
its words. -/
theorem quarterHours_accepted_alone :
    (Text.words "*/15 9-17/2 1,15 jan-MAR 5-7".toList).length = 5 ∧
      (∀ word ∈ Text.words "*/15 9-17/2 1,15 jan-MAR 5-7".toList, Unjoined word) ∧
      ∀ i word, (Text.words "*/15 9-17/2 1,15 jan-MAR 5-7".toList)[i]? = some word →
        ∃ engine, toEngine (alone i word) = .ok engine := by
  have five : (Text.words "*/15 9-17/2 1,15 jan-MAR 5-7".toList).length = 5 := by decide +kernel
  have unjoined : ∀ word ∈ Text.words "*/15 9-17/2 1,15 jan-MAR 5-7".toList, Unjoined word := by
    decide +kernel
  have accepted :
      toEngine "*/15 9-17/2 1,15 jan-MAR 5-7" = .ok "0 */15 9-17/2 1,15 jan-MAR 6-7,1 *" := by
    decide +kernel
  exact ⟨five, unjoined, (accepted_iff_each_alone five unjoined).mp ⟨_, accepted⟩⟩

/-- A list whose comma stands before a blank takes the next word in: the expression is accepted,
with the minutes 1 and 50 in every hour, although there is no hour 50. -/
theorem listed_minute_hides_hour :
    Text.words "1, 50 * * *".toList = [['1', ','], ['5', '0'], ['*'], ['*'], ['*']] ∧
      toEngine "1, 50 * * *" = .ok "0 1, 50 * * ? *" ∧
      ((Schedule.parse "0 1, 50 * * ? *").map fun schedule => (schedule.minutes, schedule.hours)) =
        .ok ([1, 50], FieldRange.hour.all) ∧
      ∀ engine, toEngine (alone 1 ['5', '0']) ≠ .ok engine := by
  have refused : toEngine (alone 1 ['5', '0']) = .error ⟨"* 50 * * *", .grammar⟩ := by
    decide +kernel
  refine ⟨by decide +kernel, by decide +kernel, by decide +kernel, fun engine accepted => ?_⟩
  rw [refused] at accepted
  simp at accepted

end Horarium.Cron
