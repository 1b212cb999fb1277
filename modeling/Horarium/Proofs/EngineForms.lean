/-
Module: Horarium.Proofs.EngineForms
Purpose: The translation gives back engine expressions for good: they have six or seven words, no
  blanks around them, and are translated to themselves. Unix expressions have seven words
  afterwards, since neither the renumbering of the weekdays nor the question marks bring in a blank
  or leave a word empty.
Trusted boundary: none
Main exports: Text.Unpadded, Cron.Renumbered, Cron.toEngine_idempotent
-/
import Horarium.Proofs.TriggerShape
import Horarium.Proofs.UnixTranslation

namespace Horarium
namespace Text

/-! ### Words -/

/-- A text that is not empty and holds no blank. -/
structure IsWord (word : List Char) : Prop where
  present : word ≠ []
  solid : ∀ c ∈ word, isBlank c = false

instance (word : List Char) : Decidable (IsWord word) :=
  decidable_of_iff (word ≠ [] ∧ (word.all fun c => !isBlank c) = true)
    ⟨fun ⟨present, solid⟩ => ⟨present, by simpa using solid⟩,
      fun ⟨present, solid⟩ => ⟨present, by simpa using solid⟩⟩

theorem isWord_of_mem_words {text word : List Char} (member : word ∈ words text) : IsWord word := by
  obtain ⟨piece, present⟩ := List.mem_filter.mp member
  exact ⟨by simpa using present, fun _ inside => not_cut_of_mem_pieces piece inside⟩

theorem words_of_isWord {word : List Char} (isWord : IsWord word) : words word = [word] := by
  simp [words, pieces_of_uncut isWord.solid, isWord.present]

theorem words_append {word : List Char} (isWord : IsWord word) {c : Char} (blank : isBlank c = true)
    (rest : List Char) : words (word ++ c :: rest) = word :: words rest := by
  simp [words, pieces_append isWord.solid blank, isWord.present]

/-- Words that are joined by single blanks are the words of the text. -/
theorem words_intercalate {ws : List (List Char)} (each : ∀ word ∈ ws, IsWord word) :
    words ([' '].intercalate ws) = ws := by
  induction ws with
  | nil => rfl
  | cons word ws ih =>
    rw [List.forall_mem_cons] at each
    cases ws with
    | nil => rw [List.intercalate_singleton, words_of_isWord each.1]
    | cons next ws =>
      rw [List.intercalate_cons_cons, List.append_assoc, List.singleton_append,
        words_append each.1 (by decide), ih each.2]

/-! ### Texts without blanks around them -/

/-- A text that neither begins nor ends with a blank. -/
structure Unpadded (text : List Char) : Prop where
  begins : ∀ c ∈ text.head?, isBlank c = false
  ends : ∀ c ∈ text.getLast?, isBlank c = false

theorem unpadded_trim (text : List Char) : Unpadded (trim text) := by
  constructor
  · intro c first
    have kept : trim text <+: trimStart text := List.rdropWhile_prefix isBlank _
    have begins := List.head?_dropWhile_not isBlank text
    rw [Option.mem_def] at first
    obtain ⟨rest, whole⟩ := kept
    cases shown : trim text with
    | nil => simp [shown] at first
    | cons d ds =>
      rw [shown] at first whole
      obtain rfl : d = c := by simpa using first
      have head : (text.dropWhile isBlank).head? = some d := by
        show (trimStart text).head? = some d
        rw [← whole]
        rfl
      simpa [head] using begins
  · intro c last
    have ends := List.head?_dropWhile_not isBlank (trimStart text).reverse
    rw [trim, trimEnd, List.getLast?_reverse, Option.mem_def] at last
    simpa [last] using ends

theorem Unpadded.trim_eq {text : List Char} (unpadded : Unpadded text) : trim text = text := by
  have start : trimStart text = text := by
    cases text with
    | nil => rfl
    | cons c cs => simp [trimStart, unpadded.begins c rfl]
  rw [trim, start, trimEnd]
  obtain ⟨cs, rfl⟩ : ∃ cs, text = cs.reverse := ⟨text.reverse, by simp⟩
  cases cs with
  | nil => rfl
  | cons c cs => simp [unpadded.ends c (by simp)]

end Text

namespace Cron

/-! ### What an expression stands for -/

/-- A translation is an engine form that the engine accepts. -/
theorem toEngine_eq_ok_iff {expression engine : String} :
    toEngine expression = .ok engine ↔
      engineForm expression.toList = .ok engine.toList ∧
      ∃ schedule, Schedule.parse engine = .ok schedule := by
  unfold toEngine
  cases formed : engineForm expression.toList with
  | error reason => simp
  | ok form =>
    have same : form = engine.toList ↔ String.ofList form = engine := by
      rw [← String.toList_inj, String.toList_ofList]
    simp only [Except.ok.injEq, same]
    cases parsed : Schedule.parse (String.ofList form) with
    | error e =>
      refine iff_of_false (by simp) ?_
      rintro ⟨rfl, schedule, accepted⟩
      simp [parsed] at accepted
    | ok schedule =>
      refine ⟨fun stands => ?_, fun ⟨same, _⟩ => by simp [same]⟩
      obtain rfl := Except.ok.inj stands
      exact ⟨rfl, schedule, parsed⟩

/-- Five words are translated, and six or seven are kept, without the blanks around them. -/
theorem engineForm_inv {text form : List Char} (formed : engineForm text = .ok form) :
    (∃ minute hour dayOfMonth month weekday, Text.words text =
      [minute, hour, dayOfMonth, month, weekday] ∧
        ofUnix minute hour dayOfMonth month weekday = .ok form) ∨
      ((Text.words text).length = 6 ∨ (Text.words text).length = 7) ∧ form = Text.trim text := by
  unfold engineForm at formed
  split at formed
  · rename_i words
    exact .inl ⟨_, _, _, _, _, words, formed⟩
  · rename_i words
    exact .inr ⟨.inl (by simp [words]), (Except.ok.inj formed).symm⟩
  · rename_i words
    exact .inr ⟨.inr (by simp [words]), (Except.ok.inj formed).symm⟩
  · simp at formed

theorem engineForm_of_length {text : List Char}
    (long : (Text.words text).length = 6 ∨ (Text.words text).length = 7) :
    engineForm text = .ok (Text.trim text) := by
  unfold engineForm
  generalize Text.words text = words at long
  rcases long with long | long
  · match words, long with
    | [_, _, _, _, _, _], _ => rfl
  · match words, long with
    | [_, _, _, _, _, _, _], _ => rfl

/-! ### Renumbered weekdays -/

/-- What stands in place of the base of a weekday atom: the base itself where it holds no number or
no two ends, else its days by the engine's numbers. -/
inductive Renumbered (base : List Char) (stepped : Bool) : List (List Char) → Prop where
  | name (whole : Text.splitFirst? '-' base = none) (other : dayNumber? base = none) :
      Renumbered base stepped [base]
  | names {low high : List Char} (cut : Text.splitFirst? '-' base = some (low, high))
      (other : dayNumber? low = none ∨ dayNumber? high = none) : Renumbered base stepped [base]
  | day {n : Nat} (whole : Text.splitFirst? '-' base = none) (number : dayNumber? base = some n) :
      Renumbered base stepped [Text.decimal (shiftDay n)]
  | days {low high : List Char} {first last : Nat}
      (cut : Text.splitFirst? '-' base = some (low, high))
      (start : dayNumber? low = some first) (stop : dayNumber? high = some last)
      (forward : shiftDay first ≤ shiftDay last) :
      Renumbered base stepped [Text.decimal (shiftDay first) ++ '-' :: Text.decimal (shiftDay last)]
  | wrapped {low high : List Char} {first last : Nat}
      (cut : Text.splitFirst? '-' base = some (low, high))
      (start : dayNumber? low = some first) (stop : dayNumber? high = some last)
      (backward : shiftDay last < shiftDay first) (whole : stepped = false) :
      Renumbered base stepped [Text.decimal (shiftDay first) ++ ['-', '7'],
        if shiftDay last = 1 then ['1'] else '1' :: '-' :: Text.decimal (shiftDay last)]

theorem shiftRange_inv {atom base : List Char} {stepped : Bool} {bases : List (List Char)}
    (shifted : shiftRange atom base stepped = .ok bases) : Renumbered base stepped bases := by
  unfold shiftRange at shifted
  split at shifted
  · rename_i star
    obtain rfl := Except.ok.inj shifted
    exact .name (star ▸ rfl) (star ▸ rfl)
  split at shifted
  · rename_i low high cut
    split at shifted
    · rename_i first last start stop
      dsimp only at shifted
      split at shifted
      · rename_i backward
        split at shifted
        · simp at shifted
        · rename_i whole
          obtain rfl := Except.ok.inj shifted
          exact .wrapped cut start stop backward (by simpa using whole)
      · rename_i forward
        obtain rfl := Except.ok.inj shifted
        exact .days cut start stop (Nat.le_of_not_lt forward)
    · rename_i other
      obtain rfl := Except.ok.inj shifted
      refine .names cut ?_
      cases start : dayNumber? low with
      | none => exact .inl rfl
      | some first =>
        cases stop : dayNumber? high with
        | none => exact .inr rfl
        | some last => exact absurd stop (other first last start)
  · rename_i whole
    split at shifted
    · rename_i n number
      obtain rfl := Except.ok.inj shifted
      exact .day whole number
    · rename_i other
      obtain rfl := Except.ok.inj shifted
      exact .name whole other

/-- The end of an atom: nothing, or a slash and what follows it. -/
inductive AtomEnd : List Char → Prop where
  | absent : AtomEnd []
  | slash (step : List Char) : AtomEnd ('/' :: step)

theorem splitFirst?_inv {separator : Char} {text before after : List Char}
    (cut : Text.splitFirst? separator text = some (before, after)) :
    text = before ++ separator :: after ∧ separator ∉ before := by
  induction text generalizing before with
  | nil => simp [Text.splitFirst?] at cut
  | cons c cs ih =>
    simp only [Text.splitFirst?] at cut
    split at cut
    · rename_i found
      obtain ⟨rfl, rfl⟩ := Prod.mk.inj (Option.some.inj cut)
      exact ⟨by simpa using found, by simp⟩
    · rename_i other
      obtain ⟨⟨before', after'⟩, later, same⟩ := Option.map_eq_some_iff.mp cut
      obtain ⟨rfl, rfl⟩ := Prod.mk.inj same
      obtain ⟨rfl, absent⟩ := ih later
      refine ⟨rfl, ?_⟩
      rw [List.mem_cons, not_or]
      exact ⟨fun same => other (by simp [same]), absent⟩

theorem notMem_of_splitFirst? {separator : Char} {text : List Char}
    (whole : Text.splitFirst? separator text = none) : separator ∉ text := by
  induction text with
  | nil => simp
  | cons c cs ih =>
    simp only [Text.splitFirst?] at whole
    split at whole
    · simp at whole
    · rename_i other
      rw [List.mem_cons, not_or]
      exact ⟨fun same => other (by simp [same]), ih (Option.map_eq_none_iff.mp whole)⟩

/-- An atom is a base and its end, and the end is put behind each of the bases that take the place
of its own. -/
theorem shiftAtom_inv {atom : List Char} {atoms : List (List Char)}
    (shifted : shiftAtom atom = .ok atoms) :
    ∃ base tail bases, atom = base ++ tail ∧ '/' ∉ base ∧ AtomEnd tail ∧
      Renumbered base (!tail.isEmpty) bases ∧ atoms = bases.map (· ++ tail) := by
  unfold shiftAtom at shifted
  split at shifted
  · rename_i base step cut
    obtain ⟨rfl, whole⟩ := splitFirst?_inv cut
    cases renumbered : shiftRange (base ++ '/' :: step) base true with
    | error _ => simp [renumbered, bind, Except.bind] at shifted
    | ok bases =>
      simp only [renumbered, bind, Except.bind, pure, Except.pure, Except.ok.injEq] at shifted
      exact ⟨base, _, bases, rfl, whole, .slash step, shiftRange_inv renumbered, shifted.symm⟩
  · rename_i whole
    exact ⟨atom, [], atoms, by simp, notMem_of_splitFirst? whole, .absent,
      shiftRange_inv shifted, by simp⟩

theorem shiftAtoms_inv {atoms shifted : List (List Char)}
    (renumbered : shiftAtoms atoms = .ok shifted) :
    ∃ groups, List.Forall₂ (fun atom group => shiftAtom atom = .ok group) atoms groups ∧
      shifted = groups.flatten := by
  induction atoms generalizing shifted with
  | nil => exact ⟨[], .nil, (Except.ok.inj renumbered).symm⟩
  | cons atom atoms ih =>
    obtain ⟨first, rest, one, others, rfl⟩ := shiftAtoms_cons_inv renumbered
    obtain ⟨groups, each, rfl⟩ := ih others
    exact ⟨first :: groups, .cons one each, rfl⟩

theorem shiftWeekdays_inv {field shifted : List Char}
    (renumbered : shiftWeekdays field = .ok shifted) :
    ∃ groups, List.Forall₂ (fun atom group => shiftAtom atom = .ok group)
      (Text.splitOn ',' field) groups ∧
      shifted = [','].intercalate groups.flatten := by
  unfold shiftWeekdays at renumbered
  cases atoms : shiftAtoms (Text.splitOn ',' field) with
  | error _ => simp [atoms, bind, Except.bind] at renumbered
  | ok atoms' =>
    simp only [atoms, bind, Except.bind, pure, Except.pure, Except.ok.injEq] at renumbered
    obtain ⟨groups, each, rfl⟩ := shiftAtoms_inv atoms
    exact ⟨groups, each, renumbered.symm⟩

/-! ### The characters of the renumbered field -/

theorem mem_intercalate_of_mem {texts : List (List Char)} {text : List Char} (member : text ∈ texts)
    {c : Char} (inside : c ∈ text) : c ∈ [','].intercalate texts := by
  cases texts with
  | nil => simp at member
  | cons first texts =>
    rw [intercalate_cons, List.mem_append]
    rcases List.mem_cons.mp member with rfl | later
    · exact .inl inside
    · exact .inr (List.mem_flatMap.mpr ⟨text, later, List.mem_cons_of_mem _ inside⟩)

theorem comma_or_mem_of_mem_intercalate {texts : List (List Char)} {c : Char}
    (member : c ∈ [','].intercalate texts) : c = ',' ∨ ∃ text ∈ texts, c ∈ text := by
  cases texts with
  | nil => simp [List.intercalate] at member
  | cons first texts =>
    rw [intercalate_cons, List.mem_append] at member
    rcases member with inside | after
    · exact .inr ⟨first, List.mem_cons_self, inside⟩
    · obtain ⟨text, later, inside⟩ := List.mem_flatMap.mp after
      rcases List.mem_cons.mp inside with rfl | inside
      · exact .inl rfl
      · exact .inr ⟨text, List.mem_cons_of_mem _ later, inside⟩

theorem mem_of_mem_splitOn {field atom : List Char} (member : atom ∈ Text.splitOn ',' field)
    {c : Char} (inside : c ∈ atom) : c ∈ field := by
  rw [← intercalate_splitOn field]
  exact mem_intercalate_of_mem member inside

theorem Renumbered.mem {base : List Char} {stepped : Bool} {bases : List (List Char)}
    (renumbered : Renumbered base stepped bases) {piece : List Char} (member : piece ∈ bases)
    {c : Char} (inside : c ∈ piece) : c ∈ base ∨ c = '-' ∨ (Text.digit? c).isSome := by
  have digits : ∀ {n}, c ∈ Text.decimal n → (Text.digit? c).isSome :=
    fun inside => (Numeral.decimal _).isSome_digit? c inside
  cases renumbered with
  | name _ _ | names _ _ =>
    obtain rfl := List.mem_singleton.mp member
    exact .inl inside
  | day _ _ =>
    obtain rfl := List.mem_singleton.mp member
    exact .inr (.inr (digits inside))
  | days _ _ _ _ =>
    obtain rfl := List.mem_singleton.mp member
    rw [List.mem_append, List.mem_cons] at inside
    rcases inside with first | rfl | last
    · exact .inr (.inr (digits first))
    · exact .inr (.inl rfl)
    · exact .inr (.inr (digits last))
  | wrapped _ _ _ _ _ =>
    rcases List.mem_cons.mp member with rfl | last
    · simp only [List.mem_append, List.mem_cons, List.not_mem_nil, or_false] at inside
      rcases inside with first | rfl | rfl
      · exact .inr (.inr (digits first))
      · exact .inr (.inl rfl)
      · exact .inr (.inr (by decide))
    · obtain rfl := List.mem_singleton.mp last
      split at inside
      · obtain rfl := List.mem_singleton.mp inside
        exact .inr (.inr (by decide))
      · rcases List.mem_cons.mp inside with rfl | inside
        · exact .inr (.inr (by decide))
        · rcases List.mem_cons.mp inside with rfl | last
          · exact .inr (.inl rfl)
          · exact .inr (.inr (digits last))

theorem Renumbered.ne_nil {base : List Char} {stepped : Bool} {bases : List (List Char)}
    (renumbered : Renumbered base stepped bases) : bases ≠ [] := by
  cases renumbered <;> simp

theorem Renumbered.present {base : List Char} {stepped : Bool} {bases : List (List Char)}
    (renumbered : Renumbered base stepped bases) (present : base ≠ []) {piece : List Char}
    (member : piece ∈ bases) : piece ≠ [] := by
  cases renumbered with
  | name _ _ | names _ _ =>
    obtain rfl := List.mem_singleton.mp member
    exact present
  | day _ _ =>
    obtain rfl := List.mem_singleton.mp member
    exact (Numeral.decimal _).1
  | days _ _ _ _ =>
    obtain rfl := List.mem_singleton.mp member
    simp
  | wrapped _ _ _ _ _ =>
    rcases List.mem_cons.mp member with rfl | last
    · simp
    · obtain rfl := List.mem_singleton.mp last
      split <;> simp

/-- Of the characters in place of an atom, those that the atom lacks are digits and hyphens. -/
theorem mem_of_shiftAtom {atom : List Char} {atoms : List (List Char)}
    (shifted : shiftAtom atom = .ok atoms) {piece : List Char} (member : piece ∈ atoms) {c : Char}
    (inside : c ∈ piece) :
    c ∈ atom ∨ c = '-' ∨ (Text.digit? c).isSome := by
  obtain ⟨base, tail, bases, rfl, -, -, renumbered, rfl⟩ := shiftAtom_inv shifted
  obtain ⟨front, first, rfl⟩ := List.mem_map.mp member
  rcases List.mem_append.mp inside with inside | last
  · exact (renumbered.mem first inside).imp_left (List.mem_append_left tail)
  · exact .inl (List.mem_append_right base last)

theorem present_of_shiftAtom {atom : List Char} {atoms : List (List Char)}
    (shifted : shiftAtom atom = .ok atoms) :
    atoms ≠ [] ∧ (atom ≠ [] → ∀ piece ∈ atoms, piece ≠ []) := by
  obtain ⟨base, tail, bases, rfl, -, -, renumbered, rfl⟩ := shiftAtom_inv shifted
  refine ⟨by simpa using renumbered.ne_nil, fun present piece member => ?_⟩
  obtain ⟨front, first, rfl⟩ := List.mem_map.mp member
  rw [ne_eq, List.append_eq_nil_iff]
  rintro ⟨empty, rfl⟩
  exact renumbered.present (by simpa using present) first empty

/-- What stands on the right is paired with something on the left. -/
theorem exists_of_mem_right {α β : Type} {R : α → β → Prop} {xs : List α} {ys : List β}
    (pairs : List.Forall₂ R xs ys) {y : β} (member : y ∈ ys) : ∃ x ∈ xs, R x y := by
  induction pairs with
  | nil => simp at member
  | cons pair _ ih =>
    rcases List.mem_cons.mp member with rfl | later
    · exact ⟨_, List.mem_cons_self, pair⟩
    · obtain ⟨x, inside, pair⟩ := ih later
      exact ⟨x, List.mem_cons_of_mem _ inside, pair⟩

/-- Of the characters of the renumbered field, those that the field lacks are commas, digits and
hyphens. -/
theorem mem_of_shiftWeekdays {field shifted : List Char}
    (renumbered : shiftWeekdays field = .ok shifted) {c : Char} (inside : c ∈ shifted) :
    c ∈ field ∨ c = ',' ∨ c = '-' ∨ (Text.digit? c).isSome := by
  obtain ⟨groups, each, rfl⟩ := shiftWeekdays_inv renumbered
  rcases comma_or_mem_of_mem_intercalate inside with rfl | ⟨piece, member, inside⟩
  · exact .inr (.inl rfl)
  · obtain ⟨group, grouped, member⟩ := List.mem_flatten.mp member
    obtain ⟨atom, whole, shifted⟩ := exists_of_mem_right each grouped
    rcases mem_of_shiftAtom shifted member inside with inside | other
    · exact .inl (mem_of_mem_splitOn whole inside)
    · exact .inr (.inr other)

theorem ne_nil_of_shiftWeekdays {field shifted : List Char}
    (renumbered : shiftWeekdays field = .ok shifted) (present : field ≠ []) : shifted ≠ [] := by
  obtain ⟨groups, each, rfl⟩ := shiftWeekdays_inv renumbered
  have joined := intercalate_splitOn field
  generalize Text.splitOn ',' field = atoms at each joined
  cases each with
  | nil => exact absurd joined.symm present
  | @cons atom group atoms groups first later =>
    obtain ⟨some, solid⟩ := present_of_shiftAtom first
    obtain ⟨piece, pieces, rfl⟩ := List.exists_cons_of_ne_nil some
    rw [List.flatten_cons, List.cons_append, intercalate_cons, ne_eq, List.append_eq_nil_iff]
    rintro ⟨empty, ended⟩
    cases later with
    | nil =>
      -- The only atom is the whole field.
      rw [List.intercalate_singleton] at joined
      exact solid (joined ▸ present) piece List.mem_cons_self empty
    | cons next _ =>
      obtain ⟨piece', pieces', rfl⟩ := List.exists_cons_of_ne_nil (present_of_shiftAtom next).1
      simp [afterCommas] at ended

theorem isBlank_of_digit {c : Char} (digit : (Text.digit? c).isSome) : Text.isBlank c = false := by
  have range : 48 ≤ c.toNat ∧ c.toNat ≤ 57 := by
    unfold Text.digit? at digit
    split at digit
    · rename_i inside
      exact inside
    · simp at digit
  simp only [Text.isBlank, Bool.or_eq_false_iff, Bool.and_eq_false_iff, decide_eq_false_iff_not,
    beq_eq_false_iff_ne]
  omega

theorem isWord_of_shiftWeekdays {field shifted : List Char}
    (renumbered : shiftWeekdays field = .ok shifted) (isWord : Text.IsWord field) :
    Text.IsWord shifted := by
  refine ⟨ne_nil_of_shiftWeekdays renumbered isWord.present, fun c inside => ?_⟩
  rcases mem_of_shiftWeekdays renumbered inside with inside | rfl | rfl | digit
  · exact isWord.solid c inside
  · decide
  · decide
  · exact isBlank_of_digit digit

/-- The engine's day fields are words where the Unix fields are. -/
theorem isWord_of_dayFields {dayOfMonth weekday dayOfMonth' weekday' : List Char}
    (translated : dayFields dayOfMonth weekday = .ok (dayOfMonth', weekday'))
    (day : Text.IsWord dayOfMonth) (week : Text.IsWord weekday) :
    Text.IsWord dayOfMonth' ∧ Text.IsWord weekday' := by
  rcases dayFields_cases translated with ⟨-, rfl, rfl⟩ | ⟨-, renumbered, rfl⟩
  · refine ⟨?_, by decide⟩
    split
    · decide
    · exact day
  · refine ⟨?_, isWord_of_shiftWeekdays renumbered week⟩
    split
    · decide
    · exact day

/-! ### The translation of a translation -/

/-- The seven words of a translated Unix expression, none of which holds a blank. -/
theorem ofUnix_inv {minute hour dayOfMonth month weekday form : List Char}
    (translated : ofUnix minute hour dayOfMonth month weekday = .ok form)
    (each : ∀ word ∈ [minute, hour, dayOfMonth, month, weekday], Text.IsWord word) :
    ∃ dayOfMonth' weekday', dayFields dayOfMonth weekday = .ok (dayOfMonth', weekday') ∧
      form = [' '].intercalate [['0'], minute, hour, dayOfMonth', month, weekday', ['*']] ∧
      Text.words form = [['0'], minute, hour, dayOfMonth', month, weekday', ['*']] := by
  unfold ofUnix at translated
  cases days : dayFields dayOfMonth weekday with
  | error _ => simp [days, bind, Except.bind] at translated
  | ok fields =>
    obtain ⟨dayOfMonth', weekday'⟩ := fields
    simp only [days, bind, Except.bind, pure, Except.pure, Except.ok.injEq] at translated
    simp only [List.forall_mem_cons, List.not_mem_nil, false_imp_iff, implies_true,
      and_true] at each
    obtain ⟨isMinute, isHour, isDay, isMonth, isWeekday⟩ := each
    obtain ⟨isDay', isWeekday'⟩ := isWord_of_dayFields days isDay isWeekday
    refine ⟨dayOfMonth', weekday', rfl, translated.symm, translated ▸ Text.words_intercalate ?_⟩
    simpa using ⟨by decide, isMinute, isHour, isDay', isMonth, isWeekday', by decide⟩

/-- A translated Unix expression begins with a zero and ends with a star. -/
theorem unpadded_ofUnix {minute hour dayOfMonth month weekday form : List Char}
    (translated : ofUnix minute hour dayOfMonth month weekday = .ok form) : Text.Unpadded form := by
  unfold ofUnix at translated
  cases days : dayFields dayOfMonth weekday with
  | error _ => simp [days, bind, Except.bind] at translated
  | ok fields =>
    simp only [days, bind, Except.bind, pure, Except.pure, Except.ok.injEq] at translated
    obtain ⟨middle, shape⟩ : ∃ middle, form = '0' :: (middle ++ ['*']) :=
      ⟨[' '].intercalate [[], minute, hour, fields.1, month, fields.2, []], by
        rw [← translated]
        simp [List.intercalate]⟩
    rw [shape]
    refine ⟨fun c first => ?_, fun c last => ?_⟩
    · obtain rfl : '0' = c := by simpa using first
      decide
    · obtain rfl : '*' = c := by
        rw [← List.cons_append, List.getLast?_concat] at last
        simpa using last
      decide

/-- A translation has six or seven words and no blanks around them, and is its own translation. The
translation of five words has seven, whatever blanks stand between the five. -/
theorem toEngine_idempotent {expression engine : String}
    (translated : toEngine expression = .ok engine) :
    ((Text.words engine.toList).length = 6 ∨ (Text.words engine.toList).length = 7) ∧
      ((Text.words expression.toList).length = 5 → (Text.words engine.toList).length = 7) ∧
      Text.Unpadded engine.toList ∧ toEngine engine = .ok engine := by
  obtain ⟨formed, accepted⟩ := toEngine_eq_ok_iff.mp translated
  have again : ((Text.words engine.toList).length = 6 ∨ (Text.words engine.toList).length = 7) →
      Text.Unpadded engine.toList → toEngine engine = .ok engine := by
    intro long unpadded
    exact toEngine_eq_ok_iff.mpr ⟨by rw [engineForm_of_length long, unpadded.trim_eq], accepted⟩
  rcases engineForm_inv formed with ⟨_, _, _, _, _, words, unix⟩ | ⟨long, trimmed⟩
  · obtain ⟨_, _, -, -, words'⟩ := ofUnix_inv unix fun word member =>
      Text.isWord_of_mem_words (words ▸ member)
    have seven : (Text.words engine.toList).length = 7 := by rw [words']; rfl
    have unpadded := unpadded_ofUnix unix
    exact ⟨.inr seven, fun _ => seven, unpadded, again (.inr seven) unpadded⟩
  · have unpadded : Text.Unpadded engine.toList := trimmed ▸ Text.unpadded_trim _
    have kept : Text.words engine.toList = Text.words expression.toList := by
      rw [trimmed, Text.words_trim]
    rw [← kept] at long ⊢
    refine ⟨long, fun five => ?_, unpadded, again long unpadded⟩
    rcases long with six | seven
    · exact absurd (six.symm.trans five) (by decide)
    · exact seven

/-- Five words between no-break spaces and line ends, the last of which is a list with a range that
wraps. -/
theorem scattered_fields_idempotent :
    toEngine "\n0\u00a06 \u2003*\t*\u20285-7,MON,2-4/2 " = .ok "0 0 6 ? * 6-7,1,MON,3-5/2 *" ∧
      (Text.words "0 0 6 ? * 6-7,1,MON,3-5/2 *".toList).length = 7 ∧
      Text.Unpadded "0 0 6 ? * 6-7,1,MON,3-5/2 *".toList ∧
      toEngine "0 0 6 ? * 6-7,1,MON,3-5/2 *" = .ok "0 0 6 ? * 6-7,1,MON,3-5/2 *" := by
  have translated :
      toEngine "\n0\u00a06 \u2003*\t*\u20285-7,MON,2-4/2 " = .ok "0 0 6 ? * 6-7,1,MON,3-5/2 *" := by
    decide +kernel
  obtain ⟨-, seven, unpadded, again⟩ := toEngine_idempotent translated
  exact ⟨translated, seven (by decide +kernel), unpadded, again⟩

end Cron
end Horarium
