/-
Module: Horarium.Proofs.FieldReading
Purpose: How the engine reads a field whose items are spelled one by one. The grammar is read
  greedily and swallows blanks, so what matters is what follows: after a comma the field goes on,
  and after a blank the next field begins, which never starts with a character that an item could go
  on with. A step that is too large for the grammar leaves its slash unread, and no field starts
  with a slash.
Trusted boundary: none
Main exports: Cron.StartsField, Cron.Letters, Cron.ItemStep, Cron.ItemSpelling,
  Cron.FieldRange.values?_inv
-/
import Horarium.Cron.Schedule
import Horarium.Proofs.UnixFields
import Mathlib.Data.List.DropRight

namespace Horarium.Cron

/-! ### Characters -/

/-- A character that is not read as a part of the field before it. -/
def StartsField (c : Char) : Prop := c ∉ [' ', '\t', '\r', '\n', ',', '-', '/']

instance (c : Char) : Decidable (StartsField c) := inferInstanceAs (Decidable (_ ∉ _))

theorem StartsField.not_gap {c : Char} (starts : StartsField c) : isGap c = false := by
  simp only [StartsField, List.mem_cons, not_or] at starts
  simp [isGap, starts]

/-- The characters of a class that has none of the others. -/
theorem startsField_of_class {p : Char → Bool}
    (others : [' ', '\t', '\r', '\n', ',', '-', '/'].any p = false) {c : Char}
    (inside : p c = true) : StartsField c := by
  intro member
  rw [List.any_eq_false] at others
  exact others c member inside

theorem startsField_of_digit {c : Char} (digit : (Text.digit? c).isSome) : StartsField c :=
  startsField_of_class (p := fun c => (Text.digit? c).isSome) (by decide) digit

theorem startsField_of_letter {c : Char} (letter : c.isAlpha) : StartsField c :=
  startsField_of_class (by decide) letter

theorem digit?_of_letter {c : Char} (letter : c.isAlpha) : Text.digit? c = none := by
  unfold Text.digit?
  rw [if_neg]
  rintro ⟨_, high⟩
  have bound : c.toNat ≤ 57 := high
  have either :
      (decide (c.val ≥ 65 ∧ c.val ≤ 90) || (decide (c.val ≥ 97) && decide (c.val ≤ 122))) = true :=
    letter
  have ranges : (65 ≤ c.toNat ∧ c.toNat ≤ 90) ∨ (97 ≤ c.toNat ∧ c.toNat ≤ 122) := by
    simpa [UInt32.le_iff_toNat_le] using either
  omega

/-! ### What follows an item -/

theorem skipGap_of_not_gap {c : Char} (solid : isGap c = false) (cs : List Char) :
    skipGap (c :: cs) = c :: cs := by
  simp [skipGap, solid]

/-- The text, or the text without the blanks before it. -/
def Left (rest after : List Char) : Prop := after = rest ∨ after = skipGap rest

theorem Left.skipGap_eq {rest after : List Char} (left : Left rest after) :
    skipGap after = skipGap rest := by
  rcases left with rfl | rfl
  · rfl
  · exact List.dropWhile_idempotent isGap rest

theorem Left.eq_of_not_gap {c : Char} {rest after : List Char} (left : Left (c :: rest) after)
    (solid : isGap c = false) : after = c :: rest := by
  rcases left with rfl | rfl
  · rfl
  · exact skipGap_of_not_gap solid rest

/-- What may follow an item: nothing, a comma, or a blank and the next field. -/
inductive Follows : List Char → Prop where
  | done : Follows []
  | comma (rest : List Char) : Follows (',' :: rest)
  | field {c : Char} (starts : StartsField c) (rest : List Char) : Follows (' ' :: c :: rest)

namespace Follows

variable {rest after : List Char}

/-- Neither a digit nor a letter follows. -/
theorem stops (follows : Follows rest) {p : Char → Bool} (comma : p ',' = false)
    (blank : p ' ' = false) :
    rest.takeWhile p = [] := by
  cases follows <;> simp [comma, blank]

/-- Neither a hyphen nor a slash follows, blanks passed over. -/
theorem head?_ne (follows : Follows rest) (left : Left rest after) {mark : Char}
    (hyphenOrSlash : mark ∈ ['-', '/']) : after.head? ≠ some mark := by
  have other : mark ≠ ' ' ∧ mark ≠ ',' := by
    simp only [List.mem_cons, List.not_mem_nil, or_false] at hyphenOrSlash
    rcases hyphenOrSlash with rfl | rfl <;> decide
  cases follows with
  | done =>
    rcases left with rfl | rfl <;> simp [skipGap]
  | comma rest =>
    rw [left.eq_of_not_gap (by decide)]
    simpa using other.2.symm
  | @field c starts rest =>
    rcases left with rfl | rfl
    · simpa using other.1.symm
    · have shown : skipGap (' ' :: c :: rest) = c :: rest := skipGap_of_not_gap starts.not_gap rest
      rw [shown, List.head?_cons, ne_eq, Option.some.injEq]
      rintro rfl
      simp only [List.mem_cons, List.not_mem_nil, or_false] at hyphenOrSlash
      rcases hyphenOrSlash with rfl | rfl <;> exact absurd starts (by decide)

end Follows

/-! ### Items -/

theorem number?_append {n : Nat} {digits rest : List Char} (numeral : Numeral n digits)
    (stops : rest.takeWhile (fun c => (Text.digit? c).isSome) = []) :
    number? (digits ++ rest) = if n ≤ Text.max32 then some (n, skipGap rest) else none := by
  have digitsOnly := numeral.isSome_digit?
  obtain ⟨present, read⟩ := numeral
  have solid : skipGap (digits ++ rest) = digits ++ rest := by
    obtain ⟨c, digits, rfl⟩ := List.exists_cons_of_ne_nil present
    exact skipGap_of_not_gap (startsField_of_digit (digitsOnly c List.mem_cons_self)).not_gap _
  have taken : (digits ++ rest).takeWhile (fun c => (Text.digit? c).isSome) = digits := by
    rw [List.takeWhile_append_of_pos digitsOnly, stops, List.append_nil]
  simp only [number?, solid, taken, List.isEmpty_iff, present, if_false, read, List.drop_left,
    Option.bind_some]

/-- Where no digit is next, no number is. -/
theorem number?_eq_none {c : Char} {cs : List Char} (solid : isGap c = false)
    (other : Text.digit? c = none) :
    number? (c :: cs) = none := by
  simp [number?, skipGap_of_not_gap solid, other]

/-- One or more letters. -/
def Letters (text : List Char) : Prop := text ≠ [] ∧ ∀ c ∈ text, c.isAlpha

instance (text : List Char) : Decidable (Letters text) :=
  decidable_of_iff (text ≠ [] ∧ text.all Char.isAlpha) (by simp [Letters])

theorem Letters.notMem {text : List Char} (word : Letters text) {c : Char}
    (other : c.isAlpha = false) :
    c ∉ text := by
  intro member
  have letter := word.2 c member
  simp [other] at letter

theorem name?_append {letters rest : List Char} (word : Letters letters)
    (stops : rest.takeWhile Char.isAlpha = []) :
    name? (letters ++ rest) = some (letters, skipGap rest) := by
  obtain ⟨present, lettersOnly⟩ := word
  have solid : skipGap (letters ++ rest) = letters ++ rest := by
    obtain ⟨c, letters, rfl⟩ := List.exists_cons_of_ne_nil present
    exact skipGap_of_not_gap (startsField_of_letter (lettersOnly c List.mem_cons_self)).not_gap _
  have taken : (letters ++ rest).takeWhile Char.isAlpha = letters := by
    rw [List.takeWhile_append_of_pos lettersOnly, stops, List.append_nil]
  simp [name?, solid, taken, present]

/-- The end of an item: nothing, or a slash and a step. -/
inductive ItemStep : Option Nat → List Char → Prop where
  | absent : ItemStep none []
  | present {step : Nat} {digits : List Char} (numeral : Numeral step digits) :
      ItemStep (some step) ('/' :: digits)

/-- How an item of the engine is spelled. -/
inductive ItemSpelling (u : FieldRange) : Item → List Char → Prop where
  | all {step : Option Nat} {tail : List Char} (stepped : ItemStep step tail) :
      ItemSpelling u ⟨.all, step⟩ ('*' :: tail)
  | single {n : Nat} {digits : List Char} (numeral : Numeral n digits) (small : n ≤ Text.max32) :
      ItemSpelling u ⟨.single n, none⟩ digits
  | name {n : Nat} {letters : List Char} (word : Letters letters)
      (named : u.named? letters = some n) : ItemSpelling u ⟨.single n, none⟩ letters
  | range {first last : Nat} {step : Option Nat} {digits digits' tail : List Char}
      (start : Numeral first digits) (stop : Numeral last digits') (smallStart : first ≤ Text.max32)
      (smallStop : last ≤ Text.max32) (stepped : ItemStep step tail) :
      ItemSpelling u ⟨.range first last, step⟩ (digits ++ '-' :: (digits' ++ tail))
  | nameRange {first last : Nat} {letters letters' : List Char} (word : Letters letters)
      (word' : Letters letters') (start : u.named? letters = some first)
      (stop : u.named? letters' = some last) :
      ItemSpelling u ⟨.range first last, none⟩ (letters ++ '-' :: letters')

theorem Numeral.starts {n : Nat} {digits : List Char} (numeral : Numeral n digits) :
    ∃ c cs, digits = c :: cs ∧ StartsField c := by
  obtain ⟨c, cs, rfl⟩ := List.exists_cons_of_ne_nil numeral.1
  exact ⟨c, cs, rfl, startsField_of_digit (numeral.isSome_digit? c List.mem_cons_self)⟩

theorem Letters.starts {letters : List Char} (word : Letters letters) :
    ∃ c cs, letters = c :: cs ∧ StartsField c := by
  obtain ⟨c, cs, rfl⟩ := List.exists_cons_of_ne_nil word.1
  exact ⟨c, cs, rfl, startsField_of_letter (word.2 c List.mem_cons_self)⟩

theorem ItemSpelling.starts {u : FieldRange} {item : Item} {text : List Char}
    (spelling : ItemSpelling u item text) : ∃ c cs, text = c :: cs ∧ StartsField c := by
  cases spelling with
  | all _ => exact ⟨_, _, rfl, by decide⟩
  | single numeral _ => exact numeral.starts
  | name word _ => exact word.starts
  | range start _ _ _ _ =>
    obtain ⟨c, cs, rfl, starts⟩ := start.starts
    exact ⟨c, _, rfl, starts⟩
  | nameRange word _ _ _ =>
    obtain ⟨c, cs, rfl, starts⟩ := word.starts
    exact ⟨c, _, rfl, starts⟩

/-- Reading has taken the text of a value and left what follows, or it has stopped at a slash. -/
def Takes {α : Type} (value : α) (rest : List Char) (read : Option (α × List Char)) : Prop :=
  (∃ after, read = some (value, after) ∧ Left rest after) ∨
    ∃ cut more, read = some (cut, '/' :: more)

theorem withStep_takes {base : Base} {step : Option Nat} {tail rest cs : List Char}
    (stepped : ItemStep step tail) (follows : Follows rest) (left : Left (tail ++ rest) cs) :
    Takes ⟨base, step⟩ rest (some (withStep base cs)) := by
  cases stepped with
  | absent =>
    refine .inl ⟨cs, ?_, left⟩
    have other : cs.head? ≠ some '/' := follows.head?_ne left (by simp)
    unfold withStep
    split
    · simp at other
    · rfl
  | @present step digits numeral =>
    rw [List.cons_append] at left
    rw [left.eq_of_not_gap (by decide)]
    have read := number?_append numeral (follows.stops (by decide) (by decide))
    simp only [withStep, read]
    split
    · rename_i found
      obtain ⟨rfl, rfl⟩ : _ = step ∧ _ = skipGap rest := by
        split at found
        · simpa [eq_comm] using found
        · simp at found
      exact .inl ⟨_, rfl, .inr rfl⟩
    · exact .inr ⟨_, _, rfl⟩

theorem afterHyphen?_eq_none {cs : List Char} (other : cs.head? ≠ some '-') :
    afterHyphen? cs = none := by
  unfold afterHyphen?
  split
  · simp at other
  · rfl

/-- What follows the base of an item continues no number and no name. -/
theorem ItemStep.stops {step : Option Nat} {tail rest : List Char} (stepped : ItemStep step tail)
    (follows : Follows rest) {p : Char → Bool} (outside : [',', ' ', '/'].any p = false) :
    (tail ++ rest).takeWhile p = [] := by
  simp only [List.any_eq_false, Bool.not_eq_true] at outside
  cases stepped with
  | absent => exact follows.stops (outside ',' (by simp)) (outside ' ' (by simp))
  | present _ => simp [outside '/']

theorem item?_of_number {u : FieldRange} {c : Char} {cs rest : List Char} {n : Nat}
    (other : c ≠ '*') (number : number? (c :: cs) = some (n, rest)) :
    item? u (c :: cs) = some (match (afterHyphen? rest).bind number? with
      | some (last, rest') => withStep (.range n last) rest'
      | none => withStep (.single n) rest) := by
  unfold item?
  split
  · rename_i star
    exact absurd (List.cons.inj star).1 other
  · rw [number]
    dsimp only
    cases (afterHyphen? rest).bind number? <;> rfl

theorem item?_of_name {u : FieldRange} {letters rest : List Char} {n : Nat} (word : Letters letters)
    (stops : rest.takeWhile Char.isAlpha = []) (named : u.named? letters = some n) :
    item? u (letters ++ rest) = match (afterHyphen? (skipGap rest)).bind name? with
      | some (name', rest') => (u.named? name').map fun last => withStep (.range n last) rest'
      | none => some (⟨.single n, none⟩, skipGap rest) := by
  have name := name?_append word stops
  obtain ⟨present, lettersOnly⟩ := word
  obtain ⟨c, letters, rfl⟩ := List.exists_cons_of_ne_nil present
  have letter := lettersOnly c List.mem_cons_self
  have number : number? (c :: letters ++ rest) = none :=
    number?_eq_none (startsField_of_letter letter).not_gap (digit?_of_letter letter)
  unfold item?
  split
  · rename_i star
    obtain ⟨rfl, _⟩ := List.cons.inj star
    exact absurd letter (by decide)
  · rw [number]
    simp only [name, named, Option.bind_eq_bind, Option.bind_some, Option.pure_def]
    cases (afterHyphen? (skipGap rest)).bind name? with
    | none => rfl
    | some found =>
      dsimp only
      cases u.named? found.1 <;> rfl

/-- An item that is spelled out is read as itself, up to a step that is too large. -/
theorem ItemSpelling.item?_takes {u : FieldRange} {item : Item} {text rest : List Char}
    (spelling : ItemSpelling u item text) (follows : Follows rest) :
    Takes item rest (item? u (text ++ rest)) := by
  have digitsStop : rest.takeWhile (fun c => (Text.digit? c).isSome) = [] :=
    follows.stops (by decide) (by decide)
  have lettersStop : rest.takeWhile Char.isAlpha = [] := follows.stops (by decide) (by decide)
  have unhyphened : afterHyphen? (skipGap rest) = none :=
    afterHyphen?_eq_none (follows.head?_ne (.inr rfl) (by simp))
  have starless : ∀ {n digits}, Numeral n digits →
      ∃ c digits', digits = c :: digits' ∧ c ≠ '*' := by
    intro n digits numeral
    obtain ⟨c, digits', rfl⟩ := List.exists_cons_of_ne_nil numeral.1
    refine ⟨c, digits', rfl, ?_⟩
    rintro rfl
    exact numeral.notMem (c := '*') (by decide) List.mem_cons_self
  cases spelling with
  | @all step tail stepped =>
    have read : item? u ('*' :: tail ++ rest) = some (withStep .all (tail ++ rest)) := rfl
    rw [read]
    exact withStep_takes stepped follows (.inl rfl)
  | single numeral small =>
    have read := number?_append numeral digitsStop
    rw [if_pos small] at read
    obtain ⟨c, digits, rfl, other⟩ := starless numeral
    rw [List.cons_append] at read ⊢
    rw [item?_of_number other read, unhyphened]
    exact withStep_takes .absent follows (.inr rfl)
  | name word named =>
    rw [item?_of_name word lettersStop named, unhyphened]
    exact .inl ⟨_, rfl, .inr rfl⟩
  | @range first last step digits digits' tail start stop smallStart smallStop stepped =>
    have readStart : number? (digits ++ '-' :: (digits' ++ (tail ++ rest))) =
        some (first, '-' :: (digits' ++ (tail ++ rest))) := by
      rw [number?_append start (List.takeWhile_cons_of_neg (by decide)), if_pos smallStart,
        skipGap_of_not_gap (by decide)]
    have readStop := number?_append stop (stepped.stops follows (by decide))
    rw [if_pos smallStop] at readStop
    obtain ⟨c, digits, rfl, other⟩ := starless start
    simp only [List.cons_append, List.append_assoc] at readStart ⊢
    rw [item?_of_number other readStart]
    simp only [afterHyphen?, Option.bind_some, readStop]
    exact withStep_takes stepped follows (.inr rfl)
  | @nameRange first last letters letters' word word' start stop =>
    have readStop := name?_append word' lettersStop
    rw [List.append_assoc, List.cons_append, item?_of_name word (by simp) start,
      skipGap_of_not_gap (by decide)]
    simp only [afterHyphen?, Option.bind_some, readStop, stop, Option.map_some]
    exact withStep_takes .absent follows (.inr rfl)

/-! ### Fields -/

/-- The spellings of items with a comma before each. -/
def afterCommas (texts : List (List Char)) : List Char := texts.flatMap (',' :: ·)

@[simp] theorem afterCommas_nil : afterCommas [] = [] := rfl

@[simp] theorem afterCommas_cons (text : List Char) (texts : List (List Char)) :
    afterCommas (text :: texts) = ',' :: (text ++ afterCommas texts) := by
  simp [afterCommas]

theorem intercalate_cons (text : List Char) (texts : List (List Char)) :
    [','].intercalate (text :: texts) = text ++ afterCommas texts := by
  unfold List.intercalate
  induction texts generalizing text with
  | nil => simp
  | cons next texts ih => simpa using ih next

/-- What may follow a field: nothing, or a blank and the next field. -/
inductive FollowsField : List Char → Prop where
  | done : FollowsField []
  | field {c : Char} (starts : StartsField c) (rest : List Char) : FollowsField (' ' :: c :: rest)

namespace FollowsField

variable {rest cs : List Char}

theorem follows (follows : FollowsField rest) : Follows rest := by
  cases follows with
  | done => exact .done
  | field starts rest => exact .field starts rest

theorem head?_ne_comma (follows : FollowsField rest) (left : Left rest cs) :
    cs.head? ≠ some ',' := by
  cases follows with
  | done => rcases left with rfl | rfl <;> simp [skipGap]
  | @field c starts rest =>
    rcases left with rfl | rfl
    · simp
    · have shown : skipGap (' ' :: c :: rest) = c :: rest := skipGap_of_not_gap starts.not_gap rest
      rw [shown, List.head?_cons, ne_eq, Option.some.injEq]
      rintro rfl
      exact absurd starts (by decide)

theorem follows_afterCommas (follows : FollowsField rest) (texts : List (List Char)) :
    Follows (afterCommas texts ++ rest) := by
  cases texts with
  | nil => exact follows.follows
  | cons text texts => exact .comma _

end FollowsField

theorem length_le_length_afterCommas (texts : List (List Char)) :
    texts.length ≤ (afterCommas texts).length := by
  induction texts with
  | nil => simp
  | cons text texts ih =>
    rw [afterCommas_cons, List.length_cons, List.length_cons, List.length_append]
    omega

/-- There are at most as many items as characters left. -/
theorem length_le_of_left {texts : List (List Char)} {rest after : List Char}
    (left : Left (afterCommas texts ++ rest) after) : texts.length ≤ after.length := by
  cases texts with
  | nil => simp
  | cons text texts =>
    rw [afterCommas_cons, List.cons_append] at left
    rw [left.eq_of_not_gap (by decide), List.length_cons, List.length_cons, List.length_append,
      List.length_append]
    have fewer := length_le_length_afterCommas texts
    omega

theorem moreItems_slash (u : FieldRange) (budget : Nat) (more : List Char) :
    moreItems u budget ('/' :: more) = some ([], '/' :: more) := by
  cases budget <;> rfl

/-- The items after the first, by induction on their spellings; each of them comes after a comma. -/
theorem moreItems_takes {u : FieldRange} {items : List Item} {texts : List (List Char)}
    {rest cs : List Char} {budget : Nat} (spellings : List.Forall₂ (ItemSpelling u) items texts)
    (follows : FollowsField rest) (enough : texts.length ≤ budget)
    (left : Left (afterCommas texts ++ rest) cs) :
    Takes items rest (moreItems u budget cs) := by
  induction spellings generalizing budget cs with
  | nil =>
    have other := follows.head?_ne_comma left
    refine .inl ⟨cs, ?_, left⟩
    unfold moreItems
    split
    · rfl
    · split
      · simp at other
      · rfl
  | @cons item text items texts spelling spellings ih =>
    obtain ⟨budget, rfl⟩ : ∃ fewer, budget = fewer + 1 := ⟨budget - 1, by simp at enough; omega⟩
    have comma : cs = ',' :: (text ++ (afterCommas texts ++ rest)) := by
      rw [afterCommas_cons, List.cons_append, List.append_assoc] at left
      exact left.eq_of_not_gap (by decide)
    rw [comma]
    rcases spelling.item?_takes (follows.follows_afterCommas texts) with
      ⟨after, read, left⟩ | ⟨cut, more, read⟩
    · rcases ih (by simpa using enough) left with ⟨after', readMore, left'⟩ | ⟨cuts, more, readMore⟩
      · exact .inl ⟨after', by simp [moreItems, read, readMore], left'⟩
      · exact .inr ⟨item :: cuts, more, by simp [moreItems, read, readMore]⟩
    · exact .inr ⟨[cut], more, by simp [moreItems, read, moreItems_slash]⟩

/-- No field starts with a slash. -/
theorem field?_slash (u : FieldRange) (more : List Char) : field? u ('/' :: more) = none := by
  have solid : skipGap ('/' :: more) = '/' :: more := skipGap_of_not_gap (by decide) more
  have number : number? ('/' :: more) = none := number?_eq_none (by decide) (by decide)
  have name : name? ('/' :: more) = none := by simp [name?, solid]
  have item : item? u ('/' :: more) = none := by simp [item?, number, name]
  simp [field?, items?, solid, item]

/-- How a field of the engine is spelled: its items, of which there is at least one, between
commas. -/
def FieldSpelling (u : FieldRange) (items : List Item) (field : List Char) : Prop :=
  items ≠ [] ∧ ∃ texts, field = [','].intercalate texts ∧ List.Forall₂ (ItemSpelling u) items texts

namespace FieldSpelling

variable {u : FieldRange} {items : List Item} {field rest after : List Char} {values : List Nat}

theorem starts (spelling : FieldSpelling u items field) :
    ∃ c cs, field = c :: cs ∧ StartsField c := by
  obtain ⟨present, texts, rfl, spellings⟩ := spelling
  cases spellings with
  | nil => exact absurd rfl present
  | cons first _ =>
    obtain ⟨c, cs, rfl, starts⟩ := first.starts
    exact ⟨c, _, intercalate_cons _ _, starts⟩

theorem skipGap_eq (spelling : FieldSpelling u items field) (rest : List Char) :
    skipGap (field ++ rest) = field ++ rest := by
  obtain ⟨c, cs, rfl, starts⟩ := spelling.starts
  exact skipGap_of_not_gap starts.not_gap _

theorem follows (spelling : FieldSpelling u items field) (rest : List Char) :
    FollowsField (' ' :: (field ++ rest)) := by
  obtain ⟨c, cs, rfl, starts⟩ := spelling.starts
  exact .field starts _

/-- A field that is spelled out is read as its items, or reading stops at a slash. -/
theorem items?_eq (spelling : FieldSpelling u items field) (follows : FollowsField rest) :
    items? u (field ++ rest) = some (items, skipGap rest) ∨
      ∃ cut more, items? u (field ++ rest) = some (cut, '/' :: more) := by
  have solid := spelling.skipGap_eq rest
  have slash : ∀ more, skipGap ('/' :: more) = '/' :: more := skipGap_of_not_gap (by decide)
  obtain ⟨present, texts, rfl, spellings⟩ := spelling
  cases spellings with
  | nil => exact absurd rfl present
  | @cons item text items texts spelling spellings =>
    simp only [items?, solid]
    rw [intercalate_cons, List.append_assoc]
    rcases spelling.item?_takes (follows.follows_afterCommas texts) with
      ⟨after, read, left⟩ | ⟨cut, more, read⟩
    · have enough := length_le_of_left left
      rcases moreItems_takes spellings follows enough left with
        ⟨after', readMore, left'⟩ | ⟨cuts, more, readMore⟩
      · exact .inl (by simp [read, readMore, left'.skipGap_eq])
      · exact .inr ⟨item :: cuts, more, by simp [read, readMore, slash]⟩
    · exact .inr ⟨[cut], more, by simp [read, moreItems_slash, slash]⟩

theorem field?_inv (spelling : FieldSpelling u items field) (follows : FollowsField rest)
    (read : field? u (field ++ rest) = some (values, after)) :
    after = skipGap rest ∧ u.values? items = some values ∨ ∃ more, after = '/' :: more := by
  unfold field? at read
  rcases spelling.items?_eq follows with found | ⟨cut, more, found⟩
  all_goals
    simp only [found, Option.bind_eq_bind, Option.bind_some, Option.bind_eq_some_iff,
      Option.pure_def, Option.some.injEq, Prod.mk.injEq] at read
  · obtain ⟨_, selected, rfl, rfl⟩ := read
    exact .inl ⟨rfl, selected⟩
  · obtain ⟨_, _, _, rfl⟩ := read
    exact .inr ⟨more, rfl⟩

/-- The field before a field that could be read has been read to its end. -/
theorem field?_next {u' : FieldRange} {items' : List Item} {field' after' : List Char}
    {values' : List Nat} (spelling : FieldSpelling u items field)
    (next : FieldSpelling u' items' field')
    (read : field? u (field ++ ' ' :: (field' ++ rest)) = some (values, after))
    (readNext : field? u' after = some (values', after')) :
    after = field' ++ rest ∧ u.values? items = some values := by
  rcases spelling.field?_inv (next.follows rest) read with ⟨rfl, values⟩ | ⟨more, rfl⟩
  · exact ⟨next.skipGap_eq rest, values⟩
  · rw [field?_slash] at readNext
    exact absurd readNext (by simp)

theorem field?_last (spelling : FieldSpelling u items field)
    (read : field? u field = some (values, [])) :
    u.values? items = some values := by
  rw [← List.append_nil field] at read
  rcases spelling.field?_inv .done read with ⟨_, values⟩ | ⟨more, slash⟩
  · exact values
  · exact absurd slash (by simp)

end FieldSpelling

/-- An item selects every value that is a number of steps beyond the first and not beyond the
last. -/
theorem Item.admits_iff {u : FieldRange} {item : Item} {v : Nat} : item.admits u v = true ↔
    (item.bounds u).1 ≤ v ∧ v ≤ (item.bounds u).2 ∧ item.step.getD 1 ∣ v - (item.bounds u).1 := by
  simp only [Item.admits, Bool.and_eq_true, decide_eq_true_eq, beq_iff_eq, Nat.dvd_iff_mod_eq_zero,
    and_assoc]

/-- A valid item begins and ends in the range of the field. -/
theorem Item.bounds_of_isValid {u : FieldRange} {item : Item} (valid : item.isValid u = true) :
    u.low ≤ (item.bounds u).1 ∧ (item.bounds u).2 ≤ u.high := by
  obtain ⟨base, step⟩ := item
  cases base <;> cases step <;>
    simp only [Item.isValid, Item.bounds, Option.isSome_none, Option.isSome_some,
      Bool.false_eq_true, if_true, if_false, Bool.and_eq_true, decide_eq_true_eq] at valid ⊢ <;>
    omega

/-- A valid item selects values of the field only. -/
theorem Item.mem_all_of_admits {u : FieldRange} {item : Item} {v : Nat}
    (valid : item.isValid u = true) (admitted : item.admits u v = true) : v ∈ u.all := by
  obtain ⟨first, last, _⟩ := Item.admits_iff.mp admitted
  obtain ⟨low, high⟩ := Item.bounds_of_isValid valid
  simp only [FieldRange.all, List.mem_range'_1]
  omega

/-- The values of a field are those that one of its items selects, and all of its items are
valid. -/
theorem FieldRange.values?_inv {u : FieldRange} {items : List Item} {values : List Nat}
    (selected : u.values? items = some values) :
    (∀ item ∈ items, item.isValid u = true) ∧
      ∀ v, v ∈ values ↔ ∃ item ∈ items, item.admits u v = true := by
  unfold FieldRange.values? at selected
  split at selected
  · rename_i valid
    rw [List.all_eq_true] at valid
    obtain rfl := Option.some.inj selected
    refine ⟨valid, fun v => ?_⟩
    rw [List.mem_filter, List.any_eq_true]
    constructor
    · exact fun member => member.2
    · rintro ⟨item, member, admitted⟩
      exact ⟨Item.mem_all_of_admits (valid item member) admitted, item, member, admitted⟩
  · simp at selected

/-- What the seven fields of a schedule have been read from, one after the other. -/
theorem Schedule.ofFields?_inv {cs : List Char} {schedule : Schedule}
    (read : Schedule.ofFields? cs = some schedule) :
    ∃ hour minute dayOfMonth month dayOfWeek last,
      field? .second cs = some (schedule.seconds, minute) ∧
      field? .minute minute = some (schedule.minutes, hour) ∧
      field? .hour hour = some (schedule.hours, dayOfMonth) ∧
      field? .dayOfMonth dayOfMonth = some (schedule.daysOfMonth, month) ∧
      field? .month month = some (schedule.months, dayOfWeek) ∧
      field? .dayOfWeek dayOfWeek = some (schedule.daysOfWeek, last) ∧
      (last = [] ∧ schedule.years = FieldRange.year.all ∨
        field? .year last = some (schedule.years, [])) := by
  simp only [Schedule.ofFields?, Option.bind_eq_bind, Option.bind_eq_some_iff, Prod.exists] at read
  obtain ⟨seconds, minute, second, minutes, hour, readMinute, hours, dayOfMonth, readHour,
    daysOfMonth,
    month, readDay, months, dayOfWeek, readMonth, daysOfWeek, last, readWeekday, years⟩ := read
  refine ⟨hour, minute, dayOfMonth, month, dayOfWeek, last, ?_⟩
  split at years
  · rename_i ended
    obtain rfl := Option.some.inj years
    exact ⟨second, readMinute, readHour, readDay, readMonth, readWeekday,
      .inl ⟨by simpa using ended, rfl⟩⟩
  · obtain ⟨values, rest, readYear, ended⟩ := by
      simpa only [Option.bind_eq_some_iff, Prod.exists] using years
    split at ended
    · rename_i ended'
      obtain rfl := Option.some.inj ended
      obtain rfl : rest = [] := by simpa using ended'
      exact ⟨second, readMinute, readHour, readDay, readMonth, readWeekday, .inr readYear⟩
    · simp at ended

/-- How seven fields with a blank between them are spelled. -/
structure Schedule.Spelling (seconds minutes hours daysOfMonth months daysOfWeek years : List Item)
    (text : List Char) : Prop where
  fields : ∃ second minute hour dayOfMonth month dayOfWeek year,
    text = [' '].intercalate [second, minute, hour, dayOfMonth, month, dayOfWeek, year] ∧
    FieldSpelling .second seconds second ∧ FieldSpelling .minute minutes minute ∧
    FieldSpelling .hour hours hour ∧ FieldSpelling .dayOfMonth daysOfMonth dayOfMonth ∧
    FieldSpelling .month months month ∧ FieldSpelling .dayOfWeek daysOfWeek dayOfWeek ∧
    FieldSpelling .year years year

/-- Seven fields that are spelled out are read as their items. -/
theorem Schedule.Spelling.values
    {seconds minutes hours daysOfMonth months daysOfWeek years : List Item} {text : List Char}
    {schedule : Schedule}
    (spelling : Schedule.Spelling seconds minutes hours daysOfMonth months daysOfWeek years text)
    (read : Schedule.ofFields? text = some schedule) :
    FieldRange.second.values? seconds = some schedule.seconds ∧
      FieldRange.minute.values? minutes = some schedule.minutes ∧
      FieldRange.hour.values? hours = some schedule.hours ∧
      FieldRange.dayOfMonth.values? daysOfMonth = some schedule.daysOfMonth ∧
      FieldRange.month.values? months = some schedule.months ∧
      FieldRange.dayOfWeek.values? daysOfWeek = some schedule.daysOfWeek ∧
      FieldRange.year.values? years = some schedule.years := by
  obtain ⟨second, minute, hour, dayOfMonth, month, dayOfWeek, year, rfl, spelledSecond,
    spelledMinute,
    spelledHour, spelledDay, spelledMonth, spelledWeekday, spelledYear⟩ := spelling.fields
  obtain ⟨toHour, toMinute, toDay, toMonth, toWeekday, last, readSecond, readMinute,
    readHour, readDay, readMonth, readWeekday, readYear⟩ := Schedule.ofFields?_inv read
  have joined : [' '].intercalate [second, minute, hour, dayOfMonth, month, dayOfWeek, year] =
      second ++ ' ' :: (minute ++ ' ' :: (hour ++ ' ' :: (dayOfMonth ++ ' ' :: (month ++ ' ' ::
        (dayOfWeek ++ ' ' :: (year ++ [])))))) := by
    simp [List.intercalate]
  rw [joined] at readSecond
  obtain ⟨rfl, seconds⟩ := spelledSecond.field?_next spelledMinute readSecond readMinute
  obtain ⟨rfl, minutes⟩ := spelledMinute.field?_next spelledHour readMinute readHour
  obtain ⟨rfl, hours⟩ := spelledHour.field?_next spelledDay readHour readDay
  obtain ⟨rfl, daysOfMonth⟩ := spelledDay.field?_next spelledMonth readDay readMonth
  obtain ⟨rfl, months⟩ := spelledMonth.field?_next spelledWeekday readMonth readWeekday
  refine ⟨seconds, minutes, hours, daysOfMonth, months, ?_⟩
  rcases readYear with ⟨rfl, _⟩ | readYear
  · rcases spelledWeekday.field?_inv (spelledYear.follows []) readWeekday with
      ⟨ended, _⟩ | ⟨_, slash⟩
    · have shown : skipGap (' ' :: (year ++ [])) = year ++ [] := spelledYear.skipGap_eq []
      obtain ⟨c, cs, rfl, _⟩ := spelledYear.starts
      rw [shown] at ended
      simp at ended
    · simp at slash
  · obtain ⟨rfl, daysOfWeek⟩ := spelledWeekday.field?_next spelledYear readWeekday readYear
    rw [List.append_nil] at readYear
    exact ⟨daysOfWeek, spelledYear.field?_last readYear⟩

end Horarium.Cron
