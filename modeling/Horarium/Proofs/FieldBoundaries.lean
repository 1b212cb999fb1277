/-
Module: Horarium.Proofs.FieldBoundaries
Purpose: Where one field of a schedule ends and the next begins. The grammar passes over blanks, so
  at a comma, a hyphen or a slash a field may go on in the next word. A word that neither begins nor
  ends with one of them is read the same whatever words stand around it, and seven such words are a
  schedule exactly if each of them is a field by itself.
Trusted boundary: none
Main exports: Cron.Solid, Cron.ItemRead, Cron.Apart, Cron.IsField, Cron.ReadsFields
-/
import Horarium.Proofs.FieldReading

namespace Horarium.Cron

/-- The characters at which a field may go on in the next word. -/
def joiners : List Char := [',', '-', '/']

/-- A text without blanks. -/
def Solid (text : List Char) : Prop := ∀ c ∈ text, isGap c = false

theorem Solid.of_suffix {text left : List Char} (solid : Solid text) (suffix : left <:+ text) :
    Solid left :=
  fun c member => solid c (suffix.subset member)

theorem Solid.skipGap_eq {text : List Char} (solid : Solid text) : skipGap text = text := by
  cases text with
  | nil => rfl
  | cons c text => exact skipGap_of_not_gap (solid c List.mem_cons_self) text

/-- A text without blanks after which a field does not go on. -/
structure Closed (text : List Char) : Prop where
  solid : Solid text
  ends : ∀ c ∈ text.getLast?, c ∉ joiners

namespace Closed

variable {text left : List Char} {c : Char}

theorem of_suffix (closed : Closed text) (suffix : left <:+ text) : Closed left := by
  refine ⟨closed.solid.of_suffix suffix, fun c last => closed.ends c ?_⟩
  obtain ⟨front, rfl⟩ := suffix
  rw [Option.mem_def] at last ⊢
  rw [List.getLast?_append, last, Option.some_or]

theorem tail (closed : Closed (c :: text)) : Closed text :=
  closed.of_suffix (List.suffix_cons c text)

/-- Something follows a joiner. -/
theorem ne_nil (closed : Closed (c :: text)) (joins : c ∈ joiners) : text ≠ [] := by
  rintro rfl
  exact closed.ends c rfl joins

end Closed

/-! ### What is left is the end of the text -/

theorem skipGap_suffix (cs : List Char) : skipGap cs <:+ cs := List.dropWhile_suffix isGap

/-- A run of characters of a class, with the blanks around it. -/
def runOf (p : Char → Bool) (cs : List Char) : Option (List Char × List Char) :=
  let cs := skipGap cs
  let run := cs.takeWhile p
  if run.isEmpty then none else some (run, skipGap (cs.drop run.length))

theorem name?_eq_runOf (cs : List Char) : name? cs = runOf Char.isAlpha cs := rfl

theorem number?_eq_runOf (cs : List Char) :
    number? cs = (runOf (fun c => (Text.digit? c).isSome) cs).bind fun (run, left) =>
      (Text.readDigits? 0 run).bind fun n => if n ≤ Text.max32 then some (n, left) else none := by
  unfold number? runOf
  dsimp only
  split <;> rfl

theorem runOf_suffix {p : Char → Bool} {cs run left : List Char}
    (read : runOf p cs = some (run, left)) :
    left <:+ cs := by
  unfold runOf at read
  dsimp only at read
  split at read
  · simp at read
  · obtain ⟨-, rfl⟩ := Prod.mk.inj (Option.some.inj read)
    exact ((skipGap_suffix _).trans (List.drop_suffix _ _)).trans (skipGap_suffix cs)

theorem name?_suffix {cs name left : List Char} (read : name? cs = some (name, left)) :
    left <:+ cs := by
  rw [name?_eq_runOf] at read
  exact runOf_suffix read

/-- A number is a run of digits. -/
theorem exists_run_of_number? {cs left : List Char} {n : Nat} (read : number? cs = some (n, left)) :
    ∃ run, runOf (fun c => (Text.digit? c).isSome) cs = some (run, left) ∧
      Text.readDigits? 0 run = some n := by
  rw [number?_eq_runOf] at read
  obtain ⟨⟨run, left'⟩, found, value⟩ := Option.bind_eq_some_iff.mp read
  obtain ⟨n', digits, fits⟩ := Option.bind_eq_some_iff.mp value
  split at fits
  · obtain ⟨rfl, rfl⟩ := Prod.mk.inj (Option.some.inj fits)
    exact ⟨run, found, digits⟩
  · simp at fits

theorem number?_suffix {cs left : List Char} {n : Nat} (read : number? cs = some (n, left)) :
    left <:+ cs := by
  obtain ⟨run, found, -⟩ := exists_run_of_number? read
  exact runOf_suffix found

theorem withStep_suffix (base : Base) (cs : List Char) : (withStep base cs).2 <:+ cs := by
  unfold withStep
  split
  · split
    · rename_i read
      exact (number?_suffix read).trans (List.suffix_cons _ _)
    · exact List.suffix_rfl
  · exact List.suffix_rfl

theorem afterHyphen?_suffix {cs left : List Char} (found : afterHyphen? cs = some left) :
    left <:+ cs := by
  unfold afterHyphen? at found
  split at found
  · obtain rfl := Option.some.inj found
    exact List.suffix_cons _ _
  · simp at found

theorem hyphened_suffix {α : Type} {reader : List Char → Option (α × List Char)}
    {cs left : List Char} {value : α}
    (suffix : ∀ {cs value left}, reader cs = some (value, left) → left <:+ cs)
    (read : (afterHyphen? cs).bind reader = some (value, left)) : left <:+ cs := by
  obtain ⟨cs', found, read⟩ := Option.bind_eq_some_iff.mp read
  exact (suffix read).trans (afterHyphen?_suffix found)

/-- An item that begins with no star and no number is a name or a range of names. -/
theorem item?_of_no_number {u : FieldRange} {c : Char} {cs : List Char} (other : c ≠ '*')
    (unnumbered : number? (c :: cs) = none) :
    item? u (c :: cs) = (name? (c :: cs)).bind fun (name, rest) => (u.named? name).bind fun first =>
      match (afterHyphen? rest).bind name? with
      | some (name', rest') => (u.named? name').map fun last => withStep (.range first last) rest'
      | none => some (⟨.single first, none⟩, rest) := by
  unfold item?
  split
  · rename_i star
    exact absurd (List.cons.inj star).1 other
  · rw [unnumbered]
    dsimp only
    cases name? (c :: cs) with
    | none => rfl
    | some found =>
      obtain ⟨name, rest⟩ := found
      cases named : u.named? name with
      | none => simp [named]
      | some first =>
        simp only [Option.bind_eq_bind, Option.bind_some, named, Option.pure_def]
        cases (afterHyphen? rest).bind name? with
        | none => rfl
        | some found =>
          dsimp only
          cases u.named? found.1 <;> rfl

theorem item?_nil (u : FieldRange) : item? u [] = none := rfl

/-- What an item is read from. -/
inductive ItemRead (u : FieldRange) : List Char → Item → List Char → Prop where
  | all (cs : List Char) : ItemRead u ('*' :: cs) (withStep .all cs).1 (withStep .all cs).2
  | single {c : Char} {cs after : List Char} {n : Nat} (other : c ≠ '*')
      (number : number? (c :: cs) = some (n, after))
      (alone : (afterHyphen? after).bind number? = none) :
      ItemRead u (c :: cs) (withStep (.single n) after).1 (withStep (.single n) after).2
  | range {c : Char} {cs after after' : List Char} {first last : Nat} (other : c ≠ '*')
      (start : number? (c :: cs) = some (first, after))
      (stop : (afterHyphen? after).bind number? = some (last, after')) :
      ItemRead u (c :: cs) (withStep (.range first last) after').1
        (withStep (.range first last) after').2
  | name {c : Char} {cs name after : List Char} {n : Nat} (other : c ≠ '*')
      (unnumbered : number? (c :: cs) = none)
      (word : name? (c :: cs) = some (name, after)) (known : u.named? name = some n)
      (alone : (afterHyphen? after).bind name? = none) :
      ItemRead u (c :: cs) ⟨.single n, none⟩ after
  | nameRange {c : Char} {cs name name' after after' : List Char} {first last : Nat}
      (other : c ≠ '*')
      (unnumbered : number? (c :: cs) = none) (start : name? (c :: cs) = some (name, after))
      (knownStart : u.named? name = some first)
      (stop : (afterHyphen? after).bind name? = some (name', after'))
      (knownStop : u.named? name' = some last) :
      ItemRead u (c :: cs) (withStep (.range first last) after').1
        (withStep (.range first last) after').2

theorem item?_eq_some_iff {u : FieldRange} {cs left : List Char} {item : Item} :
    item? u cs = some (item, left) ↔ ItemRead u cs item left := by
  constructor
  · intro read
    -- An item and what is left are the two parts of the pair that has been read.
    have parts : ∀ {pair : Item × List Char}, some pair = some (item, left) →
        item = pair.1 ∧ left = pair.2 :=
      fun same => by simp [Option.some.inj same]
    cases cs with
    | nil => simp [item?_nil] at read
    | cons c cs =>
      by_cases star : c = '*'
      · subst star
        obtain ⟨rfl, rfl⟩ := parts read
        exact .all cs
      cases number : number? (c :: cs) with
      | some found =>
        rw [item?_of_number star number] at read
        cases stop : (afterHyphen? found.2).bind number? with
        | none =>
          rw [stop] at read
          obtain ⟨rfl, rfl⟩ := parts read
          exact .single star number stop
        | some found' =>
          rw [stop] at read
          obtain ⟨rfl, rfl⟩ := parts read
          exact .range star number stop
      | none =>
        rw [item?_of_no_number star number] at read
        obtain ⟨⟨name, after⟩, word, read⟩ := Option.bind_eq_some_iff.mp read
        obtain ⟨first, known, read⟩ := Option.bind_eq_some_iff.mp read
        cases stop : (afterHyphen? after).bind name? with
        | none =>
          rw [stop] at read
          obtain ⟨rfl, rfl⟩ := parts read
          exact .name star number word known stop
        | some found =>
          rw [stop] at read
          obtain ⟨last, knownStop, read⟩ := Option.map_eq_some_iff.mp read
          obtain ⟨rfl, rfl⟩ := parts (congrArg some read)
          exact .nameRange star number word known stop knownStop
  · intro read
    cases read with
    | all cs => rfl
    | single other number alone => rw [item?_of_number other number, alone]
    | range other start stop => rw [item?_of_number other start, stop]
    | name other unnumbered word known alone =>
      rw [item?_of_no_number other unnumbered, word]
      simp [known, alone]
    | nameRange other unnumbered start knownStart stop knownStop =>
      rw [item?_of_no_number other unnumbered, start]
      simp [knownStart, stop, knownStop]

theorem item?_suffix {u : FieldRange} {cs left : List Char} {item : Item}
    (read : item? u cs = some (item, left)) : left <:+ cs := by
  cases item?_eq_some_iff.mp read with
  | all cs => exact (withStep_suffix _ _).trans (List.suffix_cons _ _)
  | single _ number _ => exact (withStep_suffix _ _).trans (number?_suffix number)
  | range _ start stop =>
    exact (withStep_suffix _ _).trans
      ((hyphened_suffix number?_suffix stop).trans (number?_suffix start))
  | name _ _ word _ _ => exact name?_suffix word
  | nameRange _ _ start _ stop _ =>
    exact (withStep_suffix _ _).trans
      ((hyphened_suffix name?_suffix stop).trans (name?_suffix start))

theorem moreItems_of_head {u : FieldRange} {cs : List Char} (other : cs.head? ≠ some ',')
    (budget : Nat) :
    moreItems u budget cs = some ([], cs) := by
  cases budget with
  | zero => rfl
  | succ budget =>
    unfold moreItems
    split
    · simp at other
    · rfl

theorem moreItems_comma (u : FieldRange) (budget : Nat) (cs : List Char) :
    moreItems u (budget + 1) (',' :: cs) = (item? u cs).bind fun (item, left) =>
      (moreItems u budget left).map fun (items, left) => (item :: items, left) := by
  cases read : item? u cs with
  | none => simp [moreItems, read]
  | some found =>
    cases more : moreItems u budget found.2 <;> simp [moreItems, read, more]

theorem moreItems_suffix {u : FieldRange} {budget : Nat} {cs left : List Char} {items : List Item}
    (read : moreItems u budget cs = some (items, left)) : left <:+ cs := by
  induction budget generalizing cs items with
  | zero =>
    obtain ⟨-, rfl⟩ := Prod.mk.inj (Option.some.inj read)
    exact List.suffix_rfl
  | succ budget ih =>
    by_cases comma : cs.head? = some ','
    · obtain ⟨cs, rfl⟩ := List.head?_eq_some_iff.mp comma
      rw [moreItems_comma] at read
      obtain ⟨⟨item, after⟩, first, read⟩ := Option.bind_eq_some_iff.mp read
      obtain ⟨⟨more, left'⟩, others, same⟩ := Option.map_eq_some_iff.mp read
      obtain ⟨-, rfl⟩ := Prod.mk.inj same
      exact ((ih others).trans (item?_suffix first)).trans (List.suffix_cons _ _)
    · rw [moreItems_of_head comma] at read
      obtain ⟨-, rfl⟩ := Prod.mk.inj (Option.some.inj read)
      exact List.suffix_rfl

/-- The items of a field, without the blanks around the field. -/
def listed? (u : FieldRange) (cs : List Char) : Option (List Item × List Char) :=
  (item? u cs).bind fun (item, left) =>
    (moreItems u left.length left).map fun (items, left) => (item :: items, left)

theorem items?_eq_map (u : FieldRange) (cs : List Char) :
    items? u cs = (listed? u (skipGap cs)).map fun (items, left) => (items, skipGap left) := by
  unfold listed?
  cases read : item? u (skipGap cs) with
  | none => simp [items?, read]
  | some found =>
    cases more : moreItems u found.2.length found.2 <;> simp [items?, read, more]

theorem listed?_suffix {u : FieldRange} {cs left : List Char} {items : List Item}
    (read : listed? u cs = some (items, left)) : left <:+ cs := by
  obtain ⟨⟨item, after⟩, first, read⟩ := Option.bind_eq_some_iff.mp read
  obtain ⟨⟨more, left'⟩, others, same⟩ := Option.map_eq_some_iff.mp read
  obtain ⟨-, rfl⟩ := Prod.mk.inj same
  exact (moreItems_suffix others).trans (item?_suffix first)

theorem items?_suffix {u : FieldRange} {cs left : List Char} {items : List Item}
    (read : items? u cs = some (items, left)) : left <:+ cs := by
  rw [items?_eq_map] at read
  obtain ⟨⟨items', after⟩, found, same⟩ := Option.map_eq_some_iff.mp read
  obtain ⟨-, rfl⟩ := Prod.mk.inj same
  exact ((skipGap_suffix _).trans (listed?_suffix found)).trans (skipGap_suffix cs)

theorem field?_eq_bind (u : FieldRange) (cs : List Char) :
    field? u cs = (items? u cs).bind fun (items, left) => (u.values? items).map fun values =>
      (values, left) := by
  cases read : items? u cs with
  | none => simp [field?, read]
  | some found => cases values : u.values? found.1 <;> simp [field?, read, values]

theorem field?_suffix {u : FieldRange} {cs left : List Char} {values : List Nat}
    (read : field? u cs = some (values, left)) : left <:+ cs := by
  rw [field?_eq_bind] at read
  obtain ⟨⟨items, left'⟩, found, read⟩ := Option.bind_eq_some_iff.mp read
  obtain ⟨_, -, same⟩ := Option.map_eq_some_iff.mp read
  obtain ⟨-, rfl⟩ := Prod.mk.inj same
  exact items?_suffix found

/-! ### What follows a word -/

section Followed

variable {u : FieldRange} {text left rest after : List Char}

theorem takeWhile_append_of_stops {p : Char → Bool} (stops : rest.takeWhile p = []) :
    (text ++ rest).takeWhile p = text.takeWhile p := by
  induction text with
  | nil => exact stops
  | cons c text ih =>
    rw [List.cons_append, List.takeWhile_cons, List.takeWhile_cons, ih]

/-- A run of characters ends with the word, or before. -/
theorem runOf_followed {p : Char → Bool} (comma : p ',' = false) (blank : p ' ' = false)
    (closed : Closed text) (present : text ≠ []) (follows : FollowsField rest) :
    runOf p (text ++ rest) = (runOf p text).map fun (run, left) =>
      (run, skipGap (left ++ rest)) := by
  have whole : skipGap (text ++ rest) = text ++ rest := by
    obtain ⟨c, text, rfl⟩ := List.exists_cons_of_ne_nil present
    exact skipGap_of_not_gap (closed.solid c List.mem_cons_self) _
  have short : (text.takeWhile p).length ≤ text.length := (List.takeWhile_prefix p).length_le
  have left : skipGap (text.drop (text.takeWhile p).length) = text.drop (text.takeWhile p).length :=
    (closed.solid.of_suffix (List.drop_suffix _ _)).skipGap_eq
  simp only [runOf, whole, closed.solid.skipGap_eq,
    takeWhile_append_of_stops (follows.follows.stops comma blank),
    List.drop_append_of_le_length short]
  split
  · rfl
  · rw [Option.map_some, left]

theorem name?_followed (closed : Closed text) (present : text ≠ []) (follows : FollowsField rest) :
    name? (text ++ rest) = (name? text).map fun (name, left) => (name, skipGap (left ++ rest)) := by
  rw [name?_eq_runOf, name?_eq_runOf, runOf_followed (by decide) (by decide) closed present follows]

theorem number?_followed (closed : Closed text) (present : text ≠ [])
    (follows : FollowsField rest) :
    number? (text ++ rest) = (number? text).map fun (n, left) => (n, skipGap (left ++ rest)) := by
  rw [number?_eq_runOf, number?_eq_runOf,
    runOf_followed (by decide) (by decide) closed present follows]
  cases runOf (fun c => (Text.digit? c).isSome) text with
  | none => rfl
  | some found =>
    rw [Option.map_some, Option.bind_some, Option.bind_some]
    dsimp only
    cases Text.readDigits? 0 found.1 with
    | none => rfl
    | some n =>
      rw [Option.bind_some, Option.bind_some]
      split <;> rfl

/-- What is left after a word that has been read to its end is what follows, or it begins where the
word goes on. -/
theorem Left.cases_append (closed : Closed left) (kept : Left (left ++ rest) after) :
    left = [] ∧ Left rest after ∨ ∃ c cs, left = c :: cs ∧ after = c :: (cs ++ rest) := by
  cases left with
  | nil => exact .inl ⟨rfl, kept⟩
  | cons c cs => exact .inr ⟨c, cs, rfl, kept.eq_of_not_gap (closed.solid c List.mem_cons_self)⟩

/-- What follows a hyphen is read as in the word alone. -/
theorem hyphened_followed {α : Type} {reader : List Char → Option (α × List Char)}
    (followed : ∀ {text}, Closed text → text ≠ [] →
      reader (text ++ rest) = (reader text).map fun (value, left) =>
      (value, skipGap (left ++ rest)))
    (closed : Closed left) (follows : FollowsField rest) (kept : Left (left ++ rest) after) :
    (afterHyphen? after).bind reader =
      ((afterHyphen? left).bind reader).map fun (value, left) =>
        (value, skipGap (left ++ rest)) := by
  rcases kept.cases_append closed with ⟨rfl, kept⟩ | ⟨c, cs, rfl, rfl⟩
  · rw [afterHyphen?_eq_none (follows.follows.head?_ne kept (by simp))]
    rfl
  · by_cases hyphen : c = '-'
    · subst hyphen
      exact followed closed.tail (closed.ne_nil (by decide))
    · rw [afterHyphen?_eq_none (by simpa using hyphen),
        afterHyphen?_eq_none (by simpa using hyphen)]
      rfl

/-- Reading a word with something after it comes to the same as reading the word: it fails if that
fails, and else it finds the same and leaves what that leaves, and then what follows. -/
inductive Onward {α : Type} (rest : List Char) :
    Option (α × List Char) → Option (α × List Char) → Prop where
  | fails : Onward rest none none
  | finds (value : α) {left after : List Char} (kept : Left (left ++ rest) after) :
      Onward rest (some (value, left)) (some (value, after))

theorem Onward.bind {α β : Type} {x y : Option (α × List Char)}
    {f g : α × List Char → Option (β × List Char)} (read : Onward rest x y)
    (each : ∀ value left after, x = some (value, left) → Left (left ++ rest) after →
      Onward rest (f (value, left)) (g (value, after))) :
    Onward rest (x.bind f) (y.bind g) := by
  cases read with
  | fails => exact .fails
  | finds value kept => exact each _ _ _ rfl kept

theorem Onward.map {α β : Type} {x y : Option (α × List Char)} (read : Onward rest x y)
    (f : α → β) :
    Onward rest (x.map fun (value, left) => (f value, left))
      (y.map fun (value, after) => (f value, after)) := by
  cases read with
  | fails => exact .fails
  | finds value kept => exact .finds _ kept

/-- Once the blanks before it are passed over, what is left is the same. -/
theorem Onward.skipped {α : Type} {x y : Option (α × List Char)} (read : Onward rest x y) :
    (y.map fun (value, after) => (value, skipGap after)) =
      x.map fun (value, left) => (value, skipGap (left ++ rest)) := by
  cases read with
  | fails => rfl
  | finds value kept => simp [kept.skipGap_eq]

theorem withStep_of_head {cs : List Char} (other : cs.head? ≠ some '/') (base : Base) :
    withStep base cs = (⟨base, none⟩, cs) := by
  unfold withStep
  split
  · simp at other
  · rfl

theorem withStep_followed (base : Base) (closed : Closed left) (follows : FollowsField rest)
    (kept : Left (left ++ rest) after) :
    Onward rest (some (withStep base left)) (some (withStep base after)) := by
  rcases kept.cases_append closed with ⟨rfl, kept⟩ | ⟨c, cs, rfl, rfl⟩
  · rw [withStep_of_head (follows.follows.head?_ne kept (by simp))]
    exact .finds _ kept
  · by_cases slash : c = '/'
    · subst slash
      simp only [withStep, number?_followed closed.tail (closed.ne_nil (by decide)) follows]
      cases number? cs with
      | none => exact .finds _ (.inl rfl)
      | some found => exact .finds _ (.inr rfl)
    · rw [withStep_of_head (by simpa using slash), withStep_of_head (by simpa using slash)]
      exact .finds _ (.inl rfl)

theorem item?_followed (closed : Closed text) (present : text ≠ []) (follows : FollowsField rest) :
    Onward rest (item? u text) (item? u (text ++ rest)) := by
  have numbers := number?_followed closed present follows
  have names := name?_followed closed present follows
  obtain ⟨c, cs, rfl⟩ := List.exists_cons_of_ne_nil present
  by_cases star : c = '*'
  · subst star
    exact withStep_followed .all closed.tail follows (.inl rfl)
  rw [List.cons_append] at numbers names ⊢
  cases number : number? (c :: cs) with
  | some found =>
    obtain ⟨first, left⟩ := found
    have closedLeft := closed.of_suffix (number?_suffix number)
    rw [number, Option.map_some] at numbers
    rw [item?_of_number star number, item?_of_number star numbers,
      hyphened_followed (fun closed present => number?_followed closed present follows) closedLeft
        follows (.inr rfl)]
    cases stop : (afterHyphen? left).bind number? with
    | none => exact withStep_followed _ closedLeft follows (.inr rfl)
    | some found =>
      exact withStep_followed _ (closedLeft.of_suffix (hyphened_suffix number?_suffix stop))
        follows (.inr rfl)
  | none =>
    rw [number, Option.map_none] at numbers
    rw [item?_of_no_number star number, item?_of_no_number star numbers, names]
    cases name : name? (c :: cs) with
    | none => exact .fails
    | some found =>
      obtain ⟨name', left⟩ := found
      have closedLeft := closed.of_suffix (name?_suffix name)
      rw [Option.map_some, Option.bind_some, Option.bind_some]
      dsimp only
      cases u.named? name' with
      | none => exact .fails
      | some first =>
        rw [Option.bind_some, Option.bind_some,
          hyphened_followed (fun closed present => name?_followed closed present follows) closedLeft
            follows (.inr rfl)]
        cases stop : (afterHyphen? left).bind name? with
        | none => exact .finds _ (.inr rfl)
        | some found =>
          dsimp only [Option.map_some]
          cases u.named? found.1 with
          | none => exact .fails
          | some last =>
            exact withStep_followed _ (closedLeft.of_suffix (hyphened_suffix name?_suffix stop))
              follows (.inr rfl)

/-- The items after the first, by induction on the number that may be read, which is no limit in
either text. -/
theorem moreItems_followed {budget budget' : Nat} (closed : Closed text)
    (follows : FollowsField rest) (kept : Left (text ++ rest) after) (enough : text.length ≤ budget)
    (enough' : text.length ≤ budget') :
    Onward rest (moreItems u budget text) (moreItems u budget' after) := by
  induction budget generalizing text after budget' with
  | zero =>
    obtain rfl : text = [] := by simpa using enough
    rw [moreItems_of_head (follows.head?_ne_comma kept)]
    exact .finds _ kept
  | succ budget ih =>
    rcases kept.cases_append closed with ⟨rfl, kept⟩ | ⟨c, cs, rfl, rfl⟩
    · rw [moreItems_of_head (follows.head?_ne_comma kept), moreItems_of_head (by simp)]
      exact .finds _ kept
    by_cases comma : c = ','
    · subst comma
      obtain ⟨budget', rfl⟩ : ∃ fewer, budget' = fewer + 1 :=
        ⟨budget' - 1, by simp at enough'; omega⟩
      rw [List.length_cons] at enough enough'
      rw [moreItems_comma, moreItems_comma]
      refine (item?_followed closed.tail (closed.ne_nil (by decide)) follows).bind
        fun item left _ read kept => ?_
      have shorter := (item?_suffix read).length_le
      exact (ih (closed.tail.of_suffix (item?_suffix read)) kept (by omega) (by omega)).map _
    · rw [moreItems_of_head (by simpa using comma), moreItems_of_head (by simpa using comma)]
      exact .finds _ (.inl rfl)

theorem listed?_followed (closed : Closed text) (present : text ≠ [])
    (follows : FollowsField rest) :
    Onward rest (listed? u text) (listed? u (text ++ rest)) := by
  refine (item?_followed closed present follows).bind fun item left after read kept => ?_
  have closedLeft := closed.of_suffix (item?_suffix read)
  have long : left.length ≤ after.length := by
    rcases kept.cases_append closedLeft with ⟨rfl, -⟩ | ⟨c, cs, rfl, rfl⟩ <;> simp
  exact (moreItems_followed closedLeft follows kept le_rfl long).map _

theorem items?_followed (closed : Closed text) (present : text ≠ []) (follows : FollowsField rest) :
    items? u (text ++ rest) = (items? u text).map fun (items, left) =>
      (items, skipGap (left ++ rest)) := by
  have whole : skipGap (text ++ rest) = text ++ rest := by
    obtain ⟨c, text, rfl⟩ := List.exists_cons_of_ne_nil present
    exact skipGap_of_not_gap (closed.solid c List.mem_cons_self) _
  rw [items?_eq_map, items?_eq_map, whole, closed.solid.skipGap_eq,
    (listed?_followed closed present follows).skipped]
  cases read : listed? u text with
  | none => rfl
  | some found => simp [(closed.solid.of_suffix (listed?_suffix read)).skipGap_eq]

/-- A field is read from a word as from the word alone; what follows is left, without the blanks
before it. -/
theorem field?_followed (closed : Closed text) (present : text ≠ []) (follows : FollowsField rest) :
    field? u (text ++ rest) = (field? u text).map fun (values, left) =>
      (values, skipGap (left ++ rest)) := by
  rw [field?_eq_bind, field?_eq_bind, items?_followed closed present follows]
  cases items? u text with
  | none => rfl
  | some found =>
    rw [Option.map_some, Option.bind_some, Option.bind_some]
    dsimp only
    cases u.values? found.1 <;> rfl

end Followed

/-! ### Fields one after the other -/

/-- A word that no other word runs together with. -/
structure Apart (word : List Char) : Prop extends Closed word where
  starts : ∃ c cs, word = c :: cs ∧ StartsField c

namespace Apart

variable {word : List Char}

theorem ne_nil (apart : Apart word) : word ≠ [] := by
  obtain ⟨c, cs, rfl, -⟩ := apart.starts
  exact List.cons_ne_nil c cs

theorem follows (apart : Apart word) (rest : List Char) : FollowsField (' ' :: (word ++ rest)) := by
  obtain ⟨c, cs, rfl, starts⟩ := apart.starts
  exact .field starts _

theorem skipGap_blank (apart : Apart word) (rest : List Char) :
    skipGap (' ' :: (word ++ rest)) = word ++ rest := by
  obtain ⟨c, cs, rfl, starts⟩ := apart.starts
  exact skipGap_of_not_gap starts.not_gap _

end Apart

/-- Reading fields one after the other, with the values that are found and what is left in the
end. -/
inductive ReadsFields : List (FieldRange × List Nat) → List Char → List Char → Prop where
  | done (cs : List Char) : ReadsFields [] cs cs
  | next {u : FieldRange} {values : List Nat} {fields : List (FieldRange × List Nat)}
      {cs cs' left : List Char}
      (first : field? u cs = some (values, cs')) (others : ReadsFields fields cs' left) :
      ReadsFields ((u, values) :: fields) cs left

/-- A field that is a word by itself. -/
def IsField (field : FieldRange × List Nat) (word : List Char) : Prop :=
  field? field.1 word = some (field.2, [])

theorem join_cons (word next : List Char) (words : List (List Char)) :
    [' '].intercalate (word :: next :: words) =
      word ++ ' ' :: [' '].intercalate (next :: words) := by
  rw [List.intercalate_cons_cons, List.append_assoc, List.singleton_append]

theorem exists_join_eq (word : List Char) (words : List (List Char)) :
    ∃ rest, [' '].intercalate (word :: words) = word ++ rest := by
  cases words with
  | nil => exact ⟨[], by simp⟩
  | cons next words => exact ⟨_, join_cons word next words⟩

theorem follows_join {next : List Char} (apart : Apart next) (words : List (List Char)) :
    FollowsField (' ' :: [' '].intercalate (next :: words)) ∧
      skipGap (' ' :: [' '].intercalate (next :: words)) = [' '].intercalate (next :: words) := by
  obtain ⟨rest, joined⟩ := exists_join_eq next words
  rw [joined]
  exact ⟨apart.follows rest, apart.skipGap_blank rest⟩

/-- A field that is read from the first of some words ends in that word or with it. -/
theorem field?_join {u : FieldRange} {text : List Char} {words : List (List Char)}
    {values : List Nat} {left : List Char} (closed : Closed text) (present : text ≠ [])
    (apart : ∀ word ∈ words, Apart word)
    (read : field? u ([' '].intercalate (text :: words)) = some (values, left)) :
    (field? u text = some (values, []) ∧ left = [' '].intercalate words) ∨
      ∃ more, Closed more ∧ more ≠ [] ∧ left = [' '].intercalate (more :: words) := by
  cases words with
  | nil =>
    rw [List.intercalate_singleton] at read
    cases left with
    | nil => exact .inl ⟨read, rfl⟩
    | cons c cs =>
      exact .inr ⟨c :: cs, closed.of_suffix (field?_suffix read), List.cons_ne_nil c cs, by simp⟩
  | cons next words =>
    obtain ⟨follows, skipped⟩ := follows_join (apart next List.mem_cons_self) words
    rw [join_cons, field?_followed closed present follows] at read
    obtain ⟨⟨values', left'⟩, alone, same⟩ := Option.map_eq_some_iff.mp read
    obtain ⟨rfl, rfl⟩ := Prod.mk.inj same
    have closedLeft := closed.of_suffix (field?_suffix alone)
    cases left' with
    | nil => exact .inl ⟨alone, skipped⟩
    | cons c cs =>
      refine .inr ⟨c :: cs, closedLeft, List.cons_ne_nil c cs, ?_⟩
      rw [List.cons_append, skipGap_of_not_gap (closedLeft.solid c List.mem_cons_self), join_cons,
        List.cons_append]

theorem ne_nil_of_field? {u : FieldRange} {cs : List Char} {found : List Nat × List Char}
    (read : field? u cs = some found) : cs ≠ [] := by
  rintro rfl
  exact absurd read (by simp [field?, items?, skipGap, item?_nil])

/-- There are as many fields as words or more, and if there are as many, each word is a field: by
induction on the fields, as no field goes beyond the word in which it begins. -/
theorem ReadsFields.isField {fields : List (FieldRange × List Nat)} {text : List Char}
    {words : List (List Char)} (closed : Closed text) (present : text ≠ [])
    (apart : ∀ word ∈ words, Apart word)
    (reads : ReadsFields fields ([' '].intercalate (text :: words)) []) :
    (text :: words).length ≤ fields.length ∧
      ((text :: words).length = fields.length → List.Forall₂ IsField fields (text :: words)) := by
  induction fields generalizing text words with
  | nil =>
    obtain ⟨rest, joined⟩ := exists_join_eq text words
    rw [joined] at reads
    cases text with
    | nil => exact absurd rfl present
    | cons c text => cases reads
  | cons field fields ih =>
    obtain ⟨u, values⟩ := field
    cases reads with
    | next first others =>
      rcases field?_join closed present apart first with
        ⟨alone, rfl⟩ | ⟨more, closedMore, presentMore, rfl⟩
      · cases words with
        | nil =>
          refine ⟨by simp, fun same => ?_⟩
          obtain rfl : fields = [] := by simpa using same.symm
          exact .cons alone .nil
        | cons next words =>
          rw [List.forall_mem_cons] at apart
          obtain ⟨few, each⟩ := ih apart.1.toClosed apart.1.ne_nil apart.2 others
          refine ⟨by simpa using few, fun same => .cons alone (each ?_)⟩
          simpa using same
      · obtain ⟨few, -⟩ := ih closedMore presentMore apart others
        simp only [List.length_cons] at few ⊢
        exact ⟨by omega, fun same => by omega⟩

theorem readsFields_of_isField {fields : List (FieldRange × List Nat)} {words : List (List Char)}
    (each : List.Forall₂ IsField fields words) (apart : ∀ word ∈ words, Apart word) :
    ReadsFields fields ([' '].intercalate words) [] := by
  induction each with
  | nil => exact .done []
  | @cons field word fields words first others ih =>
    rw [List.forall_mem_cons] at apart
    have rest := ih apart.2
    cases words with
    | nil =>
      rw [List.intercalate_singleton]
      exact .next first rest
    | cons next words =>
      obtain ⟨follows, skipped⟩ := follows_join (apart.2 next List.mem_cons_self) words
      refine .next ?_ rest
      rw [join_cons, field?_followed apart.1.toClosed apart.1.ne_nil follows, first]
      simp [skipped]

/-- The fields of a schedule, with their values. -/
def Schedule.fields (schedule : Schedule) : List (FieldRange × List Nat) :=
  [(.second, schedule.seconds), (.minute, schedule.minutes), (.hour, schedule.hours),
    (.dayOfMonth, schedule.daysOfMonth), (.month, schedule.months),
    (.dayOfWeek, schedule.daysOfWeek), (.year, schedule.years)]

/-- A schedule has been read from seven fields, or from the first six. -/
theorem Schedule.readsFields_of_ofFields? {cs : List Char} {schedule : Schedule}
    (read : Schedule.ofFields? cs = some schedule) :
    ReadsFields schedule.fields cs [] ∨ ReadsFields (schedule.fields.take 6) cs [] := by
  obtain ⟨_, _, _, _, _, _, second, minute, hour, dayOfMonth, month, dayOfWeek, years⟩ :=
    Schedule.ofFields?_inv read
  rcases years with ⟨rfl, -⟩ | year
  · exact .inr (.next second (.next minute (.next hour (.next dayOfMonth
      (.next month (.next dayOfWeek (.done [])))))))
  · exact .inl (.next second (.next minute (.next hour (.next dayOfMonth
      (.next month (.next dayOfWeek (.next year (.done []))))))))

theorem Schedule.ofFields?_of_readsFields {cs : List Char} {schedule : Schedule}
    (reads : ReadsFields schedule.fields cs []) : Schedule.ofFields? cs = some schedule := by
  unfold Schedule.fields at reads
  obtain _ | ⟨second,
    _ | ⟨minute, _ | ⟨hour, _ | ⟨dayOfMonth, _ | ⟨month, _ | ⟨dayOfWeek, others⟩⟩⟩⟩⟩⟩ := reads
  cases others with
  | next year others =>
    cases others
    have more := ne_nil_of_field? year
    simp [Schedule.ofFields?, second, minute, hour, dayOfMonth, month, dayOfWeek, more, year]

/-- Seven words that stand apart are a schedule exactly if each of them is a field. -/
theorem Schedule.ofFields?_join_iff {words : List (List Char)} (seven : words.length = 7)
    (apart : ∀ word ∈ words, Apart word) {schedule : Schedule} :
    Schedule.ofFields? ([' '].intercalate words) = some schedule ↔
      List.Forall₂ IsField schedule.fields words := by
  constructor
  · intro read
    obtain ⟨text, words, rfl⟩ := List.exists_cons_of_ne_nil (List.ne_nil_of_length_eq_add_one seven)
    rw [List.forall_mem_cons] at apart
    rcases Schedule.readsFields_of_ofFields? read with reads | reads
    · exact (reads.isField apart.1.toClosed apart.1.ne_nil apart.2).2 seven
    · have six := (reads.isField apart.1.toClosed apart.1.ne_nil apart.2).1
      rw [seven] at six
      simp [Schedule.fields] at six
  · intro each
    exact Schedule.ofFields?_of_readsFields (readsFields_of_isField each apart)

end Horarium.Cron
