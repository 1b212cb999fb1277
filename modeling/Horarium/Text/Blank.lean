/-
Module: Horarium.Text.Blank
Purpose: White space in text. A character is blank when it has the Unicode property `White_Space`;
  trimming and the division into words go by that property alone, so a no-break space counts and a
  zero width space does not.
Trusted boundary: the list of white space, taken as it stands
Main exports: Text.isBlank, Text.trimStart, Text.trim, Text.isAllBlank, Text.splitOn, Text.words,
  Text.splitFirst?
-/

namespace Horarium.Text

/-- The characters with the Unicode property `White_Space`. -/
def isBlank (c : Char) : Bool :=
  let n := c.toNat
  (9 ≤ n && n ≤ 13) || n == 0x20 || n == 0x85 || n == 0xA0 || n == 0x1680
    || (0x2000 ≤ n && n ≤ 0x200A) || n == 0x2028 || n == 0x2029 || n == 0x202F || n == 0x205F
    || n == 0x3000

/-- The text without its leading blanks. -/
def trimStart (cs : List Char) : List Char := cs.dropWhile isBlank

/-- The text without its trailing blanks. -/
def trimEnd (cs : List Char) : List Char := (cs.reverse.dropWhile isBlank).reverse

/-- The text without the blanks at either end. -/
def trim (cs : List Char) : List Char := trimEnd (trimStart cs)

/-- Text that holds no character but blanks, the empty text included. -/
def isAllBlank (cs : List Char) : Bool := cs.all isBlank

/-- The pieces between the characters that satisfy `cut`; one more than there are such
characters. -/
def pieces (cut : Char → Bool) : List Char → List (List Char)
  | [] => [[]]
  | c :: cs =>
    if cut c then [] :: pieces cut cs
    else match pieces cut cs with
      | piece :: rest => (c :: piece) :: rest
      | [] => [[c]]

/-- The pieces between the occurrences of `separator`. -/
def splitOn (separator : Char) (cs : List Char) : List (List Char) := pieces (· == separator) cs

/-- The words of a text: its longest runs of characters that are not blank. -/
def words (cs : List Char) : List (List Char) := (pieces isBlank cs).filter (!·.isEmpty)

/-- What stands before and after the first occurrence of `separator`. -/
def splitFirst? (separator : Char) : List Char → Option (List Char × List Char)
  | [] => none
  | c :: cs =>
    if c == separator then some ([], cs)
    else (splitFirst? separator cs).map fun (before, after) => (c :: before, after)

theorem pieces_ne_nil (cut : Char → Bool) (cs : List Char) : pieces cut cs ≠ [] := by
  induction cs with
  | nil => simp [pieces]
  | cons c cs ih =>
    simp only [pieces]
    split
    · simp
    · split <;> simp

/-- A piece holds no character at which the text is cut. -/
theorem not_cut_of_mem_pieces {cut : Char → Bool} {cs piece : List Char}
    (hpiece : piece ∈ pieces cut cs) {c : Char} (hc : c ∈ piece) : cut c = false := by
  induction cs generalizing piece with
  | nil =>
    simp only [pieces, List.mem_singleton] at hpiece
    simp [hpiece] at hc
  | cons d cs ih =>
    simp only [pieces] at hpiece
    split at hpiece
    · rcases List.mem_cons.mp hpiece with rfl | hrest
      · simp at hc
      · exact ih hrest hc
    · rename_i hd
      split at hpiece
      · rename_i first rest heq
        rcases List.mem_cons.mp hpiece with rfl | hrest
        · rcases List.mem_cons.mp hc with rfl | hfirst
          · simpa using hd
          · exact ih (heq ▸ List.mem_cons_self ..) hfirst
        · exact ih (heq ▸ List.mem_cons_of_mem _ hrest) hc
      · rename_i heq
        exact absurd heq (pieces_ne_nil cut cs)

/-- A text that is not cut is one piece. -/
theorem pieces_of_uncut {cut : Char → Bool} {piece : List Char}
    (uncut : ∀ c ∈ piece, cut c = false) :
    pieces cut piece = [piece] := by
  induction piece with
  | nil => rfl
  | cons c cs ih =>
    rw [List.forall_mem_cons] at uncut
    simp [pieces, uncut.1, ih uncut.2]

/-- The first piece ends where the text is cut for the first time. -/
theorem pieces_append {cut : Char → Bool} {piece : List Char} (uncut : ∀ c ∈ piece, cut c = false)
    {c : Char} (cuts : cut c = true) (rest : List Char) :
    pieces cut (piece ++ c :: rest) = piece :: pieces cut rest := by
  induction piece with
  | nil => simp [pieces, cuts]
  | cons d ds ih =>
    rw [List.forall_mem_cons] at uncut
    simp [pieces, uncut.1, ih uncut.2]

theorem beq_eq_false_of_notMem {separator : Char} {piece : List Char} (absent : separator ∉ piece) :
    ∀ c ∈ piece, (c == separator) = false := by
  intro c member
  refine beq_eq_false_iff_ne.mpr ?_
  rintro rfl
  exact absent member

/-- A text without the separator is one piece. -/
theorem splitOn_of_notMem {separator : Char} {piece : List Char} (absent : separator ∉ piece) :
    splitOn separator piece = [piece] :=
  pieces_of_uncut (beq_eq_false_of_notMem absent)

/-- The first piece ends at the first separator. -/
theorem splitOn_append {separator : Char} {piece : List Char} (absent : separator ∉ piece)
    (rest : List Char) :
    splitOn separator (piece ++ separator :: rest) = piece :: splitOn separator rest :=
  pieces_append (beq_eq_false_of_notMem absent) (beq_self_eq_true separator) rest

end Horarium.Text
