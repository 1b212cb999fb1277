/-
Module: Horarium.Proofs.UuidText
Purpose: The written form of an identifier tells which identifier it is: it is read as that
  identifier. Jobs are kept under written forms, so that timers with different identifiers never
  meet in the engine.
Trusted boundary: none
Main exports: Uuid.parse?_toText, Uuid.toText_injective
-/
import Horarium.Uuid
import Mathlib.Data.List.Basic

namespace Horarium.Uuid

theorem hyphen_notMem_hex (id : Uuid) : '-' ∉ id.hex := by
  intro member
  obtain ⟨digit, _, written⟩ := List.mem_map.mp member
  have read := congrArg Text.hexDigit? written
  rw [Text.hexDigit?_hexDigit] at read
  exact absurd read (by simp [Text.hexDigit?])

theorem length_hex (id : Uuid) : id.hex.length = 32 := by
  rw [hex, List.length_map, id.length_digits]

theorem ofHex?_hex (id : Uuid) : ofHex? id.hex = some id := by
  have digits : ∀ digits : List (Fin 16),
      (digits.map fun digit => Text.hexDigit digit.val).mapM digitOf? = some digits := by
    intro digits
    induction digits with
    | nil => rfl
    | cons digit digits ih =>
      have read : digitOf? (Text.hexDigit digit.val) = some digit := by
        simp [digitOf?, Text.hexDigit?_hexDigit, Nat.mod_eq_of_lt digit.isLt]
      simp [read, ih]
  simp [ofHex?, hex, digits, id.length_digits]

/-- The pieces between the hyphens of the written form. -/
def groups (id : Uuid) : List (List Char) :=
  [id.hex.take 8, (id.hex.drop 8).take 4, (id.hex.drop 12).take 4, (id.hex.drop 16).take 4,
    id.hex.drop 20]

theorem splitOn_chars (id : Uuid) : Text.splitOn '-' id.chars = id.groups := by
  have absent : ∀ part : List Char, part ⊆ id.hex → '-' ∉ part := fun part inside member =>
    hyphen_notMem_hex id (inside member)
  have cut : ∀ n m, '-' ∉ (id.hex.drop n).take m := fun n m =>
    absent _ (List.Subset.trans (List.take_subset m _) (List.drop_subset n _))
  unfold chars groups
  simp only [List.append_assoc, List.cons_append]
  rw [Text.splitOn_append (absent _ (List.take_subset 8 _)), Text.splitOn_append (cut 8 4),
    Text.splitOn_append (cut 12 4), Text.splitOn_append (cut 16 4),
    Text.splitOn_of_notMem (absent _ (List.drop_subset 20 _))]

/-- The pieces make up the digits. -/
theorem flatten_groups (id : Uuid) : id.groups.flatten = id.hex := by
  have join : ∀ n m, (id.hex.drop n).take m ++ id.hex.drop (n + m) = id.hex.drop n := by
    intro n m
    rw [← List.drop_drop, List.take_append_drop]
  simp only [groups, List.flatten_cons, List.flatten_nil, List.append_nil]
  rw [join 16 4, join 12 4, join 8 4, List.take_append_drop]

theorem ofGroups?_chars (id : Uuid) : ofGroups? id.chars = some id := by
  have lengths : id.groups.map List.length = [8, 4, 4, 4, 12] := by
    simp [groups, length_hex]
  rw [ofGroups?, splitOn_chars, if_pos lengths, flatten_groups, ofHex?_hex]

/-- The written form is read as the identifier. -/
theorem parse?_toText (id : Uuid) : parse? id.toText = some id := by
  have length : id.chars.length = 36 := by simp [chars, length_hex]
  have hyphen : (id.chars.take 9)[8]? = some '-' := by
    simp [chars, length_hex]
  have colon : urn[8]? = some ':' ∧ (urn.map Char.toUpper)[8]? = some ':' := by decide
  have unnamed : ¬ (id.chars.take 9 = urn ∨ id.chars.take 9 = urn.map Char.toUpper) := by
    rintro (named | named)
    · rw [named, colon.1] at hyphen
      simp at hyphen
    · rw [named, colon.2] at hyphen
      simp at hyphen
  have bare : unwrap id.chars = id.chars := by
    rw [unwrap, if_neg (by simp [length]), if_neg unnamed]
  simp only [parse?, toText, String.toList_ofList, length]
  rw [if_neg (by decide), bare, ofGroups?_chars]

/-- Different identifiers are written differently. -/
theorem toText_injective : Function.Injective toText := by
  intro first second same
  have read := congrArg parse? same
  simpa [parse?_toText] using read

@[simp] theorem toText_inj {first second : Uuid} : first.toText = second.toText ↔ first = second :=
  toText_injective.eq_iff

end Horarium.Uuid
