/-
Module: Horarium.Proofs.JsonText
Purpose: The text of a JSON value spells that value and nothing more. The division into tokens reads
  a printed value up to a character that ends it, and putting the tokens together gives the value
  back to the innermost open container. So a reader that is run on a printed value reads the draft
  of the value.
Trusted boundary: none
Main exports: Json.Delimited, Json.resume, Json.run_render
-/
import Horarium.Json.Reader

namespace Horarium.Json

mutual

/-- The tokens of the text of a value. -/
def printedTokens : Json → List Token
  | .null => [.null]
  | .bool b => [.bool b]
  | .number n => [.natural n]
  | .text s => [.text (some s)]
  | .array items => .openBracket :: (printedItems items ++ [.closeBracket])
  | .object members => .openBrace :: (printedMembers members ++ [.closeBrace])

/-- The tokens of items with commas between them. -/
def printedItems : List Json → List Token
  | [] => []
  | [item] => printedTokens item
  | item :: rest => printedTokens item ++ .comma :: printedItems rest

/-- The tokens of members with commas between them. -/
def printedMembers : List (String × Json) → List Token
  | [] => []
  | [(key, value)] => .text (some key) :: .colon :: printedTokens value
  | (key, value) :: rest =>
    .text (some key) :: .colon :: (printedTokens value ++ .comma :: printedMembers rest)

end

/-! ### Tokens -/

/-- What may follow a value: nothing, a comma, or the end of a container. -/
inductive Delimited : List Char → Prop where
  | done : Delimited []
  | before {c : Char} (mark : c ∈ [',', ']', '\x7d']) (rest : List Char) : Delimited (c :: rest)

theorem tokensFrom_cons (state : LexState) (c : Char) (cs : List Char) :
    tokensFrom state (c :: cs) = (state.step c).1 ++ tokensFrom (state.step c).2 cs := rfl

/-- The read part of a number of one or more digits. -/
def wholeNumber (n : Nat) : PartialNumber :=
  ⟨if n = 0 then .zero else .whole, false, n, 0, false, 0⟩

theorem begin_digit {n : Nat} (small : n < 10) :
    begin (Text.digit n) = ([], .number (wholeNumber n)) := by
  have all : ∀ m : Fin 10, begin (Text.digit m.val) = ([], .number (wholeNumber m.val)) := by decide
  exact all ⟨n, small⟩

theorem wholeNumber_zero : wholeNumber 0 = ⟨.zero, false, 0, 0, false, 0⟩ := rfl

theorem wholeNumber_of_ne_zero {n : Nat} (positive : n ≠ 0) :
    wholeNumber n = ⟨.whole, false, n, 0, false, 0⟩ := by
  rw [wholeNumber, if_neg positive]

theorem push?_digit {n : Nat} (positive : n ≠ 0) (digit : Nat) :
    (wholeNumber n).push? (Text.digit digit) = some (wholeNumber (10 * n + digit % 10)) := by
  rw [wholeNumber_of_ne_zero positive, wholeNumber_of_ne_zero (by omega)]
  simp [PartialNumber.push?, Text.digit?_digit]

theorem token_wholeNumber (n : Nat) : (wholeNumber n).token = .natural n := by
  by_cases zero : n = 0
  · subst zero
    rfl
  · rw [wholeNumber_of_ne_zero zero]
    rfl

theorem push?_mark (n : Nat) {c : Char} (mark : c ∈ [',', ']', '\x7d']) :
    (wholeNumber n).push? c = none := by
  have notDigit : Text.digit? c = none ∧ c ≠ '.' ∧ ¬ (c = 'e' ∨ c = 'E') := by
    simp only [List.mem_cons, List.not_mem_nil, or_false] at mark
    rcases mark with rfl | rfl | rfl <;> decide
  by_cases zero : n = 0
  · subst zero
    simp [wholeNumber_zero, PartialNumber.push?, notDigit]
  · simp [wholeNumber_of_ne_zero zero, PartialNumber.push?, notDigit]

/-- The digits of a number are read, by induction on the number without its last digit. -/
theorem tokensFrom_decimal (n : Nat) (rest : List Char) :
    tokensFrom .between (Text.decimal n ++ rest) = tokensFrom (.number (wholeNumber n)) rest := by
  induction n using Nat.strongRecOn generalizing rest with
  | ind n ih =>
    rw [Text.decimal]
    split
    · rename_i small
      rw [List.singleton_append, tokensFrom_cons]
      simp only [LexState.step, begin_digit small, List.nil_append]
    · rename_i large
      have last : 10 * (n / 10) + n % 10 = n := by omega
      rw [List.append_assoc, ih (n / 10) (by omega), List.singleton_append, tokensFrom_cons]
      simp only [LexState.step, push?_digit (show n / 10 ≠ 0 by omega), List.nil_append, last]

/-- A number ends before a mark. -/
theorem tokensFrom_wholeNumber (n : Nat) {rest : List Char} (delimited : Delimited rest) :
    tokensFrom (.number (wholeNumber n)) rest = .natural n :: tokensFrom .between rest := by
  cases delimited with
  | done => simp [tokensFrom, LexState.finish, token_wholeNumber]
  | before mark rest =>
    rw [tokensFrom_cons, tokensFrom_cons]
    simp only [LexState.step, push?_mark n mark, token_wholeNumber, reduceCtorEq, if_false,
      List.cons_append]

/-- The character that an escape spells is read into the text. -/
theorem tokensFrom_escape {t : PartialText} (unpaired : t.lead = none) (c : Char)
    (rest : List Char) :
    tokensFrom (.text t) (escape c ++ rest) = tokensFrom (.text (t.push c)) rest := by
  have simple : ∀ letter, letter ≠ 'u' → simpleEscape? letter = some c →
      tokensFrom (.text t) (['\\', letter] ++ rest) = tokensFrom (.text (t.push c)) rest := by
    intro letter other meant
    simp [tokensFrom, LexState.step, other, meant]
  unfold escape
  split
  · subst c
    exact simple '"' (by decide) rfl
  split
  · subst c
    exact simple '\\' (by decide) rfl
  split
  · subst c
    exact simple 'n' (by decide) rfl
  split
  · subst c
    exact simple 'r' (by decide) rfl
  split
  · subst c
    exact simple 't' (by decide) rfl
  split
  · rename_i code
    exact simple 'b' (by decide) (by rw [← Char.ofNat_toNat c, code]; rfl)
  split
  · rename_i code
    exact simple 'f' (by decide) (by rw [← Char.ofNat_toNat c, code]; rfl)
  split
  · rename_i control
    have code : 16 * (c.toNat / 16 % 16) + c.toNat % 16 = c.toNat := by omega
    have zero : Text.hexDigit? '0' = some 0 := by decide
    have unit : t.pushUnit c.toNat = t.push c := by
      rw [PartialText.pushUnit, unpaired]
      simp only [Char.ofNat_toNat]
      rw [if_neg (by omega), if_neg (by omega)]
    simp [tokensFrom_cons, LexState.step, zero, Text.hexDigit?_hexDigit, code, unit]
  · rename_i quote backslash _ _ _ _ _ visible
    simp [tokensFrom_cons, LexState.step, quote, backslash, visible]

/-- A quoted text is read to its closing quote, by induction on the characters left. -/
theorem tokensFrom_quoted (s : String) (rest : List Char) :
    tokensFrom .between (quoted s ++ rest) = .text (some s) :: tokensFrom .between rest := by
  have body : ∀ (cs : List Char) (t : PartialText), t.lead = none → t.sound = true →
      tokensFrom (.text t) (cs.flatMap escape ++ '"' :: rest) =
        .text (some (String.ofList (t.chars.reverse ++ cs))) :: tokensFrom .between rest := by
    intro cs
    induction cs with
    | nil =>
      intro t unpaired sound
      simp [tokensFrom, LexState.step, PartialText.token, unpaired, sound]
    | cons c cs ih =>
      intro t unpaired sound
      rw [List.flatMap_cons, List.append_assoc, tokensFrom_escape unpaired,
        ih (t.push c) rfl (by simp [PartialText.push, unpaired, sound])]
      simp [PartialText.push]
  have opened : tokensFrom .between (quoted s ++ rest) =
      tokensFrom (.text .empty) (s.toList.flatMap escape ++ '"' :: rest) := by
    simp [quoted, tokensFrom, LexState.step, begin]
  rw [opened, body s.toList .empty rfl rfl]
  simp [PartialText.empty]

theorem tokensFrom_mark {c : Char} {token : Token} (begins : begin c = ([token], .between))
    (rest : List Char) :
    tokensFrom .between (c :: rest) = token :: tokensFrom .between rest := by
  rw [tokensFrom_cons]
  simp only [LexState.step, begins, List.singleton_append]

mutual

/-- A printed value is read as its tokens, by recursion on the value. -/
theorem tokensFrom_print : ∀ (value : Json) {rest : List Char}, Delimited rest →
    tokensFrom .between (value.print ++ rest) = printedTokens value ++ tokensFrom .between rest
  | .null, rest, _ => by simp [print, printedTokens, tokensFrom_cons, LexState.step, begin]
  | .bool true, rest, _ => by simp [print, printedTokens, tokensFrom_cons, LexState.step, begin]
  | .bool false, rest, _ => by simp [print, printedTokens, tokensFrom_cons, LexState.step, begin]
  | .number n, rest, delimited => by
    rw [print, tokensFrom_decimal, tokensFrom_wholeNumber n delimited]
    rfl
  | .text s, rest, _ => by
    rw [print, tokensFrom_quoted]
    rfl
  | .array items, rest, _ => by
    have read := tokensFrom_printItems items (.before (c := ']') (by decide) rest)
    rw [tokensFrom_mark rfl] at read
    simp only [print, printedTokens, List.cons_append, List.append_assoc, List.nil_append]
    rw [tokensFrom_mark rfl, read]
  | .object members, rest, _ => by
    have read := tokensFrom_printMembers members (.before (c := '\x7d') (by decide) rest)
    rw [tokensFrom_mark rfl] at read
    simp only [print, printedTokens, List.cons_append, List.append_assoc, List.nil_append]
    rw [tokensFrom_mark rfl, read]

theorem tokensFrom_printItems : ∀ (items : List Json) {rest : List Char}, Delimited rest →
    tokensFrom .between (printItems items ++ rest) = printedItems items ++ tokensFrom .between rest
  | [], rest, _ => rfl
  | [item], rest, delimited => tokensFrom_print item delimited
  | item :: next :: later, rest, delimited => by
    have first :=
      tokensFrom_print item (.before (c := ',') (by decide) (printItems (next :: later) ++ rest))
    rw [tokensFrom_mark rfl, tokensFrom_printItems (next :: later) delimited] at first
    simpa [printItems, printedItems] using first

theorem tokensFrom_printMembers :
    ∀ (members : List (String × Json)) {rest : List Char}, Delimited rest →
    tokensFrom .between (printMembers members ++ rest) =
      printedMembers members ++ tokensFrom .between rest
  | [], rest, _ => rfl
  | [(key, value)], rest, delimited => by
    have named := tokensFrom_quoted key (':' :: (value.print ++ rest))
    rw [tokensFrom_mark rfl, tokensFrom_print value delimited] at named
    simpa [printMembers, printedMembers] using named
  | (key, value) :: next :: later, rest, delimited => by
    have first :=
      tokensFrom_print value (.before (c := ',') (by decide) (printMembers (next :: later) ++ rest))
    rw [tokensFrom_mark rfl, tokensFrom_printMembers (next :: later) delimited] at first
    have named :=
      tokensFrom_quoted key (':' :: (value.print ++ ',' :: (printMembers (next :: later) ++ rest)))
    rw [tokensFrom_mark rfl, first] at named
    simpa [printMembers, printedMembers] using named

end

/-! ### Documents -/

/-- The document that the remaining tokens complete once the innermost open container has a
value. -/
def resume (stack : List Frame) (value : Draft) (rest : List Token) : Document :=
  match complete value stack with
  | .more deeper next => assemble deeper next rest
  | .finished root => ⟨root, rest.isEmpty⟩
  | .stuck => ⟨close .broken stack, false⟩

theorem complete_ne_stuck (value : Draft) (stack : List Frame) : complete value stack ≠ .stuck := by
  rcases stack with _ | ⟨⟨_⟩ | ⟨_⟩, _⟩ <;> simp [complete]

/-- A token that completes a value gives it to the innermost container that is open then. -/
theorem assemble_completes {stack outer : List Frame} {want : Want} {token : Token} {value : Draft}
    (completes : advance stack want token = complete value outer) (rest : List Token) :
    assemble stack want (token :: rest) = resume outer value rest := by
  rw [assemble, completes, resume]
  cases completed : complete value outer with
  | more _ _ => rfl
  | finished _ => rfl
  | stuck => exact absurd completed (complete_ne_stuck value outer)

/-- A token that is due before a value, a key or a separator leads on. -/
theorem assemble_leads {stack deeper : List Frame} {want next : Want} {token : Token}
    (leads : advance stack want token = .more deeper next) (rest : List Token) :
    assemble stack want (token :: rest) = assemble deeper next rest := by
  rw [assemble, leads]

/-- A key and its colon name the value that is due next. -/
theorem assemble_named {want : Want} (due : want = .keyOrEnd ∨ want = .key) (key : String)
    (before : List (Option String × Draft)) (named : Option String) (stack : List Frame)
    (rest : List Token) :
    assemble (.object before named :: stack) want (.text (some key) :: .colon :: rest) =
      assemble (.object before (some key) :: stack) .value rest := by
  have keyed : advance (.object before named :: stack) want (.text (some key)) =
      .more (.object before (some key) :: stack) .colon := by
    rcases due with rfl | rfl <;> rfl
  have colon : advance (.object before (some key) :: stack) .colon .colon =
    .more (.object before (some key) :: stack) .value := rfl
  rw [assemble_leads keyed, assemble_leads colon]

mutual

/-- The tokens of a value give the value to the innermost open container, by recursion on the
value. -/
theorem assemble_printedTokens :
    ∀ (value : Json) (stack : List Frame) (want : Want) (rest : List Token),
    want = .value ∨ want = .valueOrEnd →
      assemble stack want (printedTokens value ++ rest) = resume stack value.toDraft rest
  | .null, stack, want, rest, due => by
    rcases due with rfl | rfl <;> exact assemble_completes rfl rest
  | .bool b, stack, want, rest, due => by
    rcases due with rfl | rfl <;> exact assemble_completes rfl rest
  | .number n, stack, want, rest, due => by
    rcases due with rfl | rfl <;> exact assemble_completes rfl rest
  | .text s, stack, want, rest, due => by
    rcases due with rfl | rfl <;> exact assemble_completes rfl rest
  | .array items, stack, want, rest, due => by
    have opened : advance stack want .openBracket = .more (.array [] :: stack) .valueOrEnd := by
      rcases due with rfl | rfl <;> rfl
    have inside := assemble_printedItems items [] stack .valueOrEnd rest (.inl rfl)
    rw [← assemble_leads opened] at inside
    simpa [printedTokens, toDraft] using inside
  | .object members, stack, want, rest, due => by
    have opened : advance stack want .openBrace = .more (.object [] none :: stack) .keyOrEnd := by
      rcases due with rfl | rfl <;> rfl
    have inside := assemble_printedMembers members [] none stack .keyOrEnd rest (.inl rfl)
    rw [← assemble_leads opened] at inside
    simpa [printedTokens, toDraft] using inside

theorem assemble_printedItems :
    ∀ (items : List Json) (before : List Draft) (stack : List Frame) (want : Want)
    (rest : List Token), want = .valueOrEnd ∨ want = .value ∧ items ≠ [] →
      assemble (.array before :: stack) want (printedItems items ++ .closeBracket :: rest) =
        resume stack (.array (before.reverse ++ itemsToDraft items)) rest
  | [], before, stack, want, rest, due => by
    obtain rfl : want = .valueOrEnd := by simpa using due
    rw [itemsToDraft, List.append_nil]
    exact assemble_completes rfl rest
  | [item], before, stack, want, rest, due => by
    rw [printedItems,
      assemble_printedTokens item (.array before :: stack) want (.closeBracket :: rest)
      (due.symm.imp_left And.left), itemsToDraft, itemsToDraft, ← List.reverse_cons]
    exact assemble_completes rfl rest
  | item :: next :: later, before, stack, want, rest, due => by
    have first := assemble_printedTokens item (.array before :: stack) want
      (.comma :: (printedItems (next :: later) ++ .closeBracket :: rest))
        (due.symm.imp_left And.left)
    have others := assemble_printedItems (next :: later) (item.toDraft :: before) stack .value rest
      (.inr ⟨rfl, by simp⟩)
    have comma : advance (.array (item.toDraft :: before) :: stack) .separator .comma =
      .more (.array (item.toDraft :: before) :: stack) .value := rfl
    rw [← assemble_leads comma] at others
    simpa [printedItems, itemsToDraft] using first.trans others

theorem assemble_printedMembers :
    ∀ (members : List (String × Json)) (before : List (Option String × Draft))
    (named : Option String) (stack : List Frame) (want : Want) (rest : List Token),
    want = .keyOrEnd ∨ want = .key ∧ members ≠ [] →
      assemble (.object before named :: stack) want
        (printedMembers members ++ .closeBrace :: rest) =
        resume stack (.object (before.reverse ++ membersToDraft members)) rest
  | [], before, named, stack, want, rest, due => by
    obtain rfl : want = .keyOrEnd := by simpa using due
    rw [membersToDraft, List.append_nil]
    exact assemble_completes rfl rest
  | [(key, value)], before, named, stack, want, rest, due => by
    rw [printedMembers, List.cons_append, List.cons_append, assemble_named (due.imp_right And.left),
      assemble_printedTokens value _ .value _ (.inl rfl), membersToDraft, membersToDraft,
        ← List.reverse_cons]
    exact assemble_completes rfl rest
  | (key, value) :: next :: later, before, named, stack, want, rest, due => by
    have first := assemble_printedTokens value (.object before (some key) :: stack) .value
      (.comma :: (printedMembers (next :: later) ++ .closeBrace :: rest)) (.inl rfl)
    have others :=
      assemble_printedMembers (next :: later) ((some key, value.toDraft) :: before) none stack .key
      rest (.inr ⟨rfl, by simp⟩)
    have comma :
      advance (.object ((some key, value.toDraft) :: before) none :: stack) .separator .comma =
      .more (.object ((some key, value.toDraft) :: before) none :: stack) .key := rfl
    rw [← assemble_leads comma] at others
    have all := first.trans others
    rw [← assemble_named (due.imp_right And.left) key before named] at all
    simpa [printedMembers, membersToDraft] using all

end

/-- The text of a value spells the value, and nothing follows it. -/
theorem ofText_render (value : Json) : Document.ofText value.render = ⟨value.toDraft, true⟩ := by
  have read := tokensFrom_print value .done
  have assembled := assemble_printedTokens value [] .value [] (.inl rfl)
  rw [List.append_nil] at read assembled
  have ended : tokensFrom .between [] = [] := rfl
  rw [ended, List.append_nil] at read
  rw [Document.ofText, tokens, render, String.toList_ofList, read, assembled]
  rfl

/-- A reader that is run on the text of a value reads the draft of the value. -/
theorem run_render {α : Type} (reader : Reader α) (value : Json) :
    reader.run value.render = reader value.toDraft := by
  simp only [Reader.run, ofText_render, if_true]
  cases reader value.toDraft <;> rfl

end Horarium.Json
