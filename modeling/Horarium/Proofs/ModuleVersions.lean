/-
Module: Horarium.Proofs.ModuleVersions
Purpose: Names of modules and their versions. The name that a module id gives is what stands before
  the first hyphen that a version follows, and nothing else can go wrong than that there is no such
  name. A name can be given any version and is derived from the result again; deriving twice is
  deriving once, unless there are blanks inside the id.
Trusted boundary: none
Main exports: ModuleName.Derivation, ModuleName.ofId_strips_version
-/
import Horarium.Proofs.Registrable

namespace Horarium

namespace Text

variable {cs rest : List Char} {c : Char}

/-- What comes before a character that is not blank is not touched at the end of a text. -/
theorem trimEnd_append_cons (solid : isBlank c = false) (cs rest : List Char) :
    trimEnd (cs ++ c :: rest) = cs ++ c :: trimEnd rest := by
  unfold trimEnd
  rw [List.reverse_append, List.reverse_cons, List.append_assoc, List.dropWhile_append]
  split
  next nothing => simp_all
  next => simp

/-- Where a text has no blanks around it, only what follows it is trimmed. -/
theorem Unpadded.trim_append_cons (unpadded : Unpadded cs) (present : cs ≠ [])
    (solid : isBlank c = false) (rest : List Char) :
    trim (cs ++ c :: rest) = cs ++ c :: trimEnd rest := by
  obtain ⟨first, others, rfl⟩ := List.exists_cons_of_ne_nil present
  have start : trimStart (first :: others ++ c :: rest) = first :: others ++ c :: rest :=
    List.dropWhile_cons_of_neg (by simp [unpadded.begins first rfl])
  rw [trim, start, trimEnd_append_cons solid]

/-- A text without any blank has none around it. -/
theorem unpadded_of_solid (solid : ∀ c ∈ cs, isBlank c = false) : Unpadded cs where
  begins c first := solid c (List.mem_of_mem_head? first)
  ends c last := solid c (List.mem_of_mem_getLast? last)

theorem length_trim_le (cs : List Char) : (trim cs).length ≤ cs.length :=
  (List.rdropWhile_prefix isBlank _).length_le.trans (List.dropWhile_suffix isBlank).length_le

theorem eq_of_splitOn {separator : Char} {piece : List Char}
    (cut : splitOn separator cs = [piece]) :
    cs = piece := by
  by_cases present : separator ∈ cs
  · obtain ⟨first, after, rfl, absent⟩ := List.eq_append_cons_of_mem present
    rw [splitOn_append absent] at cut
    exact absurd (List.cons.inj cut).2 (pieces_ne_nil _ _)
  · rw [splitOn_of_notMem present] at cut
    exact List.singleton_inj.mp cut

/-- Where a text has more than one piece, the first ends at a separator and the others come after
it. -/
theorem exists_of_splitOn {separator : Char} {first second : List Char} {pieces : List (List Char)}
    (cut : splitOn separator cs = first :: second :: pieces) :
    ∃ after, cs = first ++ separator :: after ∧ splitOn separator after = second :: pieces := by
  by_cases present : separator ∈ cs
  · obtain ⟨before, after, rfl, absent⟩ := List.eq_append_cons_of_mem present
    rw [splitOn_append absent, List.cons.injEq] at cut
    exact ⟨after, by rw [cut.1], cut.2⟩
  · rw [splitOn_of_notMem present] at cut
    simp at cut

end Text

namespace ModuleName

variable {cs name version rest : List Char}

/-! ### Versions -/

/-- Some ASCII digits. -/
def IsNumber (cs : List Char) : Prop := cs ≠ [] ∧ ∀ c ∈ cs, c.isDigit = true

/-- A text that begins with a version: three numbers with points between, and then the end of the
text, a hyphen or a plus sign. -/
inductive Version : List Char → Prop where
  | numbered {major minor patch suffix : List Char} (first : IsNumber major)
      (second : IsNumber minor)
      (third : IsNumber patch) (ends : ∀ c ∈ suffix.head?, c = '-' ∨ c = '+') :
      Version (major ++ '.' :: (minor ++ '.' :: (patch ++ suffix)))

/-- The characters that may stand within the numbers of a version or between them. -/
def isCore (c : Char) : Bool := c != '-' && c != '+'

theorem isNumber_iff (part : List Char) :
    (!part.isEmpty && part.all fun c => (Text.digit? c).isSome) = true ↔ IsNumber part := by
  have digit (c : Char) : (Text.digit? c).isSome = true ↔ c.isDigit = true := by
    unfold Text.digit? Char.isDigit
    split <;> simp_all [Char.le_def]
  simp [IsNumber, digit]

theorem IsNumber.notMem {number : List Char} (isNumber : IsNumber number) {c : Char}
    (other : c.isDigit = false) :
    c ∉ number := by
  intro member
  simp [isNumber.2 c member] at other

theorem IsNumber.isCore {number : List Char} (isNumber : IsNumber number) :
    ∀ c ∈ number, isCore c = true := by
  intro c member
  have hyphen : c ≠ '-' := fun same => isNumber.notMem (c := '-') (by decide) (same ▸ member)
  have plus : c ≠ '+' := fun same => isNumber.notMem (c := '+') (by decide) (same ▸ member)
  simp [ModuleName.isCore, hyphen, plus]

/-- The test for a version passes the texts that begin with one, and no others. -/
theorem startsVersion_iff : startsVersion cs = true ↔ Version cs := by
  have test : startsVersion cs = true ↔ (Text.splitOn '.' (cs.takeWhile isCore)).length = 3 ∧
      ∀ part ∈ Text.splitOn '.' (cs.takeWhile isCore), IsNumber part := by
    simp only [startsVersion, Bool.and_eq_true, beq_iff_eq, List.all_eq_true, ← isNumber_iff]
    rfl
  rw [test]
  constructor
  · rintro ⟨three, numbers⟩
    obtain ⟨major, minor, patch, parts⟩ := List.length_eq_three.mp three
    rw [parts] at numbers
    obtain ⟨behindMajor, whole, parts⟩ := Text.exists_of_splitOn parts
    obtain ⟨behindMinor, rest, parts⟩ := Text.exists_of_splitOn parts
    have last := Text.eq_of_splitOn parts
    have split := @List.takeWhile_append_dropWhile _ isCore cs
    have ends : ∀ c ∈ (cs.dropWhile isCore).head?, c = '-' ∨ c = '+' := by
      intro c found
      have stops := List.head?_dropWhile_not isCore cs
      rw [found] at stops
      by_contra other
      rw [not_or] at other
      simp [isCore, other] at stops
    rw [← split, whole, rest, last]
    simpa using Version.numbered (numbers major (by simp)) (numbers minor (by simp))
      (numbers patch (by simp)) ends
  · rintro ⟨first, second, third, ends⟩
    rename_i major minor patch suffix
    have stops : suffix.takeWhile isCore = [] := by
      cases suffix with
      | nil => rfl
      | cons c suffix => rcases ends c rfl with rfl | rfl <;> rfl
    have core : (major ++ '.' :: (minor ++ '.' :: (patch ++ suffix))).takeWhile isCore =
        major ++ '.' :: (minor ++ '.' :: patch) := by
      rw [List.takeWhile_append_of_pos first.isCore, List.takeWhile_cons_of_pos rfl,
        List.takeWhile_append_of_pos second.isCore, List.takeWhile_cons_of_pos rfl,
        List.takeWhile_append_of_pos third.isCore, stops, List.append_nil]
    have parts : Text.splitOn '.' (major ++ '.' :: (minor ++ '.' :: patch)) =
        [major, minor, patch] := by
      rw [Text.splitOn_append (first.notMem (by decide)),
        Text.splitOn_append (second.notMem (by decide)),
        Text.splitOn_of_notMem (third.notMem (by decide))]
    rw [core, parts]
    exact ⟨rfl, by simp [first, second, third]⟩

/-- A text begins with a version just if what stands before its next hyphen does. -/
theorem version_append_iff : Version (cs ++ '-' :: rest) ↔ Version cs := by
  have core : (cs ++ '-' :: rest).takeWhile isCore = cs.takeWhile isCore := by
    induction cs with
    | nil => rfl
    | cons c cs ih => rw [List.cons_append, List.takeWhile_cons, List.takeWhile_cons, ih]
  have same : startsVersion (cs ++ '-' :: rest) = startsVersion cs := by
    unfold startsVersion
    unfold isCore at core
    rw [core]
  rw [← startsVersion_iff, same, startsVersion_iff]

/-- Blanks behind a version can be left out. -/
theorem Version.trimEnd (version : Version cs) : Version (Text.trimEnd cs) := by
  obtain @⟨major, minor, patch, suffix, first, second, third, ends⟩ := version
  obtain ⟨digits, last, rfl⟩ := (List.eq_nil_or_concat' patch).resolve_left third.1
  have solid : Text.isBlank last = false := by
    have digit := (isNumber_iff _).mpr third
    exact Cron.isBlank_of_digit (by simp_all)
  have kept : Text.trimEnd (major ++ '.' :: (minor ++ '.' :: (digits ++ [last] ++ suffix))) =
      major ++ '.' :: (minor ++ '.' :: (digits ++ [last] ++ Text.trimEnd suffix)) := by
    have shown := Text.trimEnd_append_cons solid (major ++ '.' :: (minor ++ '.' :: digits)) suffix
    simpa using shown
  rw [kept]
  refine .numbered first second third fun c found => ends c ?_
  cases suffix with
  | nil => exact found
  | cons mark suffix =>
    have joint : Text.isBlank mark = false := by rcases ends mark rfl with rfl | rfl <;> decide
    have begins : Text.trimEnd (mark :: suffix) = mark :: Text.trimEnd suffix :=
      Text.trimEnd_append_cons joint [] suffix
    rw [begins] at found
    exact found

/-! ### Names -/

/-- No hyphen in the text has a version behind it. -/
def Unversioned (cs : List Char) : Prop :=
  ∀ name version, cs = name ++ '-' :: version → ¬ Version version

/-- The first hyphen in a text that has a version behind it, with what stands before and behind. -/
structure FirstVersion (cs name version : List Char) : Prop where
  whole : cs = name ++ '-' :: version
  version : Version version
  first : ∀ earlier later, cs = earlier ++ '-' :: later → Version later →
    name.length ≤ earlier.length

theorem unversioned_cons_iff {c : Char} :
    Unversioned (c :: cs) ↔ ¬ (c = '-' ∧ Version cs) ∧ Unversioned cs := by
  constructor
  · intro none
    refine ⟨?_, fun name version whole => none (c :: name) version (congrArg (c :: ·) whole)⟩
    rintro ⟨rfl, version⟩
    exact none [] cs rfl version
  · rintro ⟨here, later⟩ name version whole found
    cases name with
    | nil =>
      rw [List.nil_append, List.cons.injEq] at whole
      exact here ⟨whole.1, whole.2 ▸ found⟩
    | cons d name => exact later name version (List.cons.inj whole).2 found

theorem beforeVersion?_eq_none_iff : beforeVersion? cs = none ↔ Unversioned cs := by
  induction cs with
  | nil => exact iff_of_true rfl fun _ _ whole => by simp at whole
  | cons c cs ih =>
    rw [unversioned_cons_iff, ← ih, ← startsVersion_iff, beforeVersion?]
    split <;> simp_all

theorem firstVersion_of_beforeVersion? (found : beforeVersion? cs = some name) :
    ∃ version, FirstVersion cs name version := by
  induction cs generalizing name with
  | nil => simp [beforeVersion?] at found
  | cons c cs ih =>
    unfold beforeVersion? at found
    split at found
    next here =>
      obtain rfl := Option.some.inj found
      exact ⟨cs, congrArg (· :: cs) here.1, startsVersion_iff.mp here.2,
        fun _ _ _ _ => Nat.zero_le _⟩
    next passed =>
      obtain ⟨inner, before, rfl⟩ := Option.map_eq_some_iff.mp found
      obtain ⟨version, whole, versioned, first⟩ := ih before
      refine ⟨version, congrArg (c :: ·) whole, versioned, fun earlier later split follows => ?_⟩
      cases earlier with
      | nil =>
        rw [List.nil_append, List.cons.injEq] at split
        exact absurd ⟨split.1, startsVersion_iff.mpr (split.2 ▸ follows)⟩ passed
      | cons d earlier =>
        have least := first earlier later (List.cons.inj split).2 follows
        simpa using least

/-- What is found before a version is what stands before the first one. -/
theorem beforeVersion?_eq_some_iff :
    beforeVersion? cs = some name ↔ ∃ version, FirstVersion cs name version := by
  refine ⟨firstVersion_of_beforeVersion?, ?_⟩
  rintro ⟨version, here⟩
  cases found : beforeVersion? cs with
  | none => exact absurd here.version (beforeVersion?_eq_none_iff.mp found name version here.whole)
  | some other =>
    obtain ⟨_, there⟩ := firstVersion_of_beforeVersion? found
    have length : other.length = name.length :=
      le_antisymm (there.first _ _ here.whole here.version)
        (here.first _ _ there.whole there.version)
    rw [(List.append_inj (there.whole.symm.trans here.whole) length).1]

/-- The name of a module id is what stands before the first version in it, or all of it where there
is none. -/
theorem ofId_eq_ok_iff {id name : String} : ofId id = .ok name ↔ name ≠ "" ∧
    ((∃ version, FirstVersion (Text.trim id.toList) name.toList version) ∨
      Unversioned (Text.trim id.toList) ∧ name.toList = Text.trim id.toList) := by
  have derived : ofId id = .ok name ↔ name ≠ "" ∧
      (beforeVersion? (Text.trim id.toList)).getD (Text.trim id.toList) = name.toList := by
    unfold ofId
    dsimp only
    generalize (beforeVersion? (Text.trim id.toList)).getD (Text.trim id.toList) = given
    constructor
    · intro done
      split at done
      · simp at done
      · obtain rfl := Except.ok.inj done
        simp_all
    · rintro ⟨present, rfl⟩
      simp [present]
  rw [derived, ← beforeVersion?_eq_some_iff, ← beforeVersion?_eq_none_iff]
  cases beforeVersion? (Text.trim id.toList) <;> simp [eq_comm]

/-- There is no name exactly where nothing stands before the first version, or nothing at all. -/
theorem ofId_eq_error_iff {id : String} {error : InputError} :
    ofId id = .error error ↔ error = .moduleId id ∧
    (Text.trim id.toList = [] ∨ ∃ version, Text.trim id.toList = '-' :: version ∧
      Version version) := by
  have none_before :
      ((beforeVersion? (Text.trim id.toList)).getD (Text.trim id.toList)).isEmpty = true ↔
      Text.trim id.toList = [] ∨ ∃ version, Text.trim id.toList = '-' :: version ∧
        Version version := by
    rw [List.isEmpty_iff]
    cases found : beforeVersion? (Text.trim id.toList) with
    | none =>
      refine ⟨.inl, ?_⟩
      rintro (nothing | ⟨version, whole, versioned⟩)
      · exact nothing
      · exact absurd versioned (beforeVersion?_eq_none_iff.mp found [] version whole)
    | some name =>
      obtain ⟨version, here⟩ := firstVersion_of_beforeVersion? found
      constructor
      · rintro rfl
        exact .inr ⟨version, here.whole, here.version⟩
      · rintro (nothing | ⟨version, whole, versioned⟩)
        · simpa [nothing] using here.whole
        · exact List.length_eq_zero_iff.mp (Nat.le_zero.mp (here.first [] version whole versioned))
  unfold ofId
  dsimp only
  rw [← none_before]
  split
  next nothing => simp [nothing, eq_comm]
  next present => simp [present]

/-- A name from which itself is derived has no version. -/
theorem unversioned_of_ofId_self {name : String} (own : ofId name = .ok name) :
    name.toList ≠ [] ∧ Text.trim name.toList = name.toList ∧ Unversioned name.toList := by
  obtain ⟨present, ⟨version, here⟩ | ⟨unversioned, whole⟩⟩ := ofId_eq_ok_iff.mp own
  · have shorter : name.toList.length < (Text.trim name.toList).length := by
      rw [here.whole]
      simp
    exact absurd shorter (Nat.not_lt.mpr (Text.length_trim_le name.toList))
  · exact ⟨by simpa using present, whole.symm, whole ▸ unversioned⟩

/-- Behind a text without version, a version is the first. -/
theorem firstVersion_of_unversioned (unversioned : Unversioned name) (versioned : Version version) :
    FirstVersion (name ++ '-' :: version) name version where
  whole := rfl
  version := versioned
  first earlier later split follows := by
    obtain ⟨inner, rfl, _⟩ | ⟨inner, rfl, rest⟩ := List.append_eq_append_iff.mp split
    · simp
    · cases inner with
      | nil => simp
      | cons c inner =>
        -- this hyphen would stand within the name
        obtain ⟨rfl, rfl⟩ := List.cons.inj rest
        exact absurd (version_append_iff.mp follows) (unversioned earlier inner rfl)

/-- What stands before the first version has none. -/
theorem FirstVersion.unversioned (here : FirstVersion cs name version) : Unversioned name := by
  intro earlier later split follows
  have whole : cs = earlier ++ '-' :: (later ++ '-' :: version) := by
    rw [here.whole, split, List.append_assoc, List.cons_append]
  have least := here.first earlier _ whole (version_append_iff.mpr follows)
  rw [split, List.length_append, List.length_cons] at least
  omega

/-! ### Names of versions -/

/-- The name that is derived from a module id strips it of its version. -/
structure Derivation (id : String) : Prop where
  fails : ∀ error, ofId id = .error error ↔ error = .moduleId id ∧
    (Text.trim id.toList = [] ∨ ∃ version, Text.trim id.toList = '-' :: version ∧ Version version)
  names : ∀ name, ofId id = .ok name ↔ name ≠ "" ∧
    ((∃ version, FirstVersion (Text.trim id.toList) name.toList version) ∨
      Unversioned (Text.trim id.toList) ∧ name.toList = Text.trim id.toList)
  versions : ofId id = .ok id → ∀ version : String, Version version.toList →
    ofId (id ++ "-" ++ version) = .ok id
  again : (∀ c ∈ Text.trim id.toList, Text.isBlank c = false) → ∀ name, ofId id = .ok name →
    ofId name = .ok name

/-- Every module id is stripped of its version. -/
theorem ofId_strips_version (id : String) : Derivation id where
  fails error := ofId_eq_error_iff
  names name := ofId_eq_ok_iff
  versions own version versioned := by
    obtain ⟨present, trimmed, unversioned⟩ := unversioned_of_ofId_self own
    have unpadded : Text.Unpadded id.toList := trimmed ▸ Text.unpadded_trim id.toList
    have kept : Text.trim (id ++ "-" ++ version).toList =
        id.toList ++ '-' :: Text.trimEnd version.toList := by
      simpa using unpadded.trim_append_cons present (by decide : Text.isBlank '-' = false)
        version.toList
    refine ofId_eq_ok_iff.mpr ⟨by simpa using present, .inl ⟨Text.trimEnd version.toList, ?_⟩⟩
    rw [kept]
    exact firstVersion_of_unversioned unversioned versioned.trimEnd
  again solid name derived := by
    obtain ⟨present, ⟨version, here⟩ | ⟨unversioned, whole⟩⟩ := ofId_eq_ok_iff.mp derived
    · have own : Text.trim name.toList = name.toList := by
        refine (Text.unpadded_of_solid fun c member => solid c ?_).trim_eq
        rw [here.whole]
        exact List.mem_append_left _ member
      exact ofId_eq_ok_iff.mpr ⟨present, .inr ⟨own.symm ▸ here.unversioned, own.symm⟩⟩
    · have own : Text.trim name.toList = name.toList := by
        rw [whole, (Text.unpadded_trim id.toList).trim_eq]
      refine ofId_eq_ok_iff.mpr ⟨present, .inr ⟨?_, own.symm⟩⟩
      rw [own, whole]
      exact unversioned

/-- With a blank before the version, the name that is derived is not the name of itself. -/
example : ofId "mod -1.0.0" = .ok "mod " ∧ ofId "mod " = .ok "mod" := by
  decide +kernel

end ModuleName

end Horarium
