/-
Module: Horarium.Proofs.RecordForms
Purpose: The written form of a value is read as that value. A record is written as an object whose
  members each bring one field into the record; a member that is left out leaves its field as it is
  in the blank record. So the parts of a timer are read back one inside the other, and with them the
  timer.
Trusted boundary: none
Main exports: Json.Reader.Inverts, Json.Keyed, TimerRecord.HasFourDigitYears, TimerRecord.read
-/
import Horarium.Proofs.InstantText
import Horarium.Proofs.JsonText
import Horarium.Proofs.UuidText
import Horarium.Timer.Codec
import Mathlib.Data.List.Nodup

namespace Horarium.Json

namespace Reader

/-- A reader that reads what a writer writes. -/
def Inverts {α : Type} (reader : Reader α) (write : α → Json) : Prop :=
  ∀ a, reader (write a).toDraft = .ok a

variable {α β : Type} {reader : Reader α} {write : α → Json}

theorem text_inverts : Reader.text.Inverts Json.text := fun _ => rfl

theorem bool_inverts : Reader.bool.Inverts Json.bool := fun _ => rfl

theorem variant_inverts {emptyForNull : Bool} {find? : String → Option α} {name : α → String}
    (found : ∀ a, find? (name a) = some a) :
    (Reader.variant emptyForNull find?).Inverts fun a => .text (name a) := by
  intro a
  simp [Reader.variant, toDraft, found]

theorem list_inverts (inverts : reader.Inverts write) :
    reader.list.Inverts fun items => .array (items.map write) := by
  intro items
  have all : Reader.all reader (itemsToDraft (items.map write)) = .ok items := by
    induction items with
    | nil => rfl
    | cons item items ih =>
      simp only [List.map_cons, itemsToDraft, Reader.all, inverts item, ih]
      rfl
  exact all

end Reader

/-- What is read as a value where `null` stands for none. -/
theorem optional_of_reads {α : Type} {reader : Reader α} {draft : Draft} {a : α}
    (reads : reader draft = .ok a) (present : draft ≠ .null) :
    Reader.optional reader draft = .ok (some a) := by
  unfold Reader.optional
  split
  · exact absurd rfl present
  · rw [reads]
    rfl

/-- What is always written, as `null` where there is no value. -/
theorem optional_ofOption {α : Type} {reader : Reader α} {write : α → Json} {value : Option α}
    (reads : ∀ a ∈ value, reader (write a).toDraft = .ok a)
    (present : ∀ a, (write a).toDraft ≠ .null) :
    Reader.optional reader (ofOption write value).toDraft = .ok value := by
  cases value with
  | none => rfl
  | some a => exact optional_of_reads (reads a rfl) (present a)

/-! ### Records -/

variable {α β : Type} {fields : List (Field α)} {entries entries' : List (String × Json)}
  {before after last : α}

/-- The members of an object, put into a record one after the other, turn it into another one. -/
inductive Puts (fields : List (Field α)) : List (String × Json) → α → α → Prop where
  | nil (record : α) : Puts fields [] record record
  | cons {key : String} {value : Json} {rest : List (String × Json)} {f : Field α}
      {before between after : α}
      (known : fields.find? (·.key == key) = some f)
      (put : f.put value.toDraft before = .ok between)
      (others : Puts fields rest between after) : Puts fields ((key, value) :: rest) before after

namespace Puts

theorem append (first : Puts fields entries before after)
    (second : Puts fields entries' after last) :
    Puts fields (entries ++ entries') before last := by
  induction first with
  | nil _ => exact second
  | cons known put _ ih => exact .cons known put (ih second)

/-- A member that is always written. -/
theorem always {key : String} {presence : Presence} {reader : Reader β} {set : β → α → α}
    {value : Json} {b : β}
    (known : fields.find? (·.key == key) = some (field key presence reader set))
    (reads : reader value.toDraft = .ok b) (becomes : set b before = after)
    (others : Puts fields entries after last) :
    Puts fields ((key, value) :: entries) before last := by
  refine .cons known ?_ others
  simp [field, reads, Except.map, becomes]

/-- A member that is left out where there is no value. -/
theorem ifPresent {key : String} {presence : Presence} {reader : Reader β} {set : Option β → α → α}
    {write : β → Json}
    (known : fields.find? (·.key == key) = some (field key presence reader.optional set))
    {value : Option β} (reads : ∀ b ∈ value, reader (write b).toDraft = .ok b)
    (present : ∀ b, (write b).toDraft ≠ .null) (absent : set none before = before)
    (becomes : set value before = after) :
    Puts fields (member? key write value) before after := by
  cases value with
  | none =>
    obtain rfl := absent.symm.trans becomes
    exact .nil before
  | some b => exact always known (optional_of_reads (reads b rfl) (present b)) becomes (.nil after)

/-- Members with different keys are read one after the other, by induction on them. -/
theorem members_eq (puts : Puts fields entries before after) (met : List String)
    (distinct : (entries.map Prod.fst).Nodup) (fresh : ∀ key ∈ entries.map Prod.fst, key ∉ met) :
    Reader.members fields met before (membersToDraft entries) =
      .ok ((entries.map Prod.fst).reverse ++ met, after) := by
  induction puts generalizing met with
  | nil _ => rfl
  | @cons key value rest f _ _ _ known put _ ih =>
    rw [List.map_cons, List.nodup_cons] at distinct
    rw [List.map_cons, List.forall_mem_cons] at fresh
    have new : met.contains key = false := by simpa using fresh.1
    have later := ih (key :: met) distinct.2 fun other member => by
      rw [List.mem_cons, not_or]
      exact ⟨fun same => distinct.1 (same ▸ member), fresh.2 other member⟩
    simp only [membersToDraft, Reader.members, known, new, Bool.false_eq_true, if_false, put]
    rw [List.map_cons, List.reverse_cons, List.append_assoc]
    exact later

/-- An object whose members fill the blank record, all required ones among them, is read as the
record. -/
theorem record_eq {blank : α} (puts : Puts fields entries blank after)
    (distinct : (entries.map Prod.fst).Nodup)
    (complete : ∀ f ∈ fields, f.presence = .required → f.key ∈ entries.map Prod.fst) :
    Reader.record fields blank (Json.object entries).toDraft = .ok after := by
  have met : (fields.all fun f => f.presence != .required ||
      ((entries.map Prod.fst).reverse ++ []).contains f.key) = true := by
    rw [List.all_eq_true]
    intro f member
    by_cases required : f.presence = .required
    · have present := complete f member required
      rw [List.append_nil, List.contains_reverse, Bool.or_eq_true]
      exact .inr (List.contains_iff_mem.mpr present)
    · simp [required]
  have read := puts.members_eq [] distinct (by simp)
  simp only [toDraft, Reader.record, read]
  simp only [bind, Except.bind, met, if_true]

end Puts

/-! ### Keys -/

/-- The keys of the members are among these, in this order. -/
def Keyed (keys : List String) (entries : List (String × Json)) : Prop :=
  (entries.map Prod.fst).Sublist keys

namespace Keyed

variable {keys keys' : List String}

theorem nodup (keyed : Keyed keys entries) (distinct : keys.Nodup) : (entries.map Prod.fst).Nodup :=
  List.Sublist.nodup keyed distinct

theorem mem (keyed : Keyed keys entries) {entry : String × Json} (member : entry ∈ entries) :
    entry.1 ∈ keys :=
  List.Sublist.subset keyed (List.mem_map_of_mem member)

theorem nil : Keyed [] ([] : List (String × Json)) := List.Sublist.slnil

theorem cons (keyed : Keyed keys entries) (key : String) (value : Json) :
    Keyed (key :: keys) ((key, value) :: entries) :=
  List.Sublist.cons_cons key keyed

theorem append (first : Keyed keys entries) (second : Keyed keys' entries') :
    Keyed (keys ++ keys') (entries ++ entries') := by
  unfold Keyed
  rw [List.map_append]
  exact List.Sublist.append first second

theorem ifPresent (key : String) (write : β → Json) (value : Option β) :
    Keyed [key] (member? key write value) := by
  cases value <;> simp [Keyed, member?]

end Keyed

end Horarium.Json

namespace Horarium

open Json (Puts Keyed)

/-! ### Parts of a timer -/

theorem TimerKind.reader_inverts (emptyForNull : Bool) :
    (TimerKind.reader emptyForNull).Inverts TimerKind.toJson :=
  Json.Reader.variant_inverts fun kind => by cases kind <;> rfl

theorem TimeUnit.reader_inverts (emptyForNull : Bool) :
    (TimeUnit.reader emptyForNull).Inverts TimeUnit.toJson :=
  Json.Reader.variant_inverts fun unit => by cases unit <;> rfl

theorem Interval.reader_inverts (emptyForNull : Bool) :
    (Interval.reader emptyForNull).Inverts Interval.toJson := by
  intro i
  refine Puts.record_eq (.always rfl (Json.Reader.text_inverts i.delay) rfl
    (.always rfl (TimeUnit.reader_inverts emptyForNull i.unit) rfl (.nil i))) ?_ ?_
  · simp
  · simp [Json.field]

theorem CronSchedule.reader_inverts : CronSchedule.reader.Inverts CronSchedule.toJson := by
  intro schedule
  refine Puts.record_eq (.always rfl (Json.Reader.text_inverts schedule.cron) rfl
    (.ifPresent rfl (fun _ _ => Json.Reader.text_inverts _) nofun rfl rfl)) ?_ ?_
  · exact ((Keyed.ifPresent _ _ _).cons _ _).nodup (by decide)
  · simp [Json.field]

theorem RoutingEntry.reader_inverts (emptyForNull : Bool) :
    (RoutingEntry.reader emptyForNull).Inverts RoutingEntry.toJson := by
  intro entry
  refine Puts.record_eq
    (.always rfl (Json.Reader.list_inverts Json.Reader.text_inverts entry.methods) rfl
    (.append (.append (.append
      (show Puts _ _ _ ⟨entry.methods, entry.pathPattern, none, none, none⟩ from
        .ifPresent rfl (fun _ _ => Json.Reader.text_inverts _) nofun rfl rfl)
      (show Puts _ _ _ ⟨entry.methods, entry.pathPattern, entry.path, none, none⟩ from
        .ifPresent rfl (fun _ _ => Json.Reader.text_inverts _) nofun rfl rfl))
      (show Puts _ _ _ ⟨entry.methods, entry.pathPattern, entry.path, entry.interval, none⟩ from
        .ifPresent rfl (fun _ _ => Interval.reader_inverts emptyForNull _) nofun rfl rfl))
      (.ifPresent rfl (fun _ _ => CronSchedule.reader_inverts _) nofun rfl rfl))) ?_ ?_
  · refine (Keyed.cons
      (.append (.append (.append (.ifPresent _ _ _) (.ifPresent _ _ _)) (.ifPresent _ _ _))
      (.ifPresent _ _ _)) _ _).nodup (by decide)
  · simp [Json.field]

/-! ### Timers -/

theorem Uuid.reader_inverts : (Json.Reader.parsed Uuid.parse?).Inverts Uuid.toJson := by
  intro id
  simp [Json.Reader.parsed, Uuid.toJson, Json.toDraft, Json.Reader.text, Uuid.parse?_toText, bind,
    Except.bind]

/-- The years that are written with four digits. -/
def Instant.HasFourDigitYear (t : Instant) : Prop := 0 ≤ t.date.year ∧ t.date.year ≤ 9999

theorem Instant.read {t : Instant} (fourDigits : t.HasFourDigitYear) :
    Json.Reader.parsed Instant.parse? t.toJson.toDraft = .ok t := by
  simp [Json.Reader.parsed, Instant.toJson, Json.toDraft, Json.Reader.text,
    Instant.parse?_toText fourDigits.1 fourDigits.2, bind, Except.bind]

/-- The dates of the metadata are in years of four digits. -/
def AuditMetadata.HasFourDigitYears (m : AuditMetadata) : Prop :=
  (∀ t ∈ m.createdDate, t.HasFourDigitYear) ∧ ∀ t ∈ m.updatedDate, t.HasFourDigitYear

/-- The dates of the record are in years of four digits. -/
def TimerRecord.HasFourDigitYears (r : TimerRecord) : Prop := ∀ m ∈ r.metadata, m.HasFourDigitYears

theorem AuditMetadata.read {m : AuditMetadata} (fourDigits : m.HasFourDigitYears) :
    AuditMetadata.reader m.toJson.toDraft = .ok m := by
  refine Puts.record_eq
    (.always rfl (Json.optional_ofOption (fun _ date => Instant.read (fourDigits.1 _ date)) nofun)
      (show _ = (⟨m.createdDate, none, none, none⟩ : AuditMetadata) from rfl)
    (.always rfl (Json.optional_ofOption (fun _ _ => Uuid.reader_inverts _) nofun)
      (show _ = (⟨m.createdDate, m.createdBy, none, none⟩ : AuditMetadata) from rfl)
    (.always rfl (Json.optional_ofOption (fun _ date => Instant.read (fourDigits.2 _ date)) nofun)
      (show _ = (⟨m.createdDate, m.createdBy, m.updatedDate, none⟩ : AuditMetadata) from rfl)
    (.always rfl (Json.optional_ofOption (fun _ _ => Uuid.reader_inverts _) nofun) rfl (.nil m)))))
      ?_ ?_
  · simp
  · simp [Json.field]

/-- A timer is read from its written form, where its dates are in years of four digits. -/
theorem TimerRecord.read {r : TimerRecord} (fourDigits : r.HasFourDigitYears) :
    TimerRecord.reader r.toJson.toDraft = .ok r := by
  refine Puts.record_eq (.append (.append (.append (.append
      (show Puts _ _ _ ⟨r.id, none, none, none, false, none, none⟩ from
        .ifPresent rfl (fun _ _ => Uuid.reader_inverts _) nofun rfl rfl)
      (show Puts _ _ _ ⟨r.id, r.kind, none, none, false, none, none⟩ from
        .ifPresent rfl (fun _ _ => TimerKind.reader_inverts false _) nofun rfl rfl))
      (show Puts _ _ _ ⟨r.id, r.kind, r.moduleName, none, false, none, none⟩ from
        .ifPresent rfl (fun _ _ => Json.Reader.text_inverts _) nofun rfl rfl))
      (show Puts _ _ _ ⟨r.id, r.kind, r.moduleName, r.moduleId, false, none, none⟩ from
        .ifPresent rfl (fun _ _ => Json.Reader.text_inverts _) nofun rfl rfl))
    (.always rfl (Json.Reader.bool_inverts r.enabled)
      (show _ = (⟨r.id, r.kind, r.moduleName, r.moduleId, r.enabled, none, none⟩ : TimerRecord)
        from rfl)
    (.append
      (show Puts _ _ _ ⟨r.id, r.kind, r.moduleName, r.moduleId, r.enabled, r.routingEntry, none⟩
        from .ifPresent rfl (fun _ _ => RoutingEntry.reader_inverts false _) nofun rfl rfl)
      (.ifPresent rfl (fun _ metadata => AuditMetadata.read (fourDigits _ metadata)) nofun rfl
        rfl)))) ?_ ?_
  · exact (Keyed.append
      (.append (.append (.append (.ifPresent _ _ _) (.ifPresent _ _ _)) (.ifPresent _ _ _))
        (.ifPresent _ _ _))
      (.cons (.append (.ifPresent _ _ _) (.ifPresent _ _ _)) _ _)).nodup (by decide)
  · simp [Json.field]

end Horarium
