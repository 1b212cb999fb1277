/-
Module: Horarium.Proofs.EventText
Purpose: Events and timers pass through their text unchanged. The members beside the topic of an
  event are held until the topic is known; none of them is the topic again, and none is nested
  deeper than may be held. So an event that is taken in from a request, written out and put in the
  queue reaches the listener as it came.
Trusted boundary: none; requests are those whose bodies the server takes
Main exports: TimerEvent.parse_body, App.dispatch_publish, TimerEvent.passes_unchanged
-/
import Horarium.Event
import Horarium.Proofs.RecordForms
import Horarium.Server.App

namespace Horarium

open Json (Puts Keyed)

theorem ResourceChange.reader_inverts (emptyForNull : Bool) :
    (ResourceChange.reader emptyForNull).Inverts fun change => .text change.name :=
  Json.Reader.variant_inverts fun change => by cases change <;> rfl

theorem EntitlementChange.reader_inverts (emptyForNull : Bool) :
    (EntitlementChange.reader emptyForNull).Inverts fun change => .text change.name :=
  Json.Reader.variant_inverts fun change => by cases change <;> rfl

theorem ModuleTimers.reader_inverts (emptyForNull : Bool) :
    (ModuleTimers.reader emptyForNull).Inverts ModuleTimers.toJson := by
  intro m
  refine Puts.record_eq (.always rfl (Json.Reader.text_inverts m.moduleId) rfl
    (.always rfl (Json.Reader.list_inverts (RoutingEntry.reader_inverts emptyForNull) m.timers) rfl
      (.nil m))) ?_ ?_
  · simp
  · simp [Json.field]

theorem ResourceEvent.keyed (e : ResourceEvent) :
    Keyed ["type", "tenant", "newValue", "oldValue"] e.members :=
  .append (.append (.cons (.cons .nil _ _) _ _) (.ifPresent _ _ _)) (.ifPresent _ _ _)

theorem ResourceEvent.reader_inverts (emptyForNull : Bool) :
    (ResourceEvent.reader emptyForNull).Inverts fun e => .object e.members := by
  intro e
  refine Puts.record_eq (.append (.append
    (.always rfl (ResourceChange.reader_inverts emptyForNull e.change)
      (show _ = (⟨e.change, "", none, none⟩ : ResourceEvent) from rfl)
    (.always rfl (Json.Reader.text_inverts e.tenant)
      (show _ = (⟨e.change, e.tenant, none, none⟩ : ResourceEvent) from rfl) (.nil _)))
    (show Puts _ _ _ ⟨e.change, e.tenant, e.newValue, none⟩ from
      .ifPresent rfl (fun _ _ => ModuleTimers.reader_inverts emptyForNull _) nofun rfl rfl))
    (.ifPresent rfl (fun _ _ => ModuleTimers.reader_inverts emptyForNull _) nofun rfl rfl)) ?_ ?_
  · exact e.keyed.nodup (by decide)
  · simp [Json.field, ResourceEvent.members]

theorem EntitlementEvent.keyed (e : EntitlementEvent) :
    Keyed ["type", "moduleId", "tenant"] e.members :=
  .cons (.cons (.cons .nil _ _) _ _) _ _

theorem EntitlementEvent.reader_inverts (emptyForNull : Bool) :
    (EntitlementEvent.reader emptyForNull).Inverts fun e => .object e.members := by
  intro e
  refine Puts.record_eq
    (.always rfl (EntitlementChange.reader_inverts emptyForNull e.change)
      (show _ = (⟨e.change, "", ""⟩ : EntitlementEvent) from rfl)
    (.always rfl (Json.Reader.text_inverts e.moduleId)
      (show _ = (⟨e.change, e.moduleId, ""⟩ : EntitlementEvent) from rfl)
    (.always rfl (Json.Reader.text_inverts e.tenant) rfl (.nil e)))) ?_ ?_
  · exact e.keyed.nodup (by decide)
  · simp [Json.field, EntitlementEvent.members]

/-! ### Values that can be held -/

namespace Json

theorem canHold_array {depth : Nat} {items : List Json}
    (held : ∀ item ∈ items, item.toDraft.canHold depth) :
    (Json.array items).toDraft.canHold (depth + 1) := by
  simp only [toDraft, Draft.canHold]
  induction items with
  | nil => rfl
  | cons item items ih =>
    rw [List.forall_mem_cons] at held
    simp [itemsToDraft, Draft.canHoldAll, held.1, ih held.2]

theorem canHold_object {depth : Nat} {members : List (String × Json)}
    (held : ∀ member ∈ members, member.2.toDraft.canHold depth) :
    (Json.object members).toDraft.canHold (depth + 1) := by
  simp only [toDraft, Draft.canHold]
  induction members with
  | nil => rfl
  | cons member members ih =>
    rw [List.forall_mem_cons] at held
    simp [membersToDraft, Draft.canHoldMembers, held.1, ih held.2]

theorem canHold_member? {depth : Nat} {α : Type} {write : α → Json}
    (held : ∀ a, (write a).toDraft.canHold depth) (key : String) (value : Option α) :
    ∀ member ∈ member? key write value, member.2.toDraft.canHold depth := by
  cases value <;> simp [member?, held]

end Json

theorem Interval.canHold (depth : Nat) (i : Interval) : i.toJson.toDraft.canHold (depth + 1) :=
  Json.canHold_object (by simp [TimeUnit.toJson, Json.toDraft, Json.Draft.canHold])

theorem CronSchedule.canHold (depth : Nat) (s : CronSchedule) :
    s.toJson.toDraft.canHold (depth + 1) :=
  Json.canHold_object (List.forall_mem_cons.mpr ⟨rfl, Json.canHold_member? (fun _ => rfl) _ _⟩)

theorem RoutingEntry.canHold (depth : Nat) (e : RoutingEntry) :
    e.toJson.toDraft.canHold (depth + 2) := by
  refine Json.canHold_object (List.forall_mem_cons.mpr ⟨?_, ?_⟩)
  · exact Json.canHold_array (by simp [Json.toDraft, Json.Draft.canHold])
  · simp only [List.forall_mem_append]
    exact ⟨⟨⟨Json.canHold_member? (fun _ => rfl) _ _, Json.canHold_member? (fun _ => rfl) _ _⟩,
      Json.canHold_member? (Interval.canHold depth) _ _⟩,
        Json.canHold_member? (CronSchedule.canHold depth) _ _⟩

theorem ModuleTimers.canHold (depth : Nat) (m : ModuleTimers) :
    m.toJson.toDraft.canHold (depth + 4) := by
  refine Json.canHold_object (List.forall_mem_cons.mpr ⟨rfl, List.forall_mem_singleton.mpr ?_⟩)
  refine Json.canHold_array fun item member => ?_
  obtain ⟨entry, _, rfl⟩ := List.mem_map.mp member
  exact entry.canHold depth

namespace TimerEvent

/-- Members that are not the topic and can be held are all held, by induction on them. -/
theorem takeTopic_of_held (found : Option (Json.Reader TimerEvent)) {entries : List (String × Json)}
    (held : ∀ entry ∈ entries, entry.1 ≠ topicKey ∧ entry.2.toDraft.canHold maxDepth) :
    takeTopic found (Json.membersToDraft entries) = .ok (found, Json.membersToDraft entries) := by
  induction entries with
  | nil => rfl
  | cons entry entries ih =>
    obtain ⟨key, value⟩ := entry
    rw [List.forall_mem_cons] at held
    simp only [Json.membersToDraft, takeTopic, held.1.1, held.1.2, if_false, if_true, ih held.2]
    rfl

theorem held_resource (e : ResourceEvent) :
    ∀ entry ∈ e.members, entry.1 ≠ topicKey ∧ entry.2.toDraft.canHold maxDepth := by
  have others : topicKey ∉ ["type", "tenant", "newValue", "oldValue"] := by decide
  have shallow : ∀ entry ∈ e.members, entry.2.toDraft.canHold maxDepth := by
    simp only [ResourceEvent.members, List.forall_mem_append]
    exact ⟨⟨by simp [Json.toDraft, Json.Draft.canHold],
      Json.canHold_member? (ModuleTimers.canHold 122) _ _⟩,
      Json.canHold_member? (ModuleTimers.canHold 122) _ _⟩
  exact fun entry member => ⟨fun same => others (same ▸ e.keyed.mem member), shallow entry member⟩

theorem held_entitlement (e : EntitlementEvent) :
    ∀ entry ∈ e.members, entry.1 ≠ topicKey ∧ entry.2.toDraft.canHold maxDepth := by
  have others : topicKey ∉ ["type", "moduleId", "tenant"] := by decide
  have shallow : ∀ entry ∈ e.members, entry.2.toDraft.canHold maxDepth := by
    simp [EntitlementEvent.members, Json.toDraft, Json.Draft.canHold]
  exact fun entry member => ⟨fun same => others (same ▸ e.keyed.mem member), shallow entry member⟩

/-- The topic is taken out of the members of an event, and tells how the others are to be read. -/
theorem takeTopic_cons {topic : String} {read : Json.Reader TimerEvent}
    {entries : List (String × Json)} (known : ofTopic? topic = some read)
    (held : ∀ entry ∈ entries, entry.1 ≠ topicKey ∧ entry.2.toDraft.canHold maxDepth) :
    takeTopic none (Json.membersToDraft ((topicKey, .text topic) :: entries)) =
      .ok (some read, Json.membersToDraft entries) := by
  simp only [Json.membersToDraft, Json.toDraft, takeTopic, if_true, Json.Reader.text, bind,
    Except.bind, known, takeTopic_of_held _ held]
  rfl

theorem reader_of_topic {topic : String} {read : Json.Reader TimerEvent}
    {entries : List (String × Json)} {e : TimerEvent} (known : ofTopic? topic = some read)
    (held : ∀ entry ∈ entries, entry.1 ≠ topicKey ∧ entry.2.toDraft.canHold maxDepth)
    (reads : read (Json.object entries).toDraft = .ok e) :
    reader (Json.object ((topicKey, .text topic) :: entries)).toDraft = .ok e := by
  simp only [Json.toDraft] at reads ⊢
  simp only [reader, takeTopic_cons known held, bind, Except.bind, reads, Except.mapError]

theorem reader_inverts : TimerEvent.reader.Inverts TimerEvent.toJson := by
  intro e
  cases e with
  | moduleResource e =>
    refine reader_of_topic rfl (held_resource e) ?_
    rw [ResourceEvent.reader_inverts true e]
    rfl
  | entitlement e =>
    refine reader_of_topic rfl (held_entitlement e) ?_
    rw [EntitlementEvent.reader_inverts true e]
    rfl

/-- An event is read from its text. -/
theorem parse_body (e : TimerEvent) : parse e.body = .ok e := by
  rw [parse, body, Json.run_render]
  exact reader_inverts e

end TimerEvent

/-- A request to publish an event puts the text of the event into the queue, behind what is
there. -/
theorem App.dispatch_publish {σ : Type} [TimerStore σ] (app : App σ) {request : HttpRequest}
    {event : TimerEvent} (route : Route.ofPath? request.path = some .events)
    (posted : request.method = "POST") (typed : request.hasJsonBody = true)
    (accepted : TimerEvent.parse request.body = .ok event) :
    ∃ message, (app.dispatch request).2.queue.ready = app.queue.ready ++ [message] ∧
      message.body = event.body := by
  have verb : Route.admitted? .events request.method = some .post := by
    rw [posted]
    rfl
  have decoded : request.decode TimerEvent.reader = .ok event := by
    rw [TimerEvent.parse] at accepted
    simp only [HttpRequest.decode, typed, if_true, accepted]
  have asked : Action.ofRequest .events .post request = .ok (.publish event) := by
    simp only [Action.ofRequest, decoded]
    rfl
  refine ⟨⟨app.queue.ids.nth (app.queue.published + 1), event.body, "", 0⟩, ?_, rfl⟩
  simp only [App.dispatch, route, verb, App.serve, asked, App.perform, MemoryQueue.publish]

/-- Events and timers pass through their text unchanged: every event, every timer with dates in
years of four digits, and every event that a request publishes, which the listener reads from the
queue as the service read it from the request. The requests are those whose bodies the server
takes. -/
theorem TimerEvent.passes_unchanged :
    (∀ e : TimerEvent, TimerEvent.parse e.body = .ok e) ∧
    (∀ r : TimerRecord, r.HasFourDigitYears → TimerRecord.reader.run r.toJson.render = .ok r) ∧
    ∀ {σ : Type} [TimerStore σ] (app : App σ) (request : HttpRequest) (event : TimerEvent),
      Route.ofPath? request.path = some .events → request.method = "POST" →
        request.hasJsonBody = true →
      TimerEvent.parse request.body = .ok event →
        ∃ message, (app.dispatch request).2.queue.ready = app.queue.ready ++ [message] ∧
          TimerEvent.parse message.body = TimerEvent.parse request.body := by
  refine ⟨TimerEvent.parse_body, fun r fourDigits => ?_,
    fun app request event route posted typed accepted => ?_⟩
  · rw [Json.run_render]
    exact TimerRecord.read fourDigits
  · obtain ⟨message, ready, text⟩ := app.dispatch_publish route posted typed accepted
    exact ⟨message, ready, by rw [text, TimerEvent.parse_body, accepted]⟩

/-- A timer that was written in the leap second at the end of 2016. -/
def leapTimer : TimerRecord :=
  { (default : TimerRecord) with
    id := some Uuid.nil, moduleName := some "mod \"quoted\"", enabled := true,
    routingEntry := some ⟨["POST"], none, some "/tab\t", none, some ⟨"*/5 * * * *", none⟩⟩,
    metadata :=
      some ⟨some ⟨⟨2016, 12, 31, by decide⟩, 86399, 1500000000, by decide⟩, none, none,
        some Uuid.nil⟩ }

/-- The revocation of a module, with blanks and an escape that are not written so. -/
def revocationRequest : HttpRequest where
  method := "POST"
  path := "/events"
  query := ""
  headers := [("Content-Type", "application/json")]
  body := "\x7b\"tenant\": \"nor\\u0074h\", \"type\": \"REVOKE\", " ++
    "\"topic\": \"ENTITLEMENT\", \"moduleId\": \"mod-1.0.0\"\x7d"

theorem revocation_passes_unchanged :
    leapTimer.HasFourDigitYears ∧ TimerRecord.reader.run leapTimer.toJson.render = .ok leapTimer ∧
    TimerEvent.parse revocationRequest.body = .ok (.entitlement ⟨.revoke, "mod-1.0.0", "north"⟩) ∧
    ∃ message,
      ((App.ofStore MemoryStore.empty "memory" ⟨fun _ => default, Uuid.ofBits, 0, 0⟩).dispatch
          revocationRequest).2.queue.ready = [message] ∧
      TimerEvent.parse message.body = TimerEvent.parse revocationRequest.body := by
  have dated : leapTimer.HasFourDigitYears := by
    intro metadata written
    obtain rfl := Option.mem_some_iff.mp written
    refine ⟨fun date written => ?_, nofun⟩
    obtain rfl := Option.mem_some_iff.mp written
    exact ⟨by decide, by decide⟩
  have accepted : TimerEvent.parse revocationRequest.body =
      .ok (.entitlement ⟨.revoke, "mod-1.0.0", "north"⟩) := by
    decide +kernel
  obtain ⟨-, timers, requests⟩ := TimerEvent.passes_unchanged
  exact ⟨dated, timers leapTimer dated, accepted,
    requests _ revocationRequest _ (by decide +kernel) rfl (by decide +kernel) accepted⟩

end Horarium
