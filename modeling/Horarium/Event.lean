/-
Module: Horarium.Event
Purpose: Events about modules: one is installed, upgraded or removed for a tenant, or a tenant gains
  or loses the right to use one. Events come as JSON objects whose member `topic` tells the two
  sorts apart.
Trusted boundary: human-reviewed definitions
Main exports: ResourceChange, ModuleTimers, ResourceEvent, EntitlementChange.enables,
  EntitlementEvent, TimerEvent, TimerEvent.parse
-/
import Horarium.Timer.Codec

namespace Horarium

/-- What happened to a module. -/
inductive ResourceChange where
  | create
  | update
  | delete
deriving DecidableEq, Repr, Inhabited

namespace ResourceChange

/-- The written name of a change. -/
def name : ResourceChange → String
  | .create => "CREATE"
  | .update => "UPDATE"
  | .delete => "DELETE"

/-- The change with this written name. -/
def named? (name : String) : Option ResourceChange :=
  match name with
  | "CREATE" => some .create
  | "UPDATE" => some .update
  | "DELETE" => some .delete
  | _ => none

/-- Reads the written name. -/
def reader (emptyForNull : Bool) : Json.Reader ResourceChange := .variant emptyForNull named?

end ResourceChange

/-- The timers that a module's descriptor declares. -/
structure ModuleTimers where
  moduleId : String
  timers : List RoutingEntry
deriving DecidableEq, Inhabited

namespace ModuleTimers

/-- The written form. -/
def toJson (m : ModuleTimers) : Json :=
  .object [("moduleId", .text m.moduleId), ("timers", .array (m.timers.map RoutingEntry.toJson))]

/-- Reads the written form. -/
def reader (emptyForNull : Bool) : Json.Reader ModuleTimers :=
  .record [
    Json.field "moduleId" .required .text fun v m => { m with moduleId := v },
    Json.field "timers" .defaulted (.list (RoutingEntry.reader emptyForNull))
      fun v m => { m with timers := v }]
    default

end ModuleTimers

/-- A module was installed, upgraded or removed for a tenant. -/
structure ResourceEvent where
  change : ResourceChange
  tenant : String
  newValue : Option ModuleTimers
  oldValue : Option ModuleTimers
deriving DecidableEq, Inhabited

namespace ResourceEvent

/-- The members of the written form. -/
def members (e : ResourceEvent) : List (String × Json) :=
  [("type", .text e.change.name), ("tenant", .text e.tenant)]
    ++ Json.member? "newValue" ModuleTimers.toJson e.newValue
    ++ Json.member? "oldValue" ModuleTimers.toJson e.oldValue

/-- Reads the written form. -/
def reader (emptyForNull : Bool) : Json.Reader ResourceEvent :=
  .record [
    Json.field "type" .required (ResourceChange.reader emptyForNull)
      fun v e => { e with change := v },
    Json.field "tenant" .required .text fun v e => { e with tenant := v },
    Json.field "newValue" .defaulted (.optional (ModuleTimers.reader emptyForNull))
      fun v e => { e with newValue := v },
    Json.field "oldValue" .defaulted (.optional (ModuleTimers.reader emptyForNull))
      fun v e => { e with oldValue := v }]
    default

end ResourceEvent

/-- What happened to a tenant's right to use a module. -/
inductive EntitlementChange where
  | entitle
  | upgrade
  | revoke
deriving DecidableEq, Repr, Inhabited

namespace EntitlementChange

/-- The written name of a change. -/
def name : EntitlementChange → String
  | .entitle => "ENTITLE"
  | .upgrade => "UPGRADE"
  | .revoke => "REVOKE"

/-- The change with this written name. -/
def named? (name : String) : Option EntitlementChange :=
  match name with
  | "ENTITLE" => some .entitle
  | "UPGRADE" => some .upgrade
  | "REVOKE" => some .revoke
  | _ => none

/-- Whether the module's timers are to run after the change. -/
def enables : EntitlementChange → Bool
  | .revoke => false
  | _ => true

/-- Reads the written name. -/
def reader (emptyForNull : Bool) : Json.Reader EntitlementChange := .variant emptyForNull named?

end EntitlementChange

/-- A tenant gained or lost the right to use a module. -/
structure EntitlementEvent where
  change : EntitlementChange
  moduleId : String
  tenant : String
deriving DecidableEq, Inhabited

namespace EntitlementEvent

/-- The members of the written form. -/
def members (e : EntitlementEvent) : List (String × Json) :=
  [("type", .text e.change.name), ("moduleId", .text e.moduleId), ("tenant", .text e.tenant)]

/-- Reads the written form. -/
def reader (emptyForNull : Bool) : Json.Reader EntitlementEvent :=
  .record [
    Json.field "type" .required (EntitlementChange.reader emptyForNull)
      fun v e => { e with change := v },
    Json.field "moduleId" .required .text fun v e => { e with moduleId := v },
    Json.field "tenant" .required .text fun v e => { e with tenant := v }]
    default

end EntitlementEvent

/-- An event about a module. -/
inductive TimerEvent where
  | moduleResource (event : ResourceEvent)
  | entitlement (event : EntitlementEvent)
deriving DecidableEq

namespace TimerEvent

/-- The tenant that an event concerns. -/
def tenant : TimerEvent → String
  | .moduleResource e => e.tenant
  | .entitlement e => e.tenant

/-- The member that tells events apart. -/
def topicKey : String := "topic"

/-- The topic of an event. -/
def topic : TimerEvent → String
  | .moduleResource _ => "MODULE_RESOURCE"
  | .entitlement _ => "ENTITLEMENT"

/-- The written form. -/
def toJson (e : TimerEvent) : Json :=
  let members := match e with
    | .moduleResource e => e.members
    | .entitlement e => e.members
  .object ((topicKey, .text e.topic) :: members)

/-- The text of an event in a message. -/
def body (e : TimerEvent) : String := e.toJson.render

/-- Reads the rest of an event of the given topic. -/
def ofTopic? (topic : String) : Option (Json.Reader TimerEvent) :=
  match topic with
  | "MODULE_RESOURCE" => some fun draft => (ResourceEvent.reader true draft).map .moduleResource
  | "ENTITLEMENT" => some fun draft => (EntitlementEvent.reader true draft).map .entitlement
  | _ => none

/-- How deep the values beside the topic may be nested. -/
def maxDepth : Nat := 126

/-- Takes the topic out of the members of an object and holds the others, in one pass: the topic has
to be a known one and to occur once. -/
def takeTopic : Option (Json.Reader TimerEvent) → List (Option String × Json.Draft) →
    Except Json.Fault (Option (Json.Reader TimerEvent) × List (Option String × Json.Draft))
  | found, [] => .ok (found, [])
  | _, (none, _) :: _ => .error .malformed
  | found, (some key, value) :: rest =>
    if key = topicKey then
      if found.isSome then .error .mismatch
      else do
        match ofTopic? (← Json.Reader.text value) with
        | none => .error .mismatch
        | some reader => takeTopic (some reader) rest
    else if value.canHold maxDepth then do
      let (found, others) ← takeTopic found rest
      return (found, (some key, value) :: others)
    else .error .malformed

/-- Reads the written form. The members beside the topic are held until the topic is known, so they
have to be sound throughout and of limited depth; once held, no fault of theirs is one of the text.
In an array the topic comes first. -/
def reader : Json.Reader TimerEvent
  | .object members => do
    match ← takeTopic none members with
    | (none, _) => .error .mismatch
    | (some read, others) => (read (.object others)).mapError fun _ => .mismatch
  | .array (first :: rest) => do
    match ofTopic? (← Json.Reader.text first) with
    | none => .error .mismatch
    | some read =>
      if rest.all (·.canHold maxDepth) then (read (.array rest)).mapError fun _ => .mismatch
      else .error .malformed
  | .array [] => .error .mismatch
  | draft => .error draft.refusal

/-- The event that the body of a message spells. -/
def parse (body : String) : Except Json.Fault TimerEvent := reader.run body

end TimerEvent

end Horarium
