import AccessCatalog.Catalog.Description
import AccessCatalog.Text.Quoted

/-! Events of the system log. The first filter that matches an event maps it to the resource it
changed. -/
namespace AccessCatalog.Okta

structure LogTarget where
  id : String
  type : String
  alternateId : Option String := none
  displayName : Option String := none
  deriving DecidableEq, Repr

namespace LogTarget

def decode? (v : Json) : Option LogTarget := do
  match ← v.fields? [["id"], ["type"], ["alternateId"], ["displayName"]] with
  | [id, type, alternateId, displayName] =>
    some {
      id := ← Json.required Json.str? id
      type := ← Json.required Json.str? type
      alternateId := ← Json.orElse (Json.optional? Json.str?) none alternateId
      displayName := ← Json.orElse (Json.optional? Json.str?) none displayName }
  | _ => none

end LogTarget

structure LogEvent where
  uuid : String
  eventType : String
  published : Option Instant := none
  targets : List LogTarget := []
  deriving DecidableEq, Repr

namespace LogEvent

def decode? (v : Json) : Option LogEvent := do
  match ← v.fields? [["uuid"], ["eventType"], ["published"], ["target"]] with
  | [uuid, eventType, published, targets] =>
    let targets ← Json.orElse (Json.optional? (Json.list? LogTarget.decode?)) none targets
    some {
      uuid := ← Json.required Json.str? uuid
      eventType := ← Json.required Json.str? eventType
      published := ← Json.orElse (Json.optional? Instant.decode?) none published
      targets := targets.getD [] }
  | _ => none

/-- What a change event tells of the event. -/
def details (e : LogEvent) : Profile :=
  let p := Profile.empty.set "event_type" (.text e.eventType)
  match e.published with
  | some t => p.set "published" (.text (t.text .millis))
  | none => p

end LogEvent

/-- Which events a filter takes, by their type and the type of their targets, and how it maps
them; the mapping sees the targets of those types only. -/
structure EventFilter where
  eventTypes : List String
  targetTypes : List String
  map : LogEvent → List LogTarget → Except Fault ChangeEvent

namespace EventFilter

def takes (f : EventFilter) (t : LogTarget) : Bool := f.targetTypes.contains t.type

def isMatch (f : EventFilter) (e : LogEvent) : Bool :=
  f.eventTypes.contains e.eventType && e.targets.any f.takes

def handle (f : EventFilter) (e : LogEvent) : Except Fault ChangeEvent :=
  f.map e (e.targets.filter f.takes)

def diagnostic (f : EventFilter) : String :=
  let texts (items : List String) := "[" ++ String.intercalate ", " (items.map Text.quoted) ++ "]"
  "EventFilter \x7b event_types: " ++ texts f.eventTypes ++ ", target_types: " ++
    texts f.targetTypes ++ ", .. \x7d"

def userTargetType : String := "User"

/-- The change of the one user an event is about. -/
def userChange (e : LogEvent) (targets : List LogTarget) : Except Fault ChangeEvent :=
  match targets.filter fun t => t.type = userTargetType with
  | [user] => .ok ⟨e.uuid, ⟨"user", user.id⟩, e.details⟩
  | users =>
    .error (.validation ("expected 1 User target, got " ++ Nat.repr users.length))

/-- Creation, activation and profile updates of users. -/
def userLifecycle : EventFilter where
  eventTypes := ["user.lifecycle.create", "user.lifecycle.activate", "user.account.update_profile"]
  targetTypes := [userTargetType]
  map := userChange

/-- The filters, in the order in which they are tried. -/
def all : List EventFilter := [userLifecycle]

end EventFilter

/-- The change that an event reports; none if no filter matches. -/
def LogEvent.change? (e : LogEvent) : Except Fault (Option ChangeEvent) :=
  match EventFilter.all.find? (·.isMatch e) with
  | some f => (f.handle e).map some
  | none => .ok none

end AccessCatalog.Okta
