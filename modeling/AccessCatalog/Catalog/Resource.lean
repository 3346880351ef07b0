import AccessCatalog.Catalog.Fault

/-! Resources of the catalog: users, groups and roles, each of a resource type. -/
namespace AccessCatalog

inductive ResourceTrait where
  | user
  | group
  | role
  deriving DecidableEq, Repr

namespace ResourceTrait

def name : ResourceTrait → String
  | .user => "user"
  | .group => "group"
  | .role => "role"

def ofName? (name : String) : Option ResourceTrait :=
  [ResourceTrait.user, .group, .role].find? fun t => t.name = name

def parse (text : String) : Except Fault ResourceTrait :=
  match ofName? text with
  | some t => .ok t
  | none => .error (.validation ("unknown resource trait: " ++ text))

def decode? (v : Json) : Option ResourceTrait := (v.constant? false).bind ofName?

end ResourceTrait

structure ResourceType where
  id : String
  displayName : String
  traits : List ResourceTrait
  annotations : Annotations

namespace ResourceType

def ofTrait (id displayName : String) (t : ResourceTrait) : ResourceType :=
  ⟨id, displayName, [t], .empty⟩

def annotate (r : ResourceType) (a : Note) : ResourceType :=
  { r with annotations := r.annotations.update a }

def decode? (v : Json) : Option ResourceType := do
  match ← v.fields? [["id"], ["display_name"], ["traits"], ["annotations"]] with
  | [id, displayName, traits, annotations] =>
    some {
      id := ← Json.required Json.str? id
      displayName := ← Json.required Json.str? displayName
      traits := ← Json.required (Json.list? ResourceTrait.decode?) traits
      annotations := ← Json.orElse Annotations.decode? .empty annotations }
  | _ => none

def encode (r : ResourceType) : Json :=
  Json.record [Json.entry "id" (.str r.id), Json.entry "display_name" (.str r.displayName),
    Json.entry "traits" (.arr (r.traits.map fun t => .str t.name)), r.annotations.entry]

end ResourceType

/-- A resource type and the id the service knows the resource by. -/
structure ResourceId where
  resourceType : String
  resource : String
  deriving DecidableEq, Repr

namespace ResourceId

def text (id : ResourceId) : String := id.resourceType ++ ":" ++ id.resource

def decode? (v : Json) : Option ResourceId := do
  match ← v.fields? [["resource_type"], ["resource"]] with
  | [resourceType, resource] =>
    some ⟨← Json.required Json.str? resourceType, ← Json.required Json.str? resource⟩
  | _ => none

def encode (id : ResourceId) : Json :=
  Json.record [Json.entry "resource_type" (.str id.resourceType),
    Json.entry "resource" (.str id.resource)]

end ResourceId

inductive UserStatus where
  | unspecified
  | enabled
  | disabled
  | deleted
  deriving DecidableEq, Repr

namespace UserStatus

def name : UserStatus → String
  | .unspecified => "unspecified"
  | .enabled => "enabled"
  | .disabled => "disabled"
  | .deleted => "deleted"

def ofName? (name : String) : Option UserStatus :=
  [UserStatus.unspecified, .enabled, .disabled, .deleted].find? fun s => s.name = name

def decode? (inTagged : Bool) (v : Json) : Option UserStatus :=
  (v.constant? inTagged).bind ofName?

end UserStatus

/-- A status with the text the service has for it. -/
structure DetailedStatus where
  status : UserStatus
  details : String
  deriving DecidableEq, Repr

namespace DetailedStatus

def decode? (inTagged : Bool) (v : Json) : Option DetailedStatus := do
  match ← v.fields? [["status"], ["details"]] with
  | [status, details] =>
    some ⟨← Json.required (UserStatus.decode? inTagged) status, ← Json.required Json.str? details⟩
  | _ => none

def encode (s : DetailedStatus) : Json :=
  Json.record [Json.entry "status" (.str s.status.name), Json.entry "details" (.str s.details)]

end DetailedStatus

structure UserEmail where
  address : String
  isPrimary : Bool
  deriving DecidableEq, Repr

namespace UserEmail

def decode? (v : Json) : Option UserEmail := do
  match ← v.fields? [["address"], ["is_primary"]] with
  | [address, isPrimary] =>
    some ⟨← Json.required Json.str? address, ← Json.required Json.bool? isPrimary⟩
  | _ => none

def encode (e : UserEmail) : Json :=
  Json.record [Json.entry "address" (.str e.address), Json.entry "is_primary" (.bool e.isPrimary)]

end UserEmail

structure UserTrait where
  profile : Profile := .empty
  emails : List UserEmail := []
  login : Option String := none
  loginAliases : List String := []
  employeeIds : List String := []
  status : Option DetailedStatus := none
  createdAt : Option Instant := none
  lastLogin : Option Instant := none

namespace UserTrait

def primaryEmail? (t : UserTrait) : Option String :=
  (t.emails.find? (·.isPrimary)).map (·.address)

def decode? (inTagged : Bool) (v : Json) : Option UserTrait := do
  match ← v.fields? [["profile"], ["emails"], ["login"], ["login_aliases"], ["employee_ids"],
      ["status"], ["created_at"], ["last_login"]] with
  | [profile, emails, login, loginAliases, employeeIds, status, createdAt, lastLogin] =>
    some {
      profile := ← Json.required Profile.decode? profile
      emails := ← Json.orElse (Json.list? UserEmail.decode?) [] emails
      login := ← Json.orElse (Json.optional? Json.str?) none login
      loginAliases := ← Json.orElse (Json.list? Json.str?) [] loginAliases
      employeeIds := ← Json.orElse (Json.list? Json.str?) [] employeeIds
      status := ← Json.orElse (Json.optional? (DetailedStatus.decode? inTagged)) none status
      createdAt := ← Json.orElse (Json.optional? Instant.decode?) none createdAt
      lastLogin := ← Json.orElse (Json.optional? Instant.decode?) none lastLogin }
  | _ => none

def entries (t : UserTrait) : List (Option (String × Json)) :=
  [Json.entry "profile" t.profile.encode,
    Json.entryUnless t.emails.isEmpty "emails" (.arr (t.emails.map UserEmail.encode)),
    t.login.map fun login => ("login", .str login),
    Json.entryUnless t.loginAliases.isEmpty "login_aliases" (Json.strings t.loginAliases),
    Json.entryUnless t.employeeIds.isEmpty "employee_ids" (Json.strings t.employeeIds),
    t.status.map fun status => ("status", status.encode),
    t.createdAt.map fun at_ => ("created_at", at_.encode),
    t.lastLogin.map fun at_ => ("last_login", at_.encode)]

def encode (t : UserTrait) : Json := Json.record t.entries

end UserTrait

/-- What a resource is, with the attributes of that trait. -/
inductive ResourceTraits where
  | user (attributes : UserTrait)
  | group (profile : Profile)
  | role (profile : Profile)

namespace ResourceTraits

def profile : ResourceTraits → Profile
  | .user t => t.profile
  | .group p => p
  | .role p => p

def profileField? (v : Json) : Option Profile := do
  match ← v.fields? [["profile"]] with
  | [profile] => Json.required Profile.decode? profile
  | _ => none

def decode? (v : Json) : Option ResourceTraits := do
  let (tag, body) ← v.tagged? "trait"
  match ← ResourceTrait.ofName? tag with
  | .user => (UserTrait.decode? true body).map .user
  | .group => (profileField? body).map .group
  | .role => (profileField? body).map .role

def encode : ResourceTraits → Json
  | .user t => Json.record (Json.entry "trait" (.str "user") :: t.entries)
  | .group p => Json.record [Json.entry "trait" (.str "group"), Json.entry "profile" p.encode]
  | .role p => Json.record [Json.entry "trait" (.str "role"), Json.entry "profile" p.encode]

end ResourceTraits

structure Resource where
  id : ResourceId
  displayName : String
  parent : Option ResourceId := none
  traits : ResourceTraits
  annotations : Annotations := .empty

namespace Resource

def ofTraits (displayName : String) (type : ResourceType) (id : String)
    (traits : ResourceTraits) : Resource :=
  { id := ⟨type.id, id⟩, displayName, traits }

def annotate (r : Resource) (a : Note) : Resource :=
  { r with annotations := r.annotations.update a }

def lacks (r : Resource) (what : ResourceTrait) : Fault :=
  .validation ("resource " ++ r.id.text ++ " has no " ++ what.name ++ " trait")

def userTrait (r : Resource) : Except Fault UserTrait :=
  match r.traits with
  | .user t => .ok t
  | _ => .error (r.lacks .user)

def groupProfile (r : Resource) : Except Fault Profile :=
  match r.traits with
  | .group p => .ok p
  | _ => .error (r.lacks .group)

def roleProfile (r : Resource) : Except Fault Profile :=
  match r.traits with
  | .role p => .ok p
  | _ => .error (r.lacks .role)

def decode? (v : Json) : Option Resource := do
  match ← v.fields? [["id"], ["display_name"], ["parent"], ["traits"], ["annotations"]] with
  | [id, displayName, parent, traits, annotations] =>
    some {
      id := ← Json.required ResourceId.decode? id
      displayName := ← Json.required Json.str? displayName
      parent := ← Json.orElse (Json.optional? ResourceId.decode?) none parent
      traits := ← Json.required ResourceTraits.decode? traits
      annotations := ← Json.orElse Annotations.decode? .empty annotations }
  | _ => none

def encode (r : Resource) : Json :=
  Json.record [Json.entry "id" r.id.encode, Json.entry "display_name" (.str r.displayName),
    r.parent.map fun p => ("parent", p.encode), Json.entry "traits" r.traits.encode,
    r.annotations.entry]

end Resource
end AccessCatalog
