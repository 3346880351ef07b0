import AccessCatalog.Okta.RoleCatalog

/-! Groups as the service describes them, the resources they become, and their member
entitlement. -/
namespace AccessCatalog.Okta

structure GroupRecord where
  id : String
  name : String := ""
  description : Option String := none
  lastMembershipUpdated : Option Instant := none
  /-- What was asked to be embedded in the record. -/
  embedded : Option Json := none

namespace GroupRecord

def decodeProfile? (v : Json) : Option (String × Option String) := do
  match ← v.fields? [["name"], ["description"]] with
  | [name, description] =>
    some (← Json.orElse Json.str? "" name,
      ← Json.orElse (Json.optional? Json.str?) none description)
  | _ => none

def decode? (v : Json) : Option GroupRecord := do
  match ← v.fields? [["id"], ["profile"], ["lastMembershipUpdated"], ["_embedded"]] with
  | [id, profile, updated, embedded] =>
    let profile ← Json.orElse decodeProfile? ("", none) profile
    some {
      id := ← Json.required Json.str? id
      name := profile.1
      description := profile.2
      lastMembershipUpdated := ← Json.orElse (Json.optional? Instant.decode?) none updated
      embedded := ← Json.orElse (Json.optional? Json.value?) none embedded }
  | _ => none

/-- The number of members, when the record has its statistics; floats without a fraction count. -/
def usersCount? (g : GroupRecord) : Option Int := do
  match ← (← (← g.embedded).get? "stats").get? "usersCount" with
  | .num (.int i) => if Numeric.fitsInt64 i then some i else (Numeric.Binary64.ofInt i).toInt?
  | .num (.float x) => x.toInt?
  | _ => none

def usersCountKey : String := "users_count"

def membershipUpdatedKey : String := "lastMembershipUpdated"

def profile (g : GroupRecord) : Profile :=
  let p := (Profile.empty.set "name" (.text g.name)).set "description"
    (.text (g.description.getD ""))
  match g.usersCount? with
  | some count => p.set usersCountKey (.int count)
  | none => p

def resource (g : GroupRecord) : Resource :=
  let r := (Resource.ofTraits g.name groupType g.id (.group g.profile)).annotate (.rawId g.id)
  match g.lastMembershipUpdated with
  | some updated =>
    r.annotate (.eTagMetadata
      (Profile.empty.set membershipUpdatedKey (.text (updated.text .shortest))))
  | none => r

def memberSlug : String := "member"

def memberEntitlement (r : Resource) : Entitlement :=
  ({ Entitlement.assignment r memberSlug with
    displayName := r.displayName ++ " Group Member"
    description := "Member of " ++ r.displayName ++ " group in Okta" }).grantable userType

end GroupRecord

structure RoleAssignment where
  id : String := ""
  /-- The id of the role, if it is a custom one. -/
  role : String := ""
  label : String := ""
  type : String := ""
  status : String := ""
  assignmentType : String := ""
  deriving DecidableEq, Repr

namespace RoleAssignment

def decode? (v : Json) : Option RoleAssignment := do
  match ← v.fields? [["id"], ["role"], ["label"], ["type"], ["status"], ["assignmentType"]] with
  | [id, role, label, type, status, assignmentType] =>
    some {
      id := ← Json.orElse Json.str? "" id
      role := ← Json.orElse Json.str? "" role
      label := ← Json.orElse Json.str? "" label
      type := ← Json.orElse Json.str? "" type
      status := ← Json.orElse Json.str? "" status
      assignmentType := ← Json.orElse Json.str? "" assignmentType }
  | _ => none

/-- Whether a group holds the role by this assignment. -/
def isActiveForGroup (a : RoleAssignment) : Bool :=
  a.status != "INACTIVE" && a.assignmentType == "GROUP"

def assignedRole (a : RoleAssignment) : Role := ⟨a.role, a.label, a.type⟩

end RoleAssignment
end AccessCatalog.Okta
