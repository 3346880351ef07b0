import AccessCatalog.Catalog.Grant
import AccessCatalog.Okta.UserRecord

/-! Administrator roles: the standard ones, which are fixed, and custom ones, which have an id. -/
namespace AccessCatalog.Okta

def groupType : ResourceType := ResourceType.ofTrait "group" "Group" .group
def roleType : ResourceType := ResourceType.ofTrait "role" "Role" .role

structure Role where
  id : String := ""
  label : String := ""
  type : String := ""
  deriving DecidableEq, Repr

namespace Role

def standard : List Role := [
  { type := "API_ACCESS_MANAGEMENT_ADMIN", label := "API Access Management Administrator" },
  { type := "MOBILE_ADMIN", label := "Mobile Administrator" },
  { type := "ORG_ADMIN", label := "Organizational Administrator" },
  { type := "READ_ONLY_ADMIN", label := "Read-Only Administrator" },
  { type := "REPORT_ADMIN", label := "Report Administrator" },
  { type := "SUPER_ADMIN", label := "Super Administrator" },
  { type := "USER_ADMIN", label := "Group Administrator" },
  { type := "HELP_DESK_ADMIN", label := "Help Desk Administrator" },
  { type := "APP_ADMIN", label := "Application Administrator" },
  { type := "GROUP_MEMBERSHIP_ADMIN", label := "Group Membership Administrator" }]

def ofType? (type : String) : Option Role := standard.find? fun r => r.type = type
def ofLabel? (label : String) : Option Role := standard.find? fun r => r.label = label

def decode? (v : Json) : Option Role := do
  match ← v.fields? [["id"], ["label"], ["type"]] with
  | [id, label, type] =>
    some {
      id := ← Json.orElse Json.str? "" id
      label := ← Json.orElse Json.str? "" label
      type := ← Json.orElse Json.str? "" type }
  | _ => none

/-- What a role is known by: its type, or its id when it has no type. -/
def key (r : Role) : String := if r.type.isEmpty ∧ !r.id.isEmpty then r.id else r.type

def resource (r : Role) : Resource :=
  let profile := ((Profile.empty.set "id" (.text r.id)).set "label" (.text r.label)).set
    "type" (.text r.type)
  Resource.ofTraits r.label roleType r.key (.role profile)

def assignedSlug : String := "assigned"

def entitlement (r : Resource) : Entitlement :=
  (({ Entitlement.assignment r assignedSlug with
    displayName := r.displayName ++ " Role Member"
    description := "Has the " ++ r.displayName ++ " role in Okta" }).grantable userType).grantable
      groupType

/-- The note on a role that a group holds: its members hold it too. -/
def expansion (memberEntitlementId : String) : Note := .grantExpandable [memberEntitlementId] true

end Role
end AccessCatalog.Okta
