import AccessCatalog.Catalog.Resource
import AccessCatalog.Okta.Scope

/-! Users as the service describes them, and the resources they become. -/
namespace AccessCatalog.Okta

def userType : ResourceType :=
  (ResourceType.ofTrait "user" "User" .user).annotate .skipEntitlementsAndGrants

structure UserRecord where
  id : String
  status : String := ""
  created : Option Instant := none
  lastLogin : Option Instant := none
  profile : Json := .null

namespace UserRecord

def decode? (v : Json) : Option UserRecord := do
  match ← v.fields? [["id"], ["status"], ["created"], ["lastLogin"], ["profile"]] with
  | [id, status, created, lastLogin, profile] =>
    some {
      id := ← Json.required Json.str? id
      status := ← Json.orElse Json.str? "" status
      created := ← Json.orElse (Json.optional? Instant.decode?) none created
      lastLogin := ← Json.orElse (Json.optional? Instant.decode?) none lastLogin
      profile := ← Json.orElse Json.value? .null profile }
  | _ => none

/-- First and last name; one that is missing is unknown. -/
def names (p : Profile) : String × String :=
  ((p.text? "firstName").getD "unknown", (p.text? "lastName").getD "unknown")

def displayName (p : Profile) : String :=
  (p.text? "displayName").getD ((names p).1 ++ " " ++ (names p).2)

/-- The part of a login before its at sign, if it has exactly one. -/
def loginAlias? (login : String) : Option String :=
  if login.toList.count '@' = 1 then some (String.ofList (login.toList.takeWhile (· != '@')))
  else none

/-- Keys, in small letters, that employee ids stand under. -/
def employeeIdKeys : List String :=
  ["employeenumber", "employeeid", "employeeidnumber", "employee_number", "employee_id",
    "employee_idnumber"]

/-- Puts a text into a strictly increasing list. -/
def insertText (s : String) : List String → List String
  | [] => [s]
  | t :: rest =>
    if s < t then s :: t :: rest else if s = t then t :: rest else t :: insertText s rest

/-- The employee ids of a profile, each once, in order. -/
def employeeIds (p : Profile) : List String :=
  (p.entries.filter fun e => employeeIdKeys.contains (Text.lowercase e.1)).filterMap
    (fun e => e.2.text?) |>.foldr insertText []

def statusOf (text : String) : UserStatus :=
  if ["SUSPENDED", "DEPROVISIONED"].contains text then .disabled
  else if ["ACTIVE", "PROVISIONED", "STAGED", "PASSWORD_EXPIRED", "RECOVERY",
      "LOCKED_OUT"].contains text then .enabled
  else .unspecified

def rawStatusKey : String := "c1_okta_raw_user_status"

def email? (p : Profile) (key : String) (isPrimary : Bool) : Option UserEmail :=
  ((p.text? key).filter fun e => !e.isEmpty).map (⟨·, isPrimary⟩)

/-- The resource of a user. Secondary addresses that are skipped leave a null in the profile. -/
def resource (u : UserRecord) (skipSecondary : Bool) : Resource :=
  let p := (Profile.ofJson u.profile).set rawStatusKey (.text u.status)
  let secondary := if skipSecondary then none else email? p "secondEmail" false
  let emails := (email? p "email" true).toList ++ secondary.toList
  let kept := if skipSecondary then p.set "secondEmail" .null else p
  let login := kept.text? "login"
  (Resource.ofTraits (displayName p) userType u.id (.user {
    profile := kept
    emails
    login
    loginAliases := (login.bind loginAlias?).toList
    employeeIds := employeeIds kept
    status := some ⟨statusOf u.status, u.status⟩
    createdAt := u.created
    lastLogin := u.lastLogin })).annotate (.rawId u.id)

def inScope (u : UserRecord) (domains : List String) : Bool :=
  Scope.contains (Profile.ofJson u.profile) domains

end UserRecord
end AccessCatalog.Okta
