import AccessCatalog.Okta.RoleCatalog
import AccessCatalog.Okta.Session
import AccessCatalog.Paging.Bag

/-! Listing roles and who holds them. Standard roles come first, custom ones after them if the
tenant wants them. Whether a user holds a role is read off the user's administrator flags. -/
namespace AccessCatalog.Okta

variable {σ : Type}

/-- A page whose link to the next one may stand in the body. -/
structure LinkedPage (α : Type) where
  items : List α
  nextHref : Option String

namespace LinkedPage

variable {α : Type}

def decodeHref? (v : Json) : Option String := do
  match ← v.fields? [["href"]] with
  | [href] => Json.orElse Json.str? "" href
  | _ => none

def decodeLinks? (v : Json) : Option (Option String) := do
  match ← v.fields? [["next"]] with
  | [next] => Json.orElse (Json.optional? decodeHref?) none next
  | _ => none

def decode? (key : String) (item : Json → Option α) (v : Json) : Option (LinkedPage α) := do
  match ← v.fields? [[key], ["_links"]] with
  | [items, links] =>
    some ⟨← Json.orElse (Json.list? item) [] items, ← Json.orElse decodeLinks? none links⟩
  | _ => none

/-- The cursor of the link in the body, or of the headers if that has none. -/
def nextCursor (p : LinkedPage α) (info : ResponseInfo) : String :=
  (p.nextHref.bind fun href => Web.afterParam? href.toList).getD info.nextCursor

end LinkedPage

namespace Roles

def administratorsPath : String := "/api/internal/administrators"
def customPath : String := "/api/v1/iam/roles"
def assigneesPath : String := "/api/v1/iam/assignees/users"
def pathOf (id : String) : String := customPath ++ "/" ++ Web.pathSegment id

/-- Asks for the flags of a user. A user whose flags may not be seen has none. -/
def fetchFlags (s : Setting σ) (userId : String) : Call σ Fault AdminFlags := do
  match ← (s.get jsonType (Json.list? AdminFlags.decode?) administratorsPath
      [("userId", userId)]).attempt with
  | .ok (records, _) => pure (AdminFlags.select userId records)
  | .error e =>
    if e.isAccessDenied then pure { userId }
    else throw (e.context ("list administrator flags for user " ++ userId))

/-- The flags of a user if they are known, who has a cell for them from then on. -/
def knownFlags (userId : String) : Call σ Fault (Option AdminFlags) := fun session =>
  (.ok (session.flags.get? userId), { session with flags := session.flags.opened userId })

def keepFlags (userId : String) (found : AdminFlags) : Call σ Fault Unit := fun session =>
  (.ok (), { session with flags := session.flags.insert userId found })

/-- The flags of a user, asked for only until they are known. -/
def flags (s : Setting σ) (userId : String) : Call σ Fault AdminFlags := do
  match ← knownFlags userId with
  | some known => pure known
  | none =>
    let found ← fetchFlags s userId
    keepFlags userId found
    pure found

def standardPhase : String := "role"
def customPhase : String := "custom_role"

def phases (t : Tenant) : List String :=
  if t.syncCustomRoles then [standardPhase, customPhase] else [standardPhase]

/-- The bag of a token, started anew when no listing is active. -/
def resume (token : String) (phases : List String) : Except Fault Bag := do
  let bag ← Bag.ofToken token
  if bag.isExhausted then
    let (bag, started) := bag.seed phases
    started
    .ok bag
  else .ok bag

def list (s : Setting σ) (r : PageRequest) : Call σ Fault (Page Resource) := do
  let bag ← Call.ofExcept (resume r.token (phases s.tenant))
  if bag.resourceType = standardPhase then
    let bag ← Call.ofExcept (bag.next "")
    pure ⟨Role.standard.map Role.resource, bag.token, .empty⟩
  else if bag.resourceType = customPhase then
    let (page, info) ← (s.get jsonType (LinkedPage.decode? "roles" Role.decode?) customPath
      [("after", bag.cursor)]).within "list custom roles"
    let bag ← Call.ofExcept (bag.next (page.nextCursor info))
    pure ⟨page.items.map Role.resource, bag.token, info.annotations⟩
  else throw (.invalidToken ("invalid role list phase: " ++ bag.resourceType))

def entitlements (r : Resource) : Page Entitlement := ⟨[Role.entitlement r], "", .empty⟩

def decodeAssignee? (v : Json) : Option String := do
  match ← v.fields? [["id"]] with
  | [id] => Json.required Json.str? id
  | _ => none

def holders (s : Setting σ) (roleId : String) : List String → Call σ Fault (List String)
  | [] => pure []
  | userId :: rest => do
    let known ← flags s userId
    let others ← holders s roleId rest
    pure (if known.grants roleId then userId :: others else others)

/-- One page of the users with any role, and of them those who hold this one. -/
def grants (s : Setting σ) (role : Resource) (r : PageRequest) : Call σ Fault (Page Grant) := do
  let bag ← Call.ofExcept (Bag.resume r.token { resourceType := "user" })
  let (page, info) ← (s.get jsonType (LinkedPage.decode? "value" decodeAssignee?) assigneesPath
    [("limit", Nat.repr (s.tenant.pageLimit r)), ("after", bag.cursor)]).within
      "list users with role assignments"
  let bag ← Call.ofExcept (bag.next (page.nextCursor info))
  let users ← holders s role.id.resource page.items
  pure ⟨users.map fun userId => Grant.ofAssignment role Role.assignedSlug ⟨"user", userId⟩,
    bag.token, info.annotations⟩

/-- The role with an id; a custom one only if the tenant wants those. -/
def get (s : Setting σ) (id : ResourceId) : Call σ Fault (Option Resource) := do
  if id.resourceType ≠ "role" then pure none
  else match Role.ofType? id.resource with
    | some role => pure (some role.resource)
    | none =>
      if s.tenant.syncCustomRoles then
        match ← (s.getKept jsonType Role.decode? (pathOf id.resource)).attempt with
        | .ok (role, _) => pure (some role.resource)
        | .error e =>
          if e.isNotFound then pure none
          else throw (e.context ("get custom role " ++ id.resource))
      else pure none

end Roles
end AccessCatalog.Okta
