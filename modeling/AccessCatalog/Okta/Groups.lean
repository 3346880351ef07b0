import AccessCatalog.Okta.GroupRecord
import AccessCatalog.Okta.Roles

/-! Listing groups, their members and their roles. The grants of a group come in two phases: its
members first, then the roles it holds. A group that reports no members is not asked for them, and
its roles do not expand to them. -/
namespace AccessCatalog.Okta.Groups

variable {σ : Type}

def path : String := "/api/v1/groups"
def pathOf (id : String) : String := path ++ "/" ++ Web.pathSegment id
def membershipPath (groupId userId : String) : String :=
  pathOf groupId ++ "/users/" ++ Web.pathSegment userId

def list (s : Setting σ) (r : PageRequest) : Call σ Fault (Page Resource) := do
  let bag ← Call.ofExcept (Bag.resume r.token { resourceType := "group" })
  let (groups, info) ← (s.get jsonType (Json.list? GroupRecord.decode?) path
    [("limit", Nat.repr (s.tenant.pageLimit r)), ("after", bag.cursor),
      ("expand", "stats")]).within "list groups"
  let bag ← Call.ofExcept (bag.next info.nextCursor)
  pure ⟨groups.map GroupRecord.resource, bag.token, info.annotations⟩

def entitlements (r : Resource) : Page Entitlement :=
  ⟨[GroupRecord.memberEntitlement r], "", .empty⟩

def get (s : Setting σ) (id : String) : Call σ Fault (Option Resource) := do
  match ← (s.getKept jsonType GroupRecord.decode? (pathOf id)).attempt with
  | .ok (group, _) => pure (some group.resource)
  | .error e => if e.isNotFound then pure none else throw (e.context ("get group " ++ id))

def userPhase : String := "user"
def rolePhase : String := "role"

def phases : List String := [userPhase, rolePhase]

def memberGrant (group : Resource) (userId : String) : Grant :=
  Grant.ofAssignment group GroupRecord.memberSlug ⟨"user", userId⟩

/-- Marks the page that ends the listing of members with the time. -/
def stamp (s : Setting σ) (bag : Bag) (annotations : Annotations) : Annotations :=
  if bag.resourceType = userPhase then annotations
  else annotations.update (.eTag (s.now.text .shortest))

/-- Whether a number of members says that there are none. -/
def isEmptyCount (count : Option Int) : Bool :=
  match count with
  | some n => decide (n ≤ 0)
  | none => false

def memberPage (s : Setting σ) (group : Resource) (count : Option Int) (bag : Bag) (limit : Nat) :
    Call σ Fault (Page Grant) := do
  let id := group.id.resource
  if isEmptyCount count then
    let bag ← Call.ofExcept (bag.next "")
    pure ⟨[], bag.token, stamp s bag .empty⟩
  else
    let (members, info) ← (s.get jsonType (Json.list? Roles.decodeAssignee?)
      (pathOf id ++ "/users") [("limit", Nat.repr limit), ("after", bag.cursor)]).within
        ("list users of group " ++ id)
    let bag ← Call.ofExcept (bag.next info.nextCursor)
    pure ⟨members.map (memberGrant group), bag.token, stamp s bag info.annotations⟩

/-- Whether a number of members leaves room for some, as the roles of the group read it. -/
def leavesMembers (count : Option Int) : Bool :=
  match count with
  | some n => decide (0 < n)
  | none => true

/-- The grant of a role to a group; unless the group is empty, it expands to the members. -/
def roleGrant (group : Resource) (expands : Bool) (a : RoleAssignment) : Grant :=
  let grant := Grant.ofAssignment a.assignedRole.resource Role.assignedSlug group.id
  if expands then grant.annotate (Role.expansion (entitlementId group.id GroupRecord.memberSlug))
  else grant

/-- A group whose roles may not be seen has no page of them, and its listing ends. -/
def rolePage (s : Setting σ) (group : Resource) (count : Option Int) (bag : Bag) (limit : Nat) :
    Call σ Fault (Page Grant) := do
  let id := group.id.resource
  match ← (s.get jsonType (Json.list? RoleAssignment.decode?) (pathOf id ++ "/roles")
      [("limit", Nat.repr limit), ("after", bag.cursor)]).attempt with
  | .ok (assignments, info) =>
    let active := assignments.filter RoleAssignment.isActiveForGroup
    let bag ← Call.ofExcept (bag.next info.nextCursor)
    pure ⟨active.map (roleGrant group (leavesMembers count)), bag.token, info.annotations⟩
  | .error e =>
    if e.isAccessDenied then
      let bag ← Call.ofExcept (bag.next "")
      pure ⟨[], bag.token, .empty⟩
    else throw (e.context ("list roles of group " ++ id))

def grants (s : Setting σ) (group : Resource) (r : PageRequest) : Call σ Fault (Page Grant) := do
  let bag ← Call.ofExcept (Roles.resume r.token phases)
  let profile ← Call.ofExcept group.groupProfile
  let count := profile.int? GroupRecord.usersCountKey
  let limit := s.tenant.pageLimit r
  if bag.resourceType = userPhase then memberPage s group count bag limit
  else if bag.resourceType = rolePhase then rolePage s group count bag limit
  else throw (.invalidToken ("invalid group grant phase: " ++ bag.resourceType))

end AccessCatalog.Okta.Groups
