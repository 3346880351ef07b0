import AccessCatalog.Proofs.Catalog.Attributes
import AccessCatalog.Proofs.Okta.GroupGrants
import AccessCatalog.Proofs.Okta.Traffic
import Mathlib.Data.List.Forall2

/-! What grants refer to. The id of an entitlement is made anew wherever it is needed: for the
entitlements of a resource, for each grant, and for the members that a role expands to. The caller
joins them by these ids alone, so all of them have to agree. -/
namespace AccessCatalog

/-- Whether a grant gives an entitlement to a holder who may have it, and is named after both. -/
structure Grant.Joins (g : Grant) (e : Entitlement) (holder : ResourceId) : Prop where
  principal : g.principal = holder
  entitlement : g.entitlement.id = e.id
  resource : g.entitlement.resource = e.resource
  grantable : holder.resourceType ∈ e.grantableTo
  named : g.id = ":".intercalate [e.id, holder.resourceType, holder.resource]

/-- A grant that is made from a resource refers to each entitlement made from the same one. -/
theorem Grant.ofAssignment_joins {r : Resource} {slug : String} {e : Entitlement}
    {holder : ResourceId} (id : e.id = entitlementId r.id slug) (resource : e.resource = r.id)
    (grantable : holder.resourceType ∈ e.grantableTo) :
    (Grant.ofAssignment r slug holder).Joins e holder where
  principal := rfl
  entitlement := id.symm
  resource := resource.symm
  grantable := grantable
  named := by
    rw [id]
    simp [Grant.ofAssignment, Entitlement.assignment, ResourceId.text, String.append_assoc]

theorem Grant.Joins.annotate {g : Grant} {e : Entitlement} {holder : ResourceId}
    (joins : g.Joins e holder) (note : Note) : (g.annotate note).Joins e holder :=
  ⟨joins.principal, joins.entitlement, joins.resource, joins.grantable, joins.named⟩

namespace Okta

open Web (Reply Request)

variable {σ : Type}

namespace GroupRecord

variable (g : GroupRecord)

theorem resource_id : g.resource.id = ⟨"group", g.id⟩ := by
  unfold resource
  cases g.lastMembershipUpdated <;> rfl

theorem resource_profile : g.resource.groupProfile = .ok g.profile := by
  unfold resource
  cases g.lastMembershipUpdated <;> rfl

/-- The number of members that a record has is the one that its resource is asked for. -/
theorem profile_count : g.profile.int? usersCountKey = g.usersCount? := by
  have ofName : usersCountKey ≠ "name" := by decide
  have ofDescription : usersCountKey ≠ "description" := by decide
  unfold profile
  cases g.usersCount? with
  | none => simp [Profile.int?, ofName, ofDescription]
  | some n => simp [Profile.int?, ProfileValue.int?]

/-- Whether a record leaves room for members: it has no number of them, or one above zero. -/
def LeavesMembers : Prop := ∀ n, g.usersCount? = some n → 0 < n

theorem leavesMembers_iff : g.LeavesMembers ↔ Groups.leavesMembers g.usersCount? = true := by
  unfold LeavesMembers Groups.leavesMembers
  cases g.usersCount? with
  | none => simp
  | some n => simp

theorem leavesMembers_iff_asked :
    g.LeavesMembers ↔ Groups.isEmptyCount g.usersCount? = false := by
  rw [leavesMembers_iff, Groups.leavesMembers_eq, Bool.not_eq_true']

end GroupRecord

namespace Groups

theorem memberGrant_joins (group : Resource) (userId : String) :
    (memberGrant group userId).Joins (GroupRecord.memberEntitlement group) ⟨"user", userId⟩ :=
  Grant.ofAssignment_joins rfl rfl List.mem_cons_self

theorem roleGrant_joins (group : Resource) (expands : Bool) (a : RoleAssignment)
    (isGroup : group.id.resourceType = "group") :
    (roleGrant group expands a).Joins (Role.entitlement a.assignedRole.resource) group.id := by
  have grantable :
      group.id.resourceType ∈ (Role.entitlement a.assignedRole.resource).grantableTo := by
    rw [isGroup]
    exact List.mem_cons_of_mem _ List.mem_cons_self
  have joins : (Grant.ofAssignment a.assignedRole.resource Role.assignedSlug group.id).Joins
      (Role.entitlement a.assignedRole.resource) group.id :=
    Grant.ofAssignment_joins rfl rfl grantable
  cases expands with
  | false => exact joins
  | true => exact joins.annotate _

/-- The notes of the grant of a role: that the members have it too, if there may be any. -/
theorem roleGrant_notes (group : Resource) (expands : Bool) (a : RoleAssignment) :
    (roleGrant group expands a).annotations.items =
      if expands then [.grantExpandable [(GroupRecord.memberEntitlement group).id] true]
      else [] := by
  cases expands <;> rfl

/-! What a page was made of. -/

/-- The members in a reply to the request for a page of them. -/
def membersIn (reply : Reply) : Except Failure (List String × ResponseInfo) :=
  document (Json.list? Roles.decodeAssignee?) reply

/-- The assignments in a reply to the request for a page of roles. -/
def assignmentsIn (reply : Reply) : Except Failure (List RoleAssignment × ResponseInfo) :=
  document (Json.list? RoleAssignment.decode?) reply

abbrev CanListRoles (t : Tenant) (group : Resource) (size : Nat) (cursor : String) : Prop :=
  t.CanAsk jsonType (listingPath group "/roles")
    [("limit", Nat.repr (t.pageLimit ⟨size, ""⟩)), ("after", cursor)]

section Pages

variable {s : Setting σ} {group : Resource} {count : Option Int} {bag : Bag} {size : Nat}
  {session after : Session σ} {page : Page Grant}

theorem memberPage_over (empty : isEmptyCount count = true)
    (called : memberPage s group count bag (s.tenant.pageLimit ⟨size, ""⟩) session =
      (.ok page, after)) :
    ∃ next, bag.next "" = .ok next ∧ page = ⟨[], next.token, stamp s next .empty⟩ ∧
      after = session := by
  rw [memberPage] at called
  dsimp only at called
  rw [if_pos empty] at called
  obtain ⟨next, between, moved, ended⟩ := Call.bind_eq_ok called
  obtain ⟨accepted, rfl⟩ := Call.ofExcept_eq_ok moved
  cases ended
  exact ⟨next, accepted, rfl, rfl⟩

theorem memberPage_heard (asked : isEmptyCount count = false)
    (called : memberPage s group count bag (s.tenant.pageLimit ⟨size, ""⟩) session =
      (.ok page, after)) :
    ∃ users info next,
      membersIn (s.service (memberRequest s.tenant group size bag.cursor) session.service).1 =
        .ok (users, info) ∧
      bag.next info.nextCursor = .ok next ∧
      page = ⟨users.map (memberGrant group), next.token, stamp s next info.annotations⟩ ∧
      after = session.heard (memberRequest s.tenant group size bag.cursor)
        (s.service (memberRequest s.tenant group size bag.cursor) session.service) := by
  rw [memberPage] at called
  dsimp only at called
  rw [if_neg (by simp [asked])] at called
  obtain ⟨⟨users, info⟩, between, got, answered⟩ := Call.bind_eq_ok called
  obtain ⟨-, read, heard⟩ := s.get_eq_ok _ (Call.within_eq_ok got)
  obtain ⟨next, last, moved, ended⟩ := Call.bind_eq_ok answered
  obtain ⟨accepted, same⟩ := Call.ofExcept_eq_ok moved
  cases ended
  exact ⟨users, info, next, read, accepted, rfl, same.trans heard⟩

theorem memberPage_passed (empty : isEmptyCount count = true)
    (called : memberPage s group count bag (s.tenant.pageLimit ⟨size, ""⟩) session =
      (.ok page, after)) : page.items = [] ∧ after = session := by
  obtain ⟨next, -, rfl, same⟩ := memberPage_over empty called
  exact ⟨rfl, same⟩

theorem memberPage_asked (asked : isEmptyCount count = false)
    (called : memberPage s group count bag (s.tenant.pageLimit ⟨size, ""⟩) session =
      (.ok page, after)) :
    ∃ users info,
      membersIn (s.service (memberRequest s.tenant group size bag.cursor) session.service).1 =
        .ok (users, info) ∧
      page.items = users.map (memberGrant group) ∧
      after = session.heard (memberRequest s.tenant group size bag.cursor)
        (s.service (memberRequest s.tenant group size bag.cursor) session.service) := by
  obtain ⟨users, info, next, read, -, rfl, heard⟩ := memberPage_heard asked called
  exact ⟨users, info, read, rfl, heard⟩

theorem rolePage_answered (can : CanListRoles s.tenant group size bag.cursor)
    {assignments : List RoleAssignment} {info : ResponseInfo}
    (read : assignmentsIn (s.service (roleRequest s.tenant group size bag.cursor)
      session.service).1 = .ok (assignments, info)) :
    rolePage s group count bag (s.tenant.pageLimit ⟨size, ""⟩) session =
      ((bag.next info.nextCursor).map fun next =>
        ⟨(assignments.filter RoleAssignment.isActiveForGroup).map
          (roleGrant group (leavesMembers count)), next.token, info.annotations⟩,
        session.heard (roleRequest s.tenant group size bag.cursor)
          (s.service (roleRequest s.tenant group size bag.cursor) session.service)) := by
  have got := (s.get_asked (Json.list? RoleAssignment.decode?) can session).trans
    (congrArg (·, _) read)
  rw [rolePage]
  refine (Call.bind_ok (Call.attempt_eq got)).trans ?_
  dsimp only
  cases bag.next info.nextCursor <;> rfl

theorem rolePage_unread (can : CanListRoles s.tenant group size bag.cursor) {failure : Failure}
    (unread : assignmentsIn (s.service (roleRequest s.tenant group size bag.cursor)
      session.service).1 = .error failure) :
    (rolePage s group count bag (s.tenant.pageLimit ⟨size, ""⟩) session).1 =
      if failure.isAccessDenied then (bag.next "").map fun next => ⟨[], next.token, .empty⟩
      else .error (failure.context ("list roles of group " ++ group.id.resource)) := by
  have got := (s.get_asked (Json.list? RoleAssignment.decode?) can session).trans
    (congrArg (·, _) unread)
  rw [rolePage]
  refine (congrArg Prod.fst (Call.bind_ok (Call.attempt_eq got))).trans ?_
  dsimp only
  split
  · cases bag.next "" <;> rfl
  · rfl

theorem rolePage_unasked (cannot : ¬CanListRoles s.tenant group size bag.cursor) :
    ∃ fault, rolePage s group count bag (s.tenant.pageLimit ⟨size, ""⟩) session =
      (.error fault, session) := by
  obtain ⟨failure, unclassified, refused⟩ :=
    s.get_unasked (Json.list? RoleAssignment.decode?) cannot
  have open_ : failure.isAccessDenied = false := by simp [Failure.isAccessDenied, unclassified]
  refine ⟨failure.context ("list roles of group " ++ group.id.resource), ?_⟩
  rw [rolePage]
  refine (Call.bind_ok (Call.attempt_eq (refused session))).trans ?_
  dsimp only
  rw [open_]
  rfl

/-- A page of roles holds those that were answered, or none where they may not be seen. -/
theorem rolePage_heard
    (called : rolePage s group count bag (s.tenant.pageLimit ⟨size, ""⟩) session =
      (.ok page, after)) :
    (∃ assignments info next,
      assignmentsIn (s.service (roleRequest s.tenant group size bag.cursor) session.service).1 =
        .ok (assignments, info) ∧
      bag.next info.nextCursor = .ok next ∧
      page = ⟨(assignments.filter RoleAssignment.isActiveForGroup).map
        (roleGrant group (leavesMembers count)), next.token, info.annotations⟩) ∨
    ∃ failure next,
      assignmentsIn (s.service (roleRequest s.tenant group size bag.cursor) session.service).1 =
        .error failure ∧ failure.isAccessDenied = true ∧ bag.next "" = .ok next ∧
      page = ⟨[], next.token, .empty⟩ := by
  by_cases can : CanListRoles s.tenant group size bag.cursor
  · cases read : assignmentsIn
        (s.service (roleRequest s.tenant group size bag.cursor) session.service).1 with
    | ok answer =>
      obtain ⟨assignments, info⟩ := answer
      rw [rolePage_answered can read] at called
      cases moved : bag.next info.nextCursor with
      | error fault =>
        rw [moved] at called
        cases called
      | ok next =>
        rw [moved] at called
        cases called
        exact .inl ⟨assignments, info, next, rfl, moved, rfl⟩
    | error failure =>
      have ended := (rolePage_unread can read).symm.trans (congrArg Prod.fst called)
      dsimp only at ended
      split at ended
      · rename_i denied
        cases moved : bag.next "" with
        | error fault =>
          rw [moved] at ended
          cases ended
        | ok next =>
          rw [moved] at ended
          cases ended
          exact .inr ⟨failure, next, rfl, denied, rfl, rfl⟩
      · cases ended
  · obtain ⟨fault, refused⟩ := rolePage_unasked can
    rw [refused] at called
    cases called

theorem rolePage_items
    (called : rolePage s group count bag (s.tenant.pageLimit ⟨size, ""⟩) session =
      (.ok page, after)) :
    (∃ assignments info,
      assignmentsIn (s.service (roleRequest s.tenant group size bag.cursor) session.service).1 =
        .ok (assignments, info) ∧
      page.items = (assignments.filter RoleAssignment.isActiveForGroup).map
        (roleGrant group (leavesMembers count))) ∨
    ∃ failure,
      assignmentsIn (s.service (roleRequest s.tenant group size bag.cursor) session.service).1 =
        .error failure ∧ failure.isAccessDenied = true ∧ page.items = [] := by
  rcases rolePage_heard called with ⟨assignments, info, next, read, -, rfl⟩ |
    ⟨failure, next, read, denied, -, rfl⟩
  · exact .inl ⟨assignments, info, read, rfl⟩
  · exact .inr ⟨failure, read, denied, rfl⟩

/-- A page of the grants of a group is one of its members or one of its roles. -/
theorem grants_phase {r : PageRequest} (called : grants s group r session = (.ok page, after)) :
    ∃ bag profile, Roles.resume r.token phases = .ok bag ∧ group.groupProfile = .ok profile ∧
      (bag.resourceType = userPhase ∧
          memberPage s group (profile.int? GroupRecord.usersCountKey) bag
            (s.tenant.pageLimit ⟨r.size, ""⟩) session = (.ok page, after) ∨
        bag.resourceType = rolePhase ∧
          rolePage s group (profile.int? GroupRecord.usersCountKey) bag
            (s.tenant.pageLimit ⟨r.size, ""⟩) session = (.ok page, after)) := by
  rw [grants] at called
  obtain ⟨bag, _, resumed, entered⟩ := Call.bind_eq_ok called
  obtain ⟨found, rfl⟩ := Call.ofExcept_eq_ok resumed
  obtain ⟨profile, _, isGroup, inPhase⟩ := Call.bind_eq_ok entered
  obtain ⟨read, rfl⟩ := Call.ofExcept_eq_ok isGroup
  refine ⟨bag, profile, found, read, ?_⟩
  dsimp only at inPhase
  split at inPhase
  · rename_i phase
    exact .inl ⟨phase, inPhase⟩
  · split at inPhase
    · rename_i phase
      exact .inr ⟨phase, inPhase⟩
    · cases inPhase

end Pages

/-! What the grants of a page refer to. -/

/-- The grants of an entitlement to users, one for each. -/
def JoinMembers (member : Entitlement) : List String → List Grant → Prop :=
  List.Forall₂ fun userId g => g.Joins member ⟨"user", userId⟩

/-- The grants of roles to a group, one for each assignment that counts. They expand to the holders
of the member entitlement where the record leaves room for any. -/
def JoinRoles (record : GroupRecord) (member : Entitlement) (assignments : List RoleAssignment) :
    List Grant → Prop :=
  List.Forall₂ (fun a g =>
    g.Joins (Role.entitlement a.assignedRole.resource) record.resource.id ∧
      (record.LeavesMembers → g.annotations.items = [.grantExpandable [member.id] true]) ∧
      (¬record.LeavesMembers → g.annotations.items = []))
    (assignments.filter RoleAssignment.isActiveForGroup)

theorem joinMembers_map (group : Resource) (users : List String) :
    JoinMembers (GroupRecord.memberEntitlement group) users (users.map (memberGrant group)) :=
  List.forall₂_map_right_iff.mpr
    (List.forall₂_same.mpr fun userId _ => memberGrant_joins group userId)

theorem joinRoles_map (record : GroupRecord) (assignments : List RoleAssignment) :
    JoinRoles record (GroupRecord.memberEntitlement record.resource) assignments
      ((assignments.filter RoleAssignment.isActiveForGroup).map
        (roleGrant record.resource (leavesMembers record.usersCount?))) := by
  refine List.forall₂_map_right_iff.mpr (List.forall₂_same.mpr fun a _ => ?_)
  have isGroup : record.resource.id.resourceType = "group" := by rw [record.resource_id]
  refine ⟨roleGrant_joins _ _ a isGroup, fun room => ?_, fun noRoom => ?_⟩
  · rw [roleGrant_notes, if_pos (record.leavesMembers_iff.mp room)]
  · rw [roleGrant_notes, if_neg (mt record.leavesMembers_iff.mpr noRoom)]

end Groups

theorem Roles.grants_items {s : Setting σ} {role : Resource} {r : PageRequest} {page : Page Grant}
    {session after : Session σ} (called : grants s role r session = (.ok page, after)) :
    ∃ users : List String, page.items =
      users.map fun userId => Grant.ofAssignment role Role.assignedSlug ⟨"user", userId⟩ := by
  rw [grants] at called
  obtain ⟨bag, _, _, entered⟩ := Call.bind_eq_ok called
  obtain ⟨⟨users, info⟩, _, _, answered⟩ := Call.bind_eq_ok entered
  obtain ⟨next, _, _, moved⟩ := Call.bind_eq_ok answered
  obtain ⟨holders, _, _, ended⟩ := Call.bind_eq_ok moved
  cases ended
  exact ⟨holders, rfl⟩

theorem Roles.grants_join {s : Setting σ} {role : Resource} {r : PageRequest} {page : Page Grant}
    {session after : Session σ} (called : grants s role r session = (.ok page, after)) :
    ∀ g ∈ page.items, ∃ userId, g.Joins (Role.entitlement role) ⟨"user", userId⟩ := by
  obtain ⟨users, items⟩ := Roles.grants_items called
  intro g member
  rw [items] at member
  obtain ⟨userId, _, rfl⟩ := List.mem_map.mp member
  exact ⟨userId, Grant.ofAssignment_joins rfl rfl List.mem_cons_self⟩

open Groups in
/-- Every grant refers to an entitlement of the catalog. A member of a group is granted the one
entitlement of the group, a role is granted by its own one, and a role of a group expands to the
holders of the entitlement of the group just where these would be asked for. -/
theorem grants_joined (s : Setting σ) :
    (∀ (record : GroupRecord) (r : PageRequest) (page : Page Grant) (session after : Session σ),
      grants s record.resource r session = (.ok page, after) →
      ∃ member bag,
        entitlements record.resource = ⟨[member], "", .empty⟩ ∧
        member.resource = record.resource.id ∧
        Roles.resume r.token phases = .ok bag ∧
        (bag.resourceType = userPhase ∧
            (record.LeavesMembers → ∃ users info,
              membersIn (s.service (memberRequest s.tenant record.resource r.size bag.cursor)
                session.service).1 = .ok (users, info) ∧
              after = session.heard (memberRequest s.tenant record.resource r.size bag.cursor)
                (s.service (memberRequest s.tenant record.resource r.size bag.cursor)
                  session.service) ∧
              JoinMembers member users page.items) ∧
            (¬record.LeavesMembers → page.items = [] ∧ after = session) ∨
          bag.resourceType = rolePhase ∧
            ((∃ assignments info,
              assignmentsIn (s.service (roleRequest s.tenant record.resource r.size bag.cursor)
                session.service).1 = .ok (assignments, info) ∧
              JoinRoles record member assignments page.items) ∨
            ∃ failure,
              assignmentsIn (s.service (roleRequest s.tenant record.resource r.size bag.cursor)
                session.service).1 = .error failure ∧
              failure.isAccessDenied = true ∧ page.items = []))) ∧
    (∀ (role : Resource) (r : PageRequest) (page : Page Grant) (session after : Session σ),
      Roles.grants s role r session = (.ok page, after) →
      ∃ assigned, Roles.entitlements role = ⟨[assigned], "", .empty⟩ ∧
        assigned.resource = role.id ∧
        ∀ g ∈ page.items, ∃ userId, g.Joins assigned ⟨"user", userId⟩) := by
  refine ⟨fun record r page session after called => ?_, fun role r page session after called =>
    ⟨Role.entitlement role, rfl, rfl, Roles.grants_join called⟩⟩
  obtain ⟨bag, profile, resumed, isGroup, inPhase⟩ := grants_phase called
  cases record.resource_profile.symm.trans isGroup
  rw [record.profile_count] at inPhase
  rcases inPhase with ⟨phase, inPhase⟩ | ⟨phase, inPhase⟩
  · refine ⟨GroupRecord.memberEntitlement record.resource, bag, rfl, rfl, resumed,
      .inl ⟨phase, fun room => ?_, fun noRoom => ?_⟩⟩
    · obtain ⟨users, info, read, items, heard⟩ :=
        memberPage_asked (record.leavesMembers_iff_asked.mp room) inPhase
      exact ⟨users, info, read, heard, items ▸ joinMembers_map record.resource users⟩
    · have empty : isEmptyCount record.usersCount? = true := by
        rw [← Bool.not_eq_false]
        exact mt record.leavesMembers_iff_asked.mpr noRoom
      exact memberPage_passed empty inPhase
  · refine ⟨GroupRecord.memberEntitlement record.resource, bag, rfl, rfl, resumed,
      .inr ⟨phase, ?_⟩⟩
    rcases rolePage_items inPhase with ⟨assignments, info, read, items⟩ | denied
    · exact .inl ⟨assignments, info, read, items ▸ joinRoles_map record assignments⟩
    · exact .inr denied

/-! A group of two members that holds a role, and a user who holds the same one. -/

def engineersRecord : GroupRecord :=
  { id := "g1", name := "Engineers"
    embedded := some (.obj [("stats", .obj [("usersCount", .num (.int 2))])]) }

def mobileAdmin : Role := { type := "MOBILE_ADMIN", label := "Mobile Administrator" }

def heldByEngineers : Web.Response :=
  ⟨200, [], "[\x7b\"type\":\"MOBILE_ADMIN\",\"assignmentType\":\"GROUP\"\x7d]"⟩

def heldByUser : List Web.Response :=
  [⟨200, [], "\x7b\"value\":[\x7b\"id\":\"u1\"\x7d]\x7d"⟩,
    ⟨200, [], "[\x7b\"userId\":\"u1\",\"rolesFromGroup\":[\"mobileadmin\"]\x7d]"⟩]

theorem grants_joined_of_engineers :
    (∃ page after assignments,
      Groups.grants (.scripted .acme) engineersRecord.resource ⟨0, (Groups.atRoles "").token⟩
        (Session.start .acme [heldByEngineers]) = (.ok page, after) ∧
      page.items.map (·.id) = ["role:MOBILE_ADMIN:assigned:group:g1"] ∧
      Groups.JoinRoles engineersRecord (GroupRecord.memberEntitlement engineersRecord.resource)
        assignments page.items) ∧
    ∃ page after,
      Roles.grants (.scripted .acme) mobileAdmin.resource {} (Session.start .acme heldByUser) =
        (.ok page, after) ∧
      page.items.map (·.id) = ["role:MOBILE_ADMIN:assigned:user:u1"] ∧
      ∀ g ∈ page.items, ∃ userId,
        g.Joins (Role.entitlement mobileAdmin.resource) ⟨"user", userId⟩ := by
  obtain ⟨ofGroup, ofRole⟩ := grants_joined (.scripted .acme)
  constructor
  · have ends : (Groups.grants (.scripted .acme) engineersRecord.resource
        ⟨0, (Groups.atRoles "").token⟩ (Session.start .acme [heldByEngineers])).1.toOption.map
          (fun page => page.items.map (·.id)) = some ["role:MOBILE_ADMIN:assigned:group:g1"] := by
      decide +kernel
    obtain ⟨page, after, called, ids⟩ := Call.ok_of_toOption ends
    obtain ⟨member, bag, single, -, resumed, ⟨phase, -⟩ | ⟨-, joined⟩⟩ :=
      ofGroup _ _ _ _ _ called
    · cases (Groups.resume_atRoles "").2.symm.trans resumed
      exact absurd phase (by decide)
    · cases single
      rcases joined with ⟨assignments, _, _, joined⟩ | ⟨_, _, _, none⟩
      · exact ⟨page, after, assignments, called, ids, joined⟩
      · rw [none] at ids
        cases ids
  · have ends : (Roles.grants (.scripted .acme) mobileAdmin.resource {}
        (Session.start .acme heldByUser)).1.toOption.map (fun page => page.items.map (·.id)) =
          some ["role:MOBILE_ADMIN:assigned:user:u1"] := by
      decide +kernel
    obtain ⟨page, after, called, ids⟩ := Call.ok_of_toOption ends
    obtain ⟨_, single, _, joined⟩ := ofRole _ _ _ _ _ called
    cases single
    exact ⟨page, after, called, ids, joined⟩

end Okta
end AccessCatalog
