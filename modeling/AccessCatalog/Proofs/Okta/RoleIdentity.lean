import AccessCatalog.Proofs.Okta.Addressing
import AccessCatalog.Proofs.Okta.GrantIdentity

/-! The name of a custom role. Its records come from three places: the listing of custom roles, the
look-up of one, and the assignments of a group. A record without a type is known by the id of the
role in each of them. One with a type is known by that type, which it may share with others. -/
namespace AccessCatalog.Okta

open Web (Reply Request Response)

variable {σ : Type}

namespace Role

/-- A role is known by its type, and by its id where it has none. -/
theorem key_eq (r : Role) : r.key = if r.type = "" then r.id else r.type := by
  unfold key
  by_cases typed : r.type = ""
  · by_cases named : r.id = ""
    · simp [typed, named]
    · simp [typed, named]
  · simp [typed]

theorem key_of_untyped {r : Role} (untyped : r.type = "" ∨ r.type = r.id) : r.key = r.id := by
  rw [key_eq]
  rcases untyped with untyped | same
  · rw [if_pos untyped]
  · rw [same, ite_self]

theorem resource_named (r : Role) :
    r.resource.id = ⟨"role", if r.type = "" then r.id else r.type⟩ :=
  congrArg (ResourceId.mk "role") r.key_eq

end Role

/-! The three places. -/

namespace Roles

def customRequest (t : Tenant) (cursor : String) : Request :=
  t.query jsonType customPath [("after", cursor)]

/-- The roles in a reply to the request for a page of custom ones. -/
def customIn (reply : Reply) : Except Failure (LinkedPage Role × ResponseInfo) :=
  document (LinkedPage.decode? "roles" Role.decode?) reply

section Custom

variable {s : Setting σ} {session : Session σ}

theorem list_custom {q : PageRequest} {bag : Bag}
    (resumed : resume q.token (phases s.tenant) = .ok bag) (phase : bag.resourceType = customPhase)
    (can : s.tenant.CanAsk jsonType customPath [("after", bag.cursor)]) {listed : LinkedPage Role}
    {info : ResponseInfo}
    (read : customIn (s.service (customRequest s.tenant bag.cursor) session.service).1 =
      .ok (listed, info)) :
    ∃ page after, list s q session = (.ok page, after) ∧
      page.items = listed.items.map Role.resource := by
  have other : bag.resourceType ≠ standardPhase := by
    rw [phase]
    decide
  have running : bag.resourceType ≠ "" := by
    rw [phase]
    decide
  obtain ⟨next, moved⟩ := Bag.next_running running (listed.nextCursor info)
  have got := (s.get_asked (LinkedPage.decode? "roles" Role.decode?) can session).trans
    (congrArg (·, _) read)
  have called : list s q session =
      (.ok ⟨listed.items.map Role.resource, next.token, info.annotations⟩,
        session.heard (customRequest s.tenant bag.cursor)
          (s.service (customRequest s.tenant bag.cursor) session.service)) := by
    rw [list, Call.bind_ok (Call.ofExcept_ok resumed session), if_neg other, if_pos phase]
    refine (Call.bind_ok (Call.within_ok got _)).trans ?_
    dsimp only
    rw [Call.bind_ok (Call.ofExcept_ok moved _)]
    rfl
  exact ⟨_, _, called, rfl⟩

theorem get_custom (synced : s.tenant.syncCustomRoles = true) {id : String}
    (custom : Role.ofType? id = none) {record : Role}
    (supplied : Supplied s jsonType Role.decode? (pathOf id) session record) :
    ∃ after, get s ⟨"role", id⟩ session = (.ok (some record.resource), after) := by
  obtain ⟨info, after, got⟩ := supplied.getKept
  refine ⟨after, ?_⟩
  rw [get]
  dsimp only
  rw [if_neg (not_not.mpr rfl), custom]
  dsimp only
  rw [if_pos synced, Call.bind_ok (Call.attempt_ok got)]
  rfl

end Custom
end Roles

namespace Groups

/-- Whether a group is given a grant for an assignment: a page of its roles has the one where the
reply has the other. -/
def Granted (s : Setting σ) (group : Resource) (a : RoleAssignment) (g : Grant) : Prop :=
  ∃ (q : PageRequest) (session after : Session σ) (bag : Bag) (assignments : List RoleAssignment)
    (info : ResponseInfo) (page : Page Grant),
    Roles.resume q.token phases = .ok bag ∧ bag.resourceType = rolePhase ∧
    assignmentsIn (s.service (roleRequest s.tenant group q.size bag.cursor) session.service).1 =
      .ok (assignments, info) ∧
    grants s group q session = (.ok page, after) ∧
    (a, g) ∈ (assignments.filter RoleAssignment.isActiveForGroup).zip page.items

section Assigned

variable {s : Setting σ} {group : Resource}

/-- Every assignment that counts is granted. -/
theorem grants_assigned {profile : Profile} (isGroup : group.groupProfile = .ok profile)
    {q : PageRequest} {bag : Bag} (resumed : Roles.resume q.token phases = .ok bag)
    (phase : bag.resourceType = rolePhase) (can : CanListRoles s.tenant group q.size bag.cursor)
    {session : Session σ} {assignments : List RoleAssignment} {info : ResponseInfo}
    (read : assignmentsIn (s.service (roleRequest s.tenant group q.size bag.cursor)
      session.service).1 = .ok (assignments, info)) :
    ∃ page after, grants s group q session = (.ok page, after) ∧
      List.Forall₂ (Granted s group) (assignments.filter RoleAssignment.isActiveForGroup)
        page.items := by
  have other : bag.resourceType ≠ userPhase := by
    rw [phase]
    decide
  have running : bag.resourceType ≠ "" := by
    rw [phase]
    decide
  obtain ⟨next, moved⟩ := Bag.next_running running info.nextCursor
  have called : grants s group q session =
      (.ok ⟨(assignments.filter RoleAssignment.isActiveForGroup).map
        (roleGrant group (leavesMembers (profile.int? GroupRecord.usersCountKey))), next.token,
          info.annotations⟩,
        session.heard (roleRequest s.tenant group q.size bag.cursor)
          (s.service (roleRequest s.tenant group q.size bag.cursor) session.service)) := by
    rw [grants, Call.bind_ok (Call.ofExcept_ok resumed session),
      Call.bind_ok (Call.ofExcept_ok isGroup session)]
    rw [if_neg other, if_pos phase]
    refine (rolePage_answered can read).trans ?_
    rw [moved]
    rfl
  refine ⟨_, _, called, List.forall₂_iff_zip.mpr ⟨by rw [List.length_map], fun member => ?_⟩⟩
  exact ⟨q, session, _, bag, assignments, info, _, resumed, phase, read, called, member⟩

theorem Granted.eq_roleGrant {a : RoleAssignment} {g : Grant} (granted : Granted s group a g) :
    ∃ expands, g = roleGrant group expands a := by
  obtain ⟨q, session, after, bag, assignments, info, page, resumed, phase, read, called, member⟩ :=
    granted
  obtain ⟨bag', profile, resumed', -, inPhase⟩ := grants_phase called
  cases resumed.symm.trans resumed'
  rcases inPhase with ⟨other, -⟩ | ⟨-, inPhase⟩
  · exact absurd (phase.symm.trans other) (by decide)
  · rcases rolePage_items inPhase with ⟨_, _, read', items⟩ | ⟨_, unread, -⟩
    · cases read.symm.trans read'
      have each : List.Forall₂
          (fun a g => g = roleGrant group
            (leavesMembers (profile.int? GroupRecord.usersCountKey)) a)
          (assignments.filter RoleAssignment.isActiveForGroup) page.items :=
        items ▸ List.forall₂_map_right_iff.mpr (List.forall₂_same.mpr fun _ _ => rfl)
      exact ⟨_, (List.forall₂_iff_zip.mp each).2 member⟩
    · cases read.symm.trans unread

theorem roleGrant_resource (group : Resource) (expands : Bool) (a : RoleAssignment) :
    (roleGrant group expands a).entitlement.resource = a.assignedRole.resource.id := by
  cases expands <;> rfl

/-- The grants of two roles to one group have one id just when the roles are known by one key. -/
theorem roleGrant_id_inj (group : Resource) (expands expands' : Bool) (a b : RoleAssignment) :
    (roleGrant group expands a).id = (roleGrant group expands' b).id ↔
      a.assignedRole.key = b.assignedRole.key := by
  have id : ∀ (expands : Bool) (c : RoleAssignment), (roleGrant group expands c).id =
      "role" ++ ":" ++ c.assignedRole.key ++ ":" ++ "assigned" ++ ":" ++ group.id.text := by
    intro expands c
    cases expands <;> rfl
  simp only [id, String.append_left_inj, String.append_right_inj]

end Assigned
end Groups

open Groups in
/-- A custom role is known by its id in the listing, in the look-up and in the grants of groups,
wherever its record has no type; else it is known by the type. So the grants of two roles to a group
differ, if neither has another type than its own id. -/
theorem custom_roles_named (s : Setting σ) :
    (∀ (q : PageRequest) (session : Session σ) (bag : Bag) (listed : LinkedPage Role)
        (info : ResponseInfo), Roles.resume q.token (Roles.phases s.tenant) = .ok bag →
      bag.resourceType = Roles.customPhase →
      s.tenant.CanAsk jsonType Roles.customPath [("after", bag.cursor)] →
      Roles.customIn (s.service (Roles.customRequest s.tenant bag.cursor) session.service).1 =
        .ok (listed, info) →
      ∃ page after, Roles.list s q session = (.ok page, after) ∧
        List.Forall₂ (fun (record : Role) (role : Resource) =>
          role.id = ⟨"role", if record.type = "" then record.id else record.type⟩)
          listed.items page.items) ∧
    (∀ (session : Session σ) (record : Role), s.tenant.syncCustomRoles = true →
      Role.ofType? record.id = none →
      Supplied s jsonType Role.decode? (Roles.pathOf record.id) session record →
      ∃ role after, Roles.get s ⟨"role", record.id⟩ session = (.ok (some role), after) ∧
        role.id = ⟨"role", if record.type = "" then record.id else record.type⟩) ∧
    (∀ (group : Resource) (profile : Profile) (q : PageRequest) (session : Session σ) (bag : Bag)
        (assignments : List RoleAssignment) (info : ResponseInfo),
      group.groupProfile = .ok profile → Roles.resume q.token phases = .ok bag →
      bag.resourceType = rolePhase → CanListRoles s.tenant group q.size bag.cursor →
      assignmentsIn (s.service (roleRequest s.tenant group q.size bag.cursor) session.service).1 =
        .ok (assignments, info) →
      ∃ page after, grants s group q session = (.ok page, after) ∧
        List.Forall₂ (Granted s group) (assignments.filter RoleAssignment.isActiveForGroup)
          page.items) ∧
    (∀ (group : Resource) (a : RoleAssignment) (g : Grant), Granted s group a g →
      g.entitlement.resource = ⟨"role", if a.type = "" then a.role else a.type⟩) ∧
    (∀ (group : Resource) (a b : RoleAssignment) (g h : Grant), Granted s group a g →
      Granted s group b h → a.type = "" ∨ a.type = a.role → b.type = "" ∨ b.type = b.role →
      a.role ≠ b.role → g.id ≠ h.id) := by
  refine ⟨?listed, ?found, ?granted, ?named, ?distinct⟩
  case listed =>
    intro q session bag listed info resumed phase can read
    obtain ⟨page, after, called, items⟩ := Roles.list_custom resumed phase can read
    refine ⟨page, after, called, ?_⟩
    rw [items]
    exact List.forall₂_map_right_iff.mpr
      (List.forall₂_same.mpr fun record _ => record.resource_named)
  case found =>
    intro session record synced custom supplied
    obtain ⟨after, called⟩ := Roles.get_custom synced custom supplied
    exact ⟨record.resource, after, called, record.resource_named⟩
  case granted =>
    intro group profile q session bag assignments info isGroup resumed phase can read
    exact grants_assigned isGroup resumed phase can read
  case named =>
    intro group a g granted
    obtain ⟨expands, rfl⟩ := granted.eq_roleGrant
    rw [roleGrant_resource]
    exact a.assignedRole.resource_named
  case distinct =>
    intro group a b g h granted granted' untyped untyped' different same
    obtain ⟨expands, rfl⟩ := granted.eq_roleGrant
    obtain ⟨expands', rfl⟩ := granted'.eq_roleGrant
    have key : a.assignedRole.key = a.role := Role.key_of_untyped untyped
    have key' : b.assignedRole.key = b.role := Role.key_of_untyped untyped'
    have keys := (roleGrant_id_inj group expands expands' a b).mp same
    exact different (key.symm.trans (keys.trans key'))

/-! Two custom roles, whose records have no type, or the one that the service gives to all custom
roles. -/

def auditorsRecord : Answer Role.decode? :=
  .ofResponse ⟨200, [], "\x7b\"id\":\"cr1\",\"label\":\"Auditors\"\x7d"⟩ (by decide)
    (by decide +kernel)

def auditorsListing : Answer (LinkedPage.decode? "roles" Role.decode?) :=
  .ofResponse ⟨200, [], "\x7b\"roles\":[\x7b\"id\":\"cr1\",\"label\":\"Auditors\"\x7d]\x7d"⟩
    (by decide) (by decide +kernel)

def heldWithType (type : String) : Response :=
  ⟨200, [], "[\x7b\"role\":\"cr1\",\"type\":\"" ++ type ++ "\",\"assignmentType\":\"GROUP\"\x7d," ++
    "\x7b\"role\":\"cr2\",\"type\":\"" ++ type ++ "\",\"assignmentType\":\"GROUP\"\x7d]"⟩

def heldWithoutType : Groups.RoleAnswer :=
  .ofResponse (heldWithType "") (by decide) (by decide +kernel)

def heldRole (id : String) : RoleAssignment := { role := id, assignmentType := "GROUP" }

theorem auditorsRecord_supplied :
    Supplied (.scripted .acme) jsonType Role.decode? (Roles.pathOf "cr1")
      (Session.start .acme [auditorsRecord.response]) ⟨"cr1", "Auditors", ""⟩ := by
  have isPath : Web.IsPath (Roles.pathOf "cr1").toList := (Endpoint.customRole "cr1").path_isPath
  have content : auditorsRecord.content = ⟨"cr1", "Auditors", ""⟩ := by decide +kernel
  rw [← content]
  exact .fetched auditorsRecord (Tenant.acme_reachable.url isPath []) rfl
    (Tenant.acme_reachable.sendable isPath (by decide) []) rfl

theorem custom_roles_named_of_auditors :
    (∃ page after,
      Roles.list (.scripted .acme) ⟨0, (Bag.single Roles.customPhase "").token⟩
        (Session.start .acme [auditorsListing.response]) = (.ok page, after) ∧
      page.items.map (·.id) = [⟨"role", "cr1"⟩]) ∧
    (∃ role after,
      Roles.get (.scripted .acme) ⟨"role", "cr1"⟩
        (Session.start .acme [auditorsRecord.response]) = (.ok (some role), after) ∧
      role.id = ⟨"role", "cr1"⟩) ∧
    ∃ g h, Groups.Granted (.scripted .acme) Groups.engineers (heldRole "cr1") g ∧
      Groups.Granted (.scripted .acme) Groups.engineers (heldRole "cr2") h ∧
      g.entitlement.resource = ⟨"role", "cr1"⟩ ∧ g.id ≠ h.id := by
  obtain ⟨listed, found, granted, named, distinct⟩ := custom_roles_named (.scripted .acme)
  refine ⟨?_, ?_, ?_⟩
  · have resumed : Roles.resume (Bag.single Roles.customPhase "").token
        (Roles.phases Tenant.acme) = .ok (Bag.single Roles.customPhase "") := by
      rw [Roles.resume, (Bag.ofToken_single Roles.customPhase "").2]
      rfl
    have isPath : Web.IsPath Roles.customPath.toList := ⟨_, rfl, Web.forall_of_all (by decide)⟩
    have content : auditorsListing.content.items = [⟨"cr1", "Auditors", ""⟩] := by decide +kernel
    obtain ⟨page, after, called, names⟩ := listed ⟨0, (Bag.single Roles.customPhase "").token⟩
      (Session.start .acme [auditorsListing.response]) _ auditorsListing.content
      auditorsListing.info resumed rfl (Tenant.acme_reachable.canAsk isPath (by decide) _)
      (document_answer auditorsListing)
    rw [content] at names
    obtain ⟨role, others, name, rest, items⟩ := List.forall₂_cons_left_iff.mp names
    cases rest
    refine ⟨page, after, called, ?_⟩
    rw [items, List.map_singleton, name]
    rfl
  · obtain ⟨role, after, called, name⟩ :=
      found _ ⟨"cr1", "Auditors", ""⟩ rfl (by decide +kernel) auditorsRecord_supplied
    exact ⟨role, after, called, name⟩
  · have content : heldWithoutType.content.filter RoleAssignment.isActiveForGroup =
        [heldRole "cr1", heldRole "cr2"] := by decide +kernel
    have can : Groups.CanListRoles Tenant.acme Groups.engineers 0 "" :=
      Tenant.acme_reachable.canAsk (Groups.listingPath_isPath _ (.inr rfl)) (by decide) _
    obtain ⟨page, after, -, each⟩ := granted Groups.engineers _ ⟨0, (Groups.atRoles "").token⟩
      (Session.start .acme [heldWithoutType.response]) _ heldWithoutType.content
      heldWithoutType.info rfl (Groups.resume_atRoles "").2 rfl can
      (document_answer heldWithoutType)
    rw [content] at each
    obtain ⟨g, others, first, rest, -⟩ := List.forall₂_cons_left_iff.mp each
    obtain ⟨h, _, second, -, -⟩ := List.forall₂_cons_left_iff.mp rest
    exact ⟨g, h, first, second, named _ _ _ first,
      distinct _ _ _ _ _ first second (.inl rfl) (.inl rfl) (by decide)⟩

theorem typed_roles_merged :
    Role.ofType? "cr1" = none ∧
    ((Roles.get (.scripted .acme) ⟨"role", "cr1"⟩ (Session.start .acme
      [⟨200, [], "\x7b\"id\":\"cr1\",\"type\":\"CUSTOM\"\x7d"⟩])).1.toOption.map
        fun found => found.map (·.id)) = some (some ⟨"role", "CUSTOM"⟩) ∧
    ((Groups.grants (.scripted .acme) Groups.engineers ⟨0, (Groups.atRoles "").token⟩
      (Session.start .acme [heldWithType "CUSTOM"])).1.toOption.map
        fun page => page.items.map (·.id)) =
      some ["role:CUSTOM:assigned:group:g1", "role:CUSTOM:assigned:group:g1"] := by
  decide +kernel

end AccessCatalog.Okta
