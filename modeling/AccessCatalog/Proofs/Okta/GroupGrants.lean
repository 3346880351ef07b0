import AccessCatalog.Okta.Groups
import AccessCatalog.Proofs.Okta.Phases

/-! The grants of a group, from the first call to the last. The members come first and the roles
after them, each page by one call and one request, and no page is lost or asked for twice. A group
that reports no members is not asked for them; one call passes over that phase. -/
namespace AccessCatalog.Okta.Groups

open Web (Request Answers)

variable {σ : Type}

/-! Where a token stands. -/

def atMembers (cursor : String) : Bag :=
  ⟨[{ resourceType := rolePhase }], some { resourceType := userPhase, cursor }⟩

def atRoles (cursor : String) : Bag := Bag.single rolePhase cursor

theorem resume_start : Roles.resume "" phases = .ok (atMembers "") := rfl

theorem resume_atMembers (c : String) :
    (atMembers c).token ≠ "" ∧ Roles.resume (atMembers c).token phases = .ok (atMembers c) := by
  have types : (atMembers c).types = [rolePhase, userPhase] := rfl
  have distinct : (atMembers c).Distinct := by
    rw [Bag.Distinct, types]
    decide
  obtain ⟨filled, read⟩ := Bag.ofToken_of_active (s := ⟨userPhase, c, ""⟩) rfl distinct
  refine ⟨filled, ?_⟩
  rw [Roles.resume, read]
  rfl

theorem resume_atRoles (c : String) :
    (atRoles c).token ≠ "" ∧ Roles.resume (atRoles c).token phases = .ok (atRoles c) := by
  obtain ⟨filled, read⟩ := Bag.ofToken_single rolePhase c
  refine ⟨filled, ?_⟩
  rw [Roles.resume, atRoles, read]
  rfl

theorem next_atMembers (c d : String) :
    (atMembers c).next d = .ok (if d = "" then atRoles "" else atMembers d) :=
  Bag.next_eq (s := ⟨userPhase, c, ""⟩) rfl d

theorem next_atRoles (c d : String) :
    (atRoles c).next d = .ok (if d = "" then Bag.empty else atRoles d) :=
  Bag.next_single rolePhase c d

/-! The two listings of a group. -/

theorem pathOf_isPath (id : String) : Web.IsPath (pathOf id).toList := by
  have front : Web.IsPath (path ++ "/").toList := ⟨_, rfl, Web.forall_of_all (by decide)⟩
  rw [pathOf, String.toList_append]
  exact front.append (Web.pathSegment_plain id)

def listingPath (group : Resource) (listing : String) : String :=
  pathOf group.id.resource ++ listing

def pageRequest (t : Tenant) (group : Resource) (listing : String) (size : Nat)
    (cursor : String) : Request :=
  t.query jsonType (listingPath group listing)
    [("limit", Nat.repr (t.pageLimit ⟨size, ""⟩)), ("after", cursor)]

def memberRequest (t : Tenant) (group : Resource) : Nat → String → Request :=
  pageRequest t group "/users"

def roleRequest (t : Tenant) (group : Resource) : Nat → String → Request :=
  pageRequest t group "/roles"

theorem listingPath_isPath (group : Resource) {listing : String}
    (known : listing = "/users" ∨ listing = "/roles") :
    Web.IsPath (listingPath group listing).toList := by
  rw [listingPath, String.toList_append]
  refine (pathOf_isPath group.id.resource).append ?_
  rcases known with rfl | rfl
  · exact Web.forall_of_all (by decide)
  · exact Web.forall_of_all (by decide)

theorem pageRequest_values {t : Tenant} (reachable : t.Reachable) (group : Resource)
    {listing : String} (known : listing = "/users" ∨ listing = "/roles") (size : Nat)
    (c : String) :
    (pageRequest t group listing size c).values "after" = if c = "" then [] else [c] := by
  rw [pageRequest, reachable.values (listingPath_isPath group known)]
  by_cases start : c = ""
  · simp [start]
  · simp [start]

abbrev MemberAnswer := Answer (Json.list? Roles.decodeAssignee?)
abbrev RoleAnswer := Answer (Json.list? RoleAssignment.decode?)

def memberGrants (group : Resource) (a : MemberAnswer) : List Grant :=
  a.content.map (memberGrant group)

/-- The grants of the roles of a page that the group holds. -/
def roleGrants (group : Resource) (expands : Bool) (a : RoleAnswer) : List Grant :=
  (a.content.filter RoleAssignment.isActiveForGroup).map (roleGrant group expands)

section Steps

variable {s : Setting σ} {group : Resource} {profile : Profile}

theorem grants_at (isGroup : group.traits = .group profile) {size : Nat} {token : String}
    {bag : Bag} (resumed : Roles.resume token phases = .ok bag) (session : Session σ) :
    grants s group ⟨size, token⟩ session =
      (if bag.resourceType = userPhase then
        memberPage s group (profile.int? GroupRecord.usersCountKey) bag
          (s.tenant.pageLimit ⟨size, ""⟩)
      else if bag.resourceType = rolePhase then
        rolePage s group (profile.int? GroupRecord.usersCountKey) bag
          (s.tenant.pageLimit ⟨size, ""⟩)
      else throw (.invalidToken ("invalid group grant phase: " ++ bag.resourceType))) session := by
  have read : group.groupProfile = .ok profile := by simp [Resource.groupProfile, isGroup]
  rw [grants, Call.bind_ok (Call.ofExcept_ok resumed session),
    Call.bind_ok (Call.ofExcept_ok read session)]
  rfl

/-- A group without members is not asked for them: the call goes straight to the roles. -/
theorem memberPage_unasked (s : Setting σ) (group : Resource) {count : Option Int}
    (empty : isEmptyCount count = true) (c : String) (limit : Nat) (session : Session σ) :
    ∃ notes, memberPage s group count (atMembers c) limit session =
      (.ok ⟨[], (atRoles "").token, notes⟩, session) := by
  apply Exists.intro
  rw [memberPage]
  dsimp only
  rw [if_pos empty, Call.bind_ok (Call.ofExcept_ok (next_atMembers c "") session)]
  rfl

theorem memberPage_answer (reachable : s.tenant.Reachable) {count : Option Int}
    (asked : isEmptyCount count = false) {size : Nat} {c : String} {session : Session σ}
    {service : σ} (a : MemberAnswer)
    (answered : s.service (memberRequest s.tenant group size c) session.service =
      (.response a.response, service)) :
    ∃ notes, memberPage s group count (atMembers c) (s.tenant.pageLimit ⟨size, ""⟩) session =
      (.ok ⟨memberGrants group a,
        (if a.cursor = "" then atRoles "" else atMembers a.cursor).token, notes⟩,
        session.asked (memberRequest s.tenant group size c) service) := by
  have got := s.get_answer reachable (listingPath_isPath group (.inl rfl)) (by decide) a answered
  apply Exists.intro
  rw [memberPage]
  dsimp only
  rw [if_neg (by simp [asked])]
  refine (Call.bind_ok (Call.within_ok got _)).trans ?_
  dsimp only
  rw [Call.bind_ok (Call.ofExcept_ok (next_atMembers c a.info.nextCursor) _)]
  rfl

/-- Both phases read the number of members alike: roles expand to members where these are asked
for. -/
theorem leavesMembers_eq (count : Option Int) : leavesMembers count = !isEmptyCount count := by
  cases count with
  | none => rfl
  | some n =>
    rw [leavesMembers, isEmptyCount, ← decide_not]
    simp only [Int.not_le]

theorem rolePage_answer (reachable : s.tenant.Reachable) (count : Option Int) {size : Nat}
    {c : String} {session : Session σ} {service : σ} (a : RoleAnswer)
    (answered : s.service (roleRequest s.tenant group size c) session.service =
      (.response a.response, service)) :
    ∃ notes, rolePage s group count (atRoles c) (s.tenant.pageLimit ⟨size, ""⟩) session =
      (.ok ⟨roleGrants group (!isEmptyCount count) a,
        (if a.cursor = "" then Bag.empty else atRoles a.cursor).token, notes⟩,
        session.asked (roleRequest s.tenant group size c) service) := by
  have got := s.get_answer reachable (listingPath_isPath group (.inr rfl)) (by decide) a answered
  apply Exists.intro
  rw [rolePage]
  dsimp only
  refine (Call.bind_ok (Call.attempt_ok got)).trans ?_
  dsimp only
  rw [Call.bind_ok (Call.ofExcept_ok (next_atRoles c a.info.nextCursor) _), leavesMembers_eq]
  rfl

def memberPhase (s : Setting σ) (group : Resource) (size : Nat) (reachable : s.tenant.Reachable)
    (isGroup : group.traits = .group profile)
    (asked : isEmptyCount (profile.int? GroupRecord.usersCountKey) = false) :
    Phase s.service (Json.list? Roles.decodeAssignee?) Grant Unit where
  call := grants s group
  size := size
  request := memberRequest s.tenant group size
  cursor := Answer.cursor
  items := memberGrants group
  extra _ _ := []
  learn _ _ := ()
  Knows _ _ := True
  At token c := Roles.resume token phases = .ok (atMembers c)
  token c := (atMembers c).token
  done := (atRoles "").token
  token_at := resume_atMembers
  step := by
    intro token c _ session a rest stands _ answers
    obtain ⟨page, after, called, items, next, sent, _, remaining⟩ := page_step
      (grants s group) (fun state answered => by
        rw [grants_at isGroup stands]
        exact memberPage_answer reachable asked a answered) answers
    exact ⟨page, after, called, items, next, sent, trivial, remaining⟩

def rolePhaseOf (s : Setting σ) (group : Resource) (size : Nat) (reachable : s.tenant.Reachable)
    (isGroup : group.traits = .group profile) :
    Phase s.service (Json.list? RoleAssignment.decode?) Grant Unit where
  call := grants s group
  size := size
  request := roleRequest s.tenant group size
  cursor := Answer.cursor
  items := roleGrants group (!isEmptyCount (profile.int? GroupRecord.usersCountKey))
  extra _ _ := []
  learn _ _ := ()
  Knows _ _ := True
  At token c := Roles.resume token phases = .ok (atRoles c)
  token c := (atRoles c).token
  done := ""
  token_at := resume_atRoles
  step := by
    intro token c _ session a rest stands _ answers
    obtain ⟨page, after, called, items, next, sent, _, remaining⟩ := page_step
      (grants s group) (fun state answered => by
        rw [grants_at isGroup stands]
        exact rolePage_answer reachable _ a answered) answers
    exact ⟨page, after, called, items, next, sent, trivial, remaining⟩

end Steps

/-! The whole listing. -/

/-- What is asked for members, and what the service answers: nothing if the group has none. -/
def memberScript (t : Tenant) (group : Resource) (size : Nat) (count : Option Int)
    (members : Pages (Json.list? Roles.decodeAssignee?) Answer.cursor) :
    List (Request × Web.Response) :=
  if isEmptyCount count then []
  else exchanges (memberRequest t group size) Answer.cursor "" members.all

def roleScript (t : Tenant) (group : Resource) (size : Nat)
    (roles : Pages (Json.list? RoleAssignment.decode?) Answer.cursor) :
    List (Request × Web.Response) :=
  exchanges (roleRequest t group size) Answer.cursor "" roles.all

section Runs

variable {s : Setting σ} {group : Resource} {profile : Profile} {size : Nat} {session : Session σ}

/-- The first phase goes through all members, or passes over them by one call. -/
theorem members_run (reachable : s.tenant.Reachable) (isGroup : group.traits = .group profile)
    (members : Pages (Json.list? Roles.decodeAssignee?) Answer.cursor)
    {rest : List (Request × Web.Response)}
    (answers : Answers s.service (memberScript s.tenant group size
      (profile.int? GroupRecord.usersCountKey) members ++ rest) session.service) :
    ∃ pages after, Run (grants s group) size "" session pages (atRoles "").token after ∧
      pages.map (·.items) = (if isEmptyCount (profile.int? GroupRecord.usersCountKey) then [[]]
        else members.all.map (memberGrants group)) ∧
      after.sent = session.sent ++ (memberScript s.tenant group size
        (profile.int? GroupRecord.usersCountKey) members).map (·.1) ∧
      Answers s.service rest after.service := by
  unfold memberScript at answers ⊢
  cases empty : isEmptyCount (profile.int? GroupRecord.usersCountKey) with
  | true =>
    obtain ⟨notes, called⟩ := memberPage_unasked s group empty ""
      (s.tenant.pageLimit ⟨size, ""⟩) session
    have first := (grants_at isGroup resume_start session).trans called
    rw [empty] at answers
    exact ⟨_, session, .last first, rfl, (List.append_nil _).symm, answers⟩
  | false =>
    let φ := memberPhase s group size reachable isGroup empty
    have script : φ.script () "" members.all =
        exchanges (memberRequest s.tenant group size) Answer.cursor "" members.all :=
      φ.script_of_no_extra (fun _ _ => rfl) () "" members.all
    rw [empty, if_neg Bool.false_ne_true, ← script] at answers
    obtain ⟨pages, after, run, items, sent, remaining⟩ :=
      φ.run members.continued members.ended resume_start trivial answers
    refine ⟨pages, after, run, items, ?_, remaining⟩
    rw [if_neg Bool.false_ne_true, ← script]
    exact sent

theorem roles_run (reachable : s.tenant.Reachable) (isGroup : group.traits = .group profile)
    (roles : Pages (Json.list? RoleAssignment.decode?) Answer.cursor)
    (answers : Answers s.service (roleScript s.tenant group size roles) session.service) :
    ∃ pages after, Run (grants s group) size (atRoles "").token session pages "" after ∧
      pages.map (·.items) = roles.all.map
        (roleGrants group (!isEmptyCount (profile.int? GroupRecord.usersCountKey))) ∧
      after.sent = session.sent ++ (roleScript s.tenant group size roles).map (·.1) := by
  let φ := rolePhaseOf s group size reachable isGroup
  have script : φ.script () "" roles.all =
      exchanges (roleRequest s.tenant group size) Answer.cursor "" roles.all :=
    φ.script_of_no_extra (fun _ _ => rfl) () "" roles.all
  unfold roleScript at answers ⊢
  rw [← List.append_nil (exchanges _ _ _ _), ← script] at answers
  obtain ⟨pages, after, run, items, sent, _⟩ :=
    φ.run roles.continued roles.ended (resume_atRoles "").2 trivial answers
  exact ⟨pages, after, run, items, script ▸ sent⟩

end Runs

/-- The caller that starts with the empty token and hands back each token until one is empty gets
every grant of the group once, members before roles, and makes one request for each page. -/
theorem grants_complete {s : Setting σ} (reachable : s.tenant.Reachable) {group : Resource}
    {profile : Profile} (isGroup : group.traits = .group profile) (size : Nat)
    {count : Option Int} (hint : profile.int? GroupRecord.usersCountKey = count)
    (members : Pages (Json.list? Roles.decodeAssignee?) Answer.cursor)
    (roles : Pages (Json.list? RoleAssignment.decode?) Answer.cursor) {session : Session σ}
    (answers : Answers s.service
      (memberScript s.tenant group size count members ++ roleScript s.tenant group size roles)
      session.service) :
    (memberScript s.tenant group size count members).map (fun e => e.1.values "after") =
        (if isEmptyCount count then [] else [] :: members.front.map fun a => [a.cursor]) ∧
      (roleScript s.tenant group size roles).map (fun e => e.1.values "after") =
        [] :: roles.front.map (fun a => [a.cursor]) ∧
      ∃ pages after, Run (grants s group) size "" session pages "" after ∧
        pages.length = (if isEmptyCount count then 1 else members.all.length) + roles.all.length ∧
        after.sent = session.sent ++ (memberScript s.tenant group size count members ++
          roleScript s.tenant group size roles).map (·.1) ∧
        pages.flatMap (·.items) =
          (if isEmptyCount count then [] else members.all.flatMap (memberGrants group)) ++
            roles.all.flatMap (roleGrants group (!isEmptyCount count)) := by
  subst hint
  refine ⟨?_, ?_, ?_⟩
  · unfold memberScript
    split
    · rfl
    · exact exchanges_values (pageRequest_values reachable group (.inl rfl) size)
        members.continued _
  · exact exchanges_values (pageRequest_values reachable group (.inr rfl) size) roles.continued _
  · obtain ⟨first, between, run, items, sent, remaining⟩ :=
      members_run reachable isGroup members answers
    obtain ⟨second, after, runBehind, itemsBehind, sentBehind⟩ :=
      roles_run reachable isGroup roles remaining
    refine ⟨first ++ second, after, run.append (resume_atRoles "").1 runBehind, ?_, ?_, ?_⟩
    · have count := congrArg List.length items
      have countBehind := congrArg List.length itemsBehind
      rw [List.length_map] at count
      rw [List.length_map, List.length_map] at countBehind
      rw [List.length_append, count, countBehind]
      split <;> simp
    · rw [sentBehind, sent, List.map_append, List.append_assoc]
    · rw [List.flatMap_append, List.flatMap_def, items, List.flatMap_def, itemsBehind]
      split <;> simp [List.flatMap_def]

/-! A group of two members, with one role that it holds and one that it held. -/

def engineersProfile : Profile := Profile.empty.set GroupRecord.usersCountKey (.int 2)

def engineers : Resource :=
  { id := ⟨"group", "g1"⟩, displayName := "Engineers", traits := .group engineersProfile }

def engineersMembers : Pages (Json.list? Roles.decodeAssignee?) Answer.cursor where
  front := [⟨⟨200, [("link", "<https://acme.okta.com/users?after=c1>; rel=\"next\"")],
    "[\x7b\"id\":\"u1\"\x7d]"⟩, ["u1"], by decide, Setting.decodeBody_ok (by decide +kernel)⟩]
  last := ⟨⟨200, [], "[\x7b\"id\":\"u2\"\x7d]"⟩, ["u2"], by decide,
    Setting.decodeBody_ok (by decide +kernel)⟩
  continued := by decide +kernel
  ended := by decide +kernel

def engineersRoles : Pages (Json.list? RoleAssignment.decode?) Answer.cursor where
  front := []
  last := ⟨⟨200, [], "[\x7b\"type\":\"APP_ADMIN\",\"assignmentType\":\"GROUP\"\x7d," ++
    "\x7b\"type\":\"ORG_ADMIN\",\"assignmentType\":\"GROUP\",\"status\":\"INACTIVE\"\x7d]"⟩,
    [{ type := "APP_ADMIN", assignmentType := "GROUP" },
      { type := "ORG_ADMIN", assignmentType := "GROUP", status := "INACTIVE" }],
    by decide, Setting.decodeBody_ok (by decide +kernel)⟩
  continued := by decide
  ended := by decide +kernel

def engineersScript : List (Request × Web.Response) :=
  memberScript .acme engineers 0 (some 2) engineersMembers ++
    roleScript .acme engineers 0 engineersRoles

def engineersSetting : Setting (List Web.Response) :=
  { tenant := .acme, service := Web.scripted, now := ⟨0, 0, 0⟩, draws := fun _ => 0 }

def engineersSession : Session (List Web.Response) :=
  Session.start .acme (engineersScript.map (·.2))

theorem grants_of_engineers :
    Tenant.acme.Reachable ∧ engineers.traits = .group engineersProfile ∧
      engineersProfile.int? GroupRecord.usersCountKey = some 2 ∧
      Answers engineersSetting.service engineersScript engineersSession.service ∧
      ∃ pages after, Run (grants engineersSetting engineers) 0 "" engineersSession pages "" after ∧
        pages.length = 3 ∧ (pages.flatMap (·.items)).map (·.id) =
          ["group:g1:member:user:u1", "group:g1:member:user:u2",
            "role:APP_ADMIN:assigned:group:g1"] := by
  have isGroup : engineers.traits = .group engineersProfile := rfl
  have hint : engineersProfile.int? GroupRecord.usersCountKey = some 2 := by decide +kernel
  have answers : Answers engineersSetting.service engineersScript engineersSession.service :=
    Web.answers_scripted engineersScript
  obtain ⟨_, _, pages, after, run, count, _, items⟩ :=
    grants_complete (s := engineersSetting) Tenant.acme_reachable isGroup 0 hint engineersMembers
      engineersRoles answers
  refine ⟨Tenant.acme_reachable, isGroup, hint, answers, pages, after, run, count, ?_⟩
  rw [items]
  decide +kernel

end AccessCatalog.Okta.Groups
