import AccessCatalog.Okta.Connector
import AccessCatalog.Proofs.Okta.Failures
import AccessCatalog.Proofs.Okta.GroupGrants
import AccessCatalog.Proofs.Okta.UserFlags

/-! Which failures each operation spares. A look-up spares what is not found, and gives none. The
roles of a group and the flags of a user spare what may not be seen, and are empty. Nothing else is
spared anywhere. -/
namespace AccessCatalog.Okta

open Web (Url Method Request Reply Response Service Log)

variable {σ α β : Type}

/-- Whether a call takes replies as a policy says, whatever was called before. -/
def Follows (s : Setting σ) (c : Call (σ × Log) Fault α) (p : Policy α) : Prop :=
  ∀ session, Handles s p session (c session)

theorem Follows.bind {s : Setting σ} {c : Call (σ × Log) Fault β} {operation : String}
    {takes : String → Bool} {rest : β → Call (σ × Log) Fault α}
    (follows : Follows s c ⟨operation, takes, none⟩)
    (quiet : ∀ b, (rest b).Quiet) : Follows s (c >>= rest) ⟨operation, takes, none⟩ := by
  intro session
  obtain ⟨asked, log, once, failing⟩ := follows session
  cases called : c session with
  | mk result after =>
    rw [called] at log failing
    cases result with
    | error fault =>
      rw [Call.bind_error called]
      refine ⟨asked, log, once, fun exchange member fails => ?_⟩
      obtain ⟨ended, kept⟩ := failing exchange member fails
      cases ended
      exact ⟨rfl, kept⟩
    | ok b =>
      rw [Call.bind_ok called]
      refine ⟨asked, (quiet b after).1 ▸ log, once, fun exchange member fails => ?_⟩
      cases (failing exchange member fails).1

/-! Listings. -/

variable (s : Setting σ)

theorem Users.list_follows (r : PageRequest) :
    Follows s (list s.logged r) ⟨"list users", readsAs (Json.list? UserRecord.decode?), none⟩ := by
  intro session
  unfold list
  dsimp only
  split
  · exact .quiet rfl
  · refine .ofExcept fun bag _ => (Setting.get_fetches _ _ _ _ _).within "list users" fun a => ?_
    exact .bind (.ofExcept _) fun _ => .pure _

theorem Groups.list_follows (r : PageRequest) :
    Follows s (list s.logged r)
      ⟨"list groups", readsAs (Json.list? GroupRecord.decode?), none⟩ := by
  intro session
  unfold list
  refine .ofExcept fun bag _ => (Setting.get_fetches _ _ _ _ _).within "list groups" fun a => ?_
  exact .bind (.ofExcept _) fun _ => .pure _

theorem Roles.list_follows (r : PageRequest) : Follows s (list s.logged r)
    ⟨"list custom roles", readsAs (LinkedPage.decode? "roles" Role.decode?), none⟩ := by
  intro session
  unfold list
  refine .ofExcept fun bag _ => ?_
  split
  · exact .quiet (Call.Quiet.bind (.ofExcept _) (fun _ => .pure _) session).1
  · split
    · refine (Setting.get_fetches _ _ _ _ _).within "list custom roles" fun a => ?_
      exact .bind (.ofExcept _) fun _ => .pure _
    · exact .quiet rfl

/-! Look-ups. -/

theorem Users.get_follows (id : String) : Follows s (get s.logged id)
    ⟨"get user " ++ id, readsAs UserRecord.decode?, some (.notFound, none)⟩ := by
  intro session
  rw [get_eq]
  split
  · exact .quiet rfl
  · exact (Inquiry.user s.tenant id).run_handles

theorem Groups.get_follows (id : String) : Follows s (get s.logged id)
    ⟨"get group " ++ id, readsAs GroupRecord.decode?, some (.notFound, none)⟩ := by
  intro session
  rw [get_eq]
  exact (Inquiry.group id).run_handles

theorem Roles.get_follows (id : ResourceId) : Follows s (get s.logged id)
    ⟨"get custom role " ++ id.resource, readsAs Role.decode?, some (.notFound, none)⟩ := by
  intro session
  rw [get_eq]
  split
  · exact .quiet rfl
  · split
    · exact .quiet rfl
    · split
      · exact (Inquiry.customRole id.resource).run_handles
      · exact .quiet rfl

/-! The phases of a group. -/

namespace Groups

variable {group : Resource} {r : PageRequest} {bag : Bag}

theorem memberPage_follows (count : Option Int) (limit : Nat) :
    Follows s (memberPage s.logged group count bag limit)
      ⟨"list users of group " ++ group.id.resource, readsAs (Json.list? Roles.decodeAssignee?),
        none⟩ := by
  intro session
  unfold memberPage
  dsimp only
  split
  · exact .quiet (Call.Quiet.bind (.ofExcept _) (fun _ => .pure _) session).1
  · refine (Setting.get_fetches _ _ _ _ _).within _ fun a => ?_
    exact .bind (.ofExcept _) fun _ => .pure _

/-- A bag with an active listing ends it where no page follows. -/
theorem next_end (phase : bag.resourceType ≠ "") : bag.next "" = .ok bag.pop := by
  obtain ⟨_, active⟩ := Bag.active_of_type phase
  rw [Bag.next_eq active, if_pos rfl]

theorem rolePage_follows (phase : bag.resourceType = rolePhase) (count : Option Int)
    (limit : Nat) : Follows s (rolePage s.logged group count bag limit)
      ⟨"list roles of group " ++ group.id.resource, readsAs (Json.list? RoleAssignment.decode?),
        some (.accessDenied, ⟨[], bag.pop.token, .empty⟩)⟩ := by
  have ends : bag.next "" = .ok bag.pop := next_end (by rw [phase]; decide)
  intro session
  unfold rolePage
  refine (Setting.get_fetches _ _ _ _ _).attempt (fun result => ?_) fun e session => ?_
  · cases result with
    | ok answer => exact .bind (.ofExcept _) fun _ => .pure _
    | error e =>
      dsimp only
      split
      · exact .bind (.ofExcept _) fun _ => .pure _
      · exact .throw _
  · dsimp only
    rw [ends]
    by_cases denied : e.isAccessDenied = true
    · rw [if_pos denied, if_pos (of_decide_eq_true denied)]
      rfl
    · rw [if_neg denied, if_neg fun same => denied (decide_eq_true same)]
      rfl

theorem grants_member_follows (resumed : Roles.resume r.token phases = .ok bag)
    (phase : bag.resourceType = userPhase) : Follows s (grants s.logged group r)
      ⟨"list users of group " ++ group.id.resource, readsAs (Json.list? Roles.decodeAssignee?),
        none⟩ := by
  intro session
  unfold grants
  rw [resumed]
  refine .ofExcept fun bag' same => .ofExcept fun profile _ => ?_
  cases same
  dsimp only
  rw [if_pos phase]
  exact memberPage_follows s _ _ session

theorem grants_role_follows (resumed : Roles.resume r.token phases = .ok bag)
    (phase : bag.resourceType = rolePhase) : Follows s (grants s.logged group r)
      ⟨"list roles of group " ++ group.id.resource, readsAs (Json.list? RoleAssignment.decode?),
        some (.accessDenied, ⟨[], bag.pop.token, .empty⟩)⟩ := by
  have other : bag.resourceType ≠ userPhase := by
    rw [phase]
    decide
  intro session
  unfold grants
  rw [resumed]
  refine .ofExcept fun bag' same => .ofExcept fun profile _ => ?_
  cases same
  dsimp only
  rw [if_neg other, if_pos phase]
  exact rolePage_follows s phase _ _ session

end Groups

/-! Changes, accounts, and the organization. -/

theorem Membership.grant_follows (principal : Resource) (entitlement : Entitlement) :
    Follows s (grant s.logged principal entitlement)
      ⟨"add user " ++ principal.id.resource ++ " to group " ++ entitlement.resource.resource,
        anyBody, none⟩ := by
  intro session
  unfold grant
  split
  · exact change_handles _ _ _ _
  · exact .quiet rfl

theorem Membership.revoke_follows (held : Grant) : Follows s (revoke s.logged held)
    ⟨"remove user " ++ held.principal.resource ++ " from group " ++
      held.entitlement.resource.resource, anyBody, none⟩ := by
  intro session
  unfold revoke
  split
  · exact change_handles _ _ _ _
  · exact .quiet rfl

theorem Accounts.create_follows (info : AccountInfo) (options : CredentialOptions) :
    Follows s (create s.logged info options)
      ⟨"create user", readsAs UserRecord.decode?, none⟩ := by
  intro session
  unfold create
  refine .ofExcept fun profile _ => .ofExcept fun query _ => .ofExcept fun password _ => ?_
  exact (Setting.post_fetches _ _ _ _ _).within "create user" fun a => .pure _

theorem Connector.validate_follows : Follows s (validate s.logged)
    ⟨"validate: fetch org settings", readsAs Json.value?, none⟩ := by
  intro session
  unfold validate
  split
  · exact (Setting.get_fetches _ _ _ _ _).within _ fun a => .pure _
  · exact .quiet rfl

theorem Connector.metadata_follows : Follows s (metadata s.logged)
    ⟨"validate: fetch org settings", readsAs Json.value?, none⟩ :=
  (validate_follows s).bind fun _ => .pure _

/-! The flags of users. -/

def flagsOperation (userId : String) : String := "list administrator flags for user " ++ userId

theorem flagsIn_failed {userId : String} {reply : Reply}
    (fails : Fails (readsAs (Json.list? AdminFlags.decode?)) reply) :
    flagsIn userId reply = if classOf reply = .accessDenied then .ok { userId }
      else .error (faultOf (flagsOperation userId) reply) := by
  obtain ⟨e, failure, of⟩ := document_failed fails
  have denied : e.isAccessDenied = decide (classOf reply = .accessDenied) := by
    rw [Failure.isAccessDenied, of.sameClass]
  unfold flagsIn
  rw [failure]
  dsimp only
  rw [denied, of.fault]
  simp only [decide_eq_true_eq]
  rfl

namespace Roles

theorem flags_follows (userId : String) : Follows s (flags s.logged userId)
    ⟨flagsOperation userId, readsAs (Json.list? AdminFlags.decode?),
      some (.accessDenied, { userId })⟩ := by
  intro session
  cases known : session.flags.get? userId with
  | some f =>
    rw [flags_known known]
    exact .quiet rfl
  | none =>
    by_cases can : CanLookUp s.tenant userId
    · rw [flags_asked (s := s.logged) known can]
      refine .asked (flagsRequest s.tenant userId) rfl fun fails => ⟨?_, fun _ _ _ => rfl⟩
      exact flagsIn_failed fails
    · obtain ⟨fault, refused⟩ := flags_unasked (s := s.logged) known can
      rw [refused]
      exact .quiet rfl

/-- Whether a call for grants asked for one page of users and then for their flags. A page that
fails ends the call. A look-up that fails leaves the user without flags where these may not be seen,
and ends the call otherwise. -/
def HandlesLookUps (t : Tenant) (session : Session (σ × Log))
    (ran : Except Fault (Page Grant) × Session (σ × Log)) : Prop :=
  ∃ (page : Log) (lookups : List (String × Reply)),
    ran.2.service.2 = session.service.2 ++ (page ++ lookUpLog t lookups) ∧ page.length ≤ 1 ∧
    (∀ exchange ∈ page,
      Fails (readsAs (LinkedPage.decode? "value" decodeAssignee?)) exchange.2 →
      lookups = [] ∧ ran.1 = .error (faultOf "list users with role assignments" exchange.2)) ∧
    ∀ front userId reply back, lookups = front ++ (userId, reply) :: back →
      Fails (readsAs (Json.list? AdminFlags.decode?)) reply →
      if classOf reply = .accessDenied then ran.2.flags.get? userId = some { userId }
      else back = [] ∧ ran.1 = .error (faultOf (flagsOperation userId) reply)

variable {s} {session after : Session (σ × Log)} {result : Except Fault (Page Grant)}

theorem HandlesLookUps.quiet (result : Except Fault (Page Grant)) :
    HandlesLookUps s.tenant session (result, session) :=
  ⟨[], [], (List.append_nil _).symm, by simp, by simp, by simp⟩

theorem HandlesLookUps.page (exchange : Request × Reply)
    (log : after.service.2 = session.service.2 ++ [exchange])
    (fails : result = .error (faultOf "list users with role assignments" exchange.2)) :
    HandlesLookUps s.tenant session (result, after) := by
  refine ⟨[exchange], [], log, by simp, fun other member _ => ⟨rfl, ?_⟩, by simp⟩
  rw [List.mem_singleton.mp member, fails]

theorem HandlesLookUps.lookUps (exchange : Request × Reply) {users : List String}
    {c : FlagCache} {asked : List (String × Reply)} {outcome : Except Fault Unit}
    (answered : ¬Fails (readsAs (LinkedPage.decode? "value" decodeAssignee?)) exchange.2)
    (looked : LookedUp s.tenant users c asked outcome after.flags)
    (log : after.service.2 = session.service.2 ++ ([exchange] ++ lookUpLog s.tenant asked))
    (ends : ∀ fault, outcome = .error fault → result = .error fault) :
    HandlesLookUps s.tenant session (result, after) := by
  refine ⟨[exchange], asked, log, by simp, fun other member fails => ?_, ?_⟩
  · rw [List.mem_singleton.mp member] at fails
    exact absurd fails answered
  · intro front userId reply back split fails
    have found : flagsIn userId reply = _ := flagsIn_failed fails
    by_cases denied : classOf reply = .accessDenied
    · rw [if_pos denied] at found ⊢
      exact looked.accepted (split ▸ List.mem_append_right _ List.mem_cons_self) found
    · rw [if_neg denied] at found ⊢
      obtain ⟨last, ended, _⟩ := looked.failing split found
      exact ⟨last, ends _ ended⟩

theorem grants_failing (s : Setting σ) (role : Resource) (r : PageRequest)
    (session : Session (σ × Log)) :
    HandlesLookUps s.tenant session (grants s.logged role r session) := by
  cases resumed : Bag.resume r.token { resourceType := "user" } with
  | error fault =>
    rw [grants_unreadable s.logged role session resumed]
    exact .quiet _
  | ok bag =>
    by_cases can : CanList s.tenant (s.tenant.pageLimit r) bag.cursor
    · let request := assigneesRequest s.tenant (s.tenant.pageLimit r) bag.cursor
      let reply := (s.logged.service request session.service).1
      let heard := session.heard request (s.logged.service request session.service)
      cases read : assigneesIn reply with
      | error failure =>
        rw [grants_unanswered s.logged role session resumed can read]
        exact .page (request, reply) rfl
          (congrArg Except.error ((Failure.of_document read).fault _))
      | ok answer =>
        obtain ⟨page, info⟩ := answer
        obtain ⟨next, moved⟩ := Bag.resume_next resumed (page.nextCursor info)
        obtain ⟨asked, outcome, after, found, looked, log⟩ :=
          holders_lookedUp s role.id.resource page.items heard
        rw [grants_answered s.logged role session resumed can read moved found]
        refine .lookUps (request, reply) (document_ok read) looked ?_ ?_
        · exact log.trans (List.append_assoc _ _ _)
        · rintro fault rfl
          rfl
    · obtain ⟨fault, refused⟩ := grants_unasked s.logged role session resumed can
      rw [refused]
      exact .quiet _

end Roles

/-- How every operation takes a reply that is no answer. Three kinds of look-up give none for what
is not found, the roles of a group end with an empty page where they may not be seen, and so do the
flags of a user. All else is a fault of the operation. -/
theorem failures_handled (s : Setting σ) :
    (∀ r, Follows s (Users.list s.logged r)
      ⟨"list users", readsAs (Json.list? UserRecord.decode?), none⟩) ∧
    (∀ r, Follows s (Groups.list s.logged r)
      ⟨"list groups", readsAs (Json.list? GroupRecord.decode?), none⟩) ∧
    (∀ r, Follows s (Roles.list s.logged r)
      ⟨"list custom roles", readsAs (LinkedPage.decode? "roles" Role.decode?), none⟩) ∧
    (∀ id, Follows s (Users.get s.logged id)
      ⟨"get user " ++ id, readsAs UserRecord.decode?, some (.notFound, none)⟩) ∧
    (∀ id, Follows s (Groups.get s.logged id)
      ⟨"get group " ++ id, readsAs GroupRecord.decode?, some (.notFound, none)⟩) ∧
    (∀ id, Follows s (Roles.get s.logged id)
      ⟨"get custom role " ++ id.resource, readsAs Role.decode?, some (.notFound, none)⟩) ∧
    (∀ group r bag, Roles.resume r.token Groups.phases = .ok bag →
      bag.resourceType = Groups.userPhase → Follows s (Groups.grants s.logged group r)
        ⟨"list users of group " ++ group.id.resource,
          readsAs (Json.list? Roles.decodeAssignee?), none⟩) ∧
    (∀ group r bag, Roles.resume r.token Groups.phases = .ok bag →
      bag.resourceType = Groups.rolePhase → Follows s (Groups.grants s.logged group r)
        ⟨"list roles of group " ++ group.id.resource, readsAs (Json.list? RoleAssignment.decode?),
          some (.accessDenied, ⟨[], bag.pop.token, .empty⟩)⟩) ∧
    (∀ userId, Follows s (Roles.flags s.logged userId)
      ⟨flagsOperation userId, readsAs (Json.list? AdminFlags.decode?),
        some (.accessDenied, { userId })⟩) ∧
    (∀ role r session,
      Roles.HandlesLookUps s.tenant session (Roles.grants s.logged role r session)) ∧
    (∀ principal entitlement, Follows s (Membership.grant s.logged principal entitlement)
      ⟨"add user " ++ principal.id.resource ++ " to group " ++ entitlement.resource.resource,
        anyBody, none⟩) ∧
    (∀ held, Follows s (Membership.revoke s.logged held)
      ⟨"remove user " ++ held.principal.resource ++ " from group " ++
        held.entitlement.resource.resource, anyBody, none⟩) ∧
    (∀ info options, Follows s (Accounts.create s.logged info options)
      ⟨"create user", readsAs UserRecord.decode?, none⟩) ∧
    Follows s (Connector.validate s.logged)
      ⟨"validate: fetch org settings", readsAs Json.value?, none⟩ ∧
    Follows s (Connector.metadata s.logged)
      ⟨"validate: fetch org settings", readsAs Json.value?, none⟩ :=
  ⟨Users.list_follows s, Groups.list_follows s, Roles.list_follows s, Users.get_follows s,
    Groups.get_follows s, Roles.get_follows s,
    fun _ _ _ resumed phase => Groups.grants_member_follows s resumed phase,
    fun _ _ _ resumed phase => Groups.grants_role_follows s resumed phase, Roles.flags_follows s,
    Roles.grants_failing s, Membership.grant_follows s, Membership.revoke_follows s,
    Accounts.create_follows s, Connector.validate_follows s, Connector.metadata_follows s⟩

/-! A group whose roles may not be seen. -/

def refusal : Response := ⟨403, [], "\x7b\"errorCode\":\"E0000006\"\x7d"⟩

def refusedStart : Session (List Response × Log) := Session.start .acme ([refusal], [])

def rolesOfEngineers : PageRequest := ⟨0, (Groups.atRoles "").token⟩

theorem failures_handled_of_refusal :
    Roles.resume rolesOfEngineers.token Groups.phases = .ok (Groups.atRoles "") ∧
    (Groups.atRoles "").resourceType = Groups.rolePhase ∧
    Fails (readsAs (Json.list? RoleAssignment.decode?)) (.response refusal) ∧
    (Groups.grants (Setting.scripted .acme).logged Groups.engineers rolesOfEngineers
      refusedStart).1 = .ok ⟨[], "", .empty⟩ := by
  have resumed := (Groups.resume_atRoles "").2
  have phase : (Groups.atRoles "").resourceType = Groups.rolePhase := rfl
  have fails : Fails (readsAs (Json.list? RoleAssignment.decode?)) (.response refusal) :=
    fun succeeds => absurd succeeds (by decide)
  refine ⟨resumed, phase, fails, ?_⟩
  obtain ⟨_, _, _, _, _, _, _, roles, _⟩ := failures_handled (Setting.scripted .acme)
  obtain ⟨asked, sent, _, failing⟩ :=
    roles Groups.engineers rolesOfEngineers _ resumed phase refusedStart
  have log : (Groups.grants (Setting.scripted .acme).logged Groups.engineers rolesOfEngineers
      refusedStart).2.service.2.map (·.2) = [.response refusal] := by decide +kernel
  obtain ⟨exchange, member, same⟩ : ∃ exchange ∈ asked, exchange.2 = .response refusal := by
    rw [sent] at log
    exact List.mem_map.mp (log.symm ▸ List.mem_singleton_self _)
  obtain ⟨ends, _⟩ := failing exchange member (same ▸ fails)
  rw [ends, same]
  rfl

end AccessCatalog.Okta
