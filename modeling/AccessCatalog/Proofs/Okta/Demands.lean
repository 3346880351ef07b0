import AccessCatalog.Proofs.Okta.EntityCalls
import AccessCatalog.Proofs.Okta.Listings
import AccessCatalog.Proofs.Okta.Throttling

/-! What calls ask for, and when they ask at all. What a call demands follows from its arguments,
its token and what is kept. If that has an address and can be sent, it is the first thing the
service hears of the call, and otherwise the service hears nothing. So a reply that fails an
operation is one that the operation gets. -/
namespace AccessCatalog.Okta

open Web (Url Method Request Reply Response Log)

variable {σ α β ε : Type}

/-- What is to be asked for under a path. -/
structure Demand where
  method : Method := .get
  path : String
  pairs : List (String × String) := []
  contentType : String := jsonType
  body : Option Json := none

namespace Demand

/-- The request that is sent for a demand, if it has an address and can be sent. -/
def request? (d : Demand) (t : Tenant) : Option Request :=
  match t.url d.path d.pairs with
  | .ok url =>
    let r := t.request d.method url d.contentType d.body
    if Sendable r then some r else none
  | .error _ => none

/-- Whether the text of a demand can stand in an address and in a header. -/
structure IsPlain (d : Demand) : Prop where
  path : Web.IsPath d.path.toList
  contentType : Web.Headers.isValue d.contentType = true

/-- At a tenant that can be reached, every plain demand can be sent. -/
theorem IsPlain.request? {d : Demand} (plain : d.IsPlain) {t : Tenant} (reachable : t.Reachable) :
    ∃ url, t.url d.path d.pairs = .ok url ∧
      d.request? t = some (t.request d.method url d.contentType d.body) := by
  have found := reachable.url plain.path d.pairs
  refine ⟨_, found, ?_⟩
  have sendable : Sendable (t.request d.method ((t.address d.path).appendPairs
      (d.pairs.filter fun p => !p.2.isEmpty)) d.contentType d.body) :=
    reachable.sendable plain.path plain.contentType d.pairs
  rw [Demand.request?, found]
  exact if_pos sendable

theorem request?_canAsk {t : Tenant} {contentType path : String} {pairs : List (String × String)}
    (can : t.CanAsk contentType path pairs) :
    request? { path, pairs, contentType } t = some (t.query contentType path pairs) := by
  obtain ⟨⟨url, found⟩, sendable⟩ := can
  rw [← Tenant.request_eq found] at sendable ⊢
  rw [request?, found]
  exact if_pos sendable

theorem request?_cannotAsk {t : Tenant} {contentType path : String}
    {pairs : List (String × String)} (cannot : ¬t.CanAsk contentType path pairs) :
    request? { path, pairs, contentType } t = none := by
  unfold request?
  cases found : t.url path pairs with
  | error e => rfl
  | ok url =>
    refine if_neg fun sendable => cannot ⟨⟨url, found⟩, ?_⟩
    rwa [← Tenant.request_eq found]

end Demand

/-- Whether a session went on with what is demanded and with the reply to it. If nothing is, or it
cannot be sent, nothing is asked. -/
inductive Meets (s : Setting σ) (demand : Option Demand) (session after : Session (σ × Log)) :
    Prop where
  | asked {r : Request} (request : demand.bind (·.request? s.tenant) = some r) (later : Log)
    (log : after.service.2 =
      session.service.2 ++ (r, (s.service r session.service.1).1) :: later)
  | silent (nothing : demand.bind (·.request? s.tenant) = none)
    (same : after.service = session.service)

namespace Meets

variable {s : Setting σ} {session after after' : Session (σ × Log)} {demand : Option Demand}

theorem quiet (same : after.service = session.service) : Meets s none session after :=
  .silent rfl same

theorem heard {d : Demand} {r : Request} (request : d.request? s.tenant = some r) (later : Log)
    (log : after.service.2 =
      session.service.2 ++ (r, (s.service r session.service.1).1) :: later) :
    Meets s (some d) session after :=
  .asked request later log

theorem unheard {d : Demand} (request : d.request? s.tenant = none)
    (same : after.service = session.service) : Meets s (some d) session after :=
  .silent request same

theorem of_service (meets : Meets s demand session after) (same : after'.service = after.service) :
    Meets s demand session after' := by
  cases meets with
  | asked request later log => exact .asked request later (by rw [same, log])
  | silent nothing still => exact .silent nothing (same.trans still)

/-- A demand that can be sent is heard first. -/
theorem first (meets : Meets s demand session after) {r : Request}
    (request : demand.bind (·.request? s.tenant) = some r) : ∃ later : Log,
      after.service.2 = session.service.2 ++ (r, (s.service r session.service.1).1) :: later := by
  cases meets with
  | asked sent later log =>
    rw [request] at sent
    cases sent
    exact ⟨later, log⟩
  | silent nothing _ =>
    rw [request] at nothing
    cases nothing

/-- The service hears something exactly where a demand can be sent. -/
theorem asks_iff (meets : Meets s demand session after) :
    after.service.2 ≠ session.service.2 ↔
      (demand.bind (·.request? s.tenant)).isSome = true := by
  cases meets with
  | asked request later log => simp [request, log]
  | silent nothing same => simp [nothing, same]

theorem ofExcept {r : Except ε β} {rest : β → Call (σ × Log) ε α} {f : β → Option Demand}
    (meets : ∀ b, r = .ok b → Meets s (f b) session (rest b session).2) :
    Meets s (r.toOption.bind f) session ((Call.ofExcept r >>= rest) session).2 := by
  cases r with
  | error e => exact quiet rfl
  | ok b => exact meets b rfl

theorem within {c : Call (σ × Log) Failure β} (meets : Meets s demand session (c session).2)
    (operation : String) {rest : β → Call (σ × Log) Fault α} (quiet : ∀ b, (rest b).Quiet) :
    Meets s demand session ((c.within operation >>= rest) session).2 := by
  refine meets.of_service ?_
  rw [Call.bind_service fun b after => (quiet b after).1, Call.within_session]

theorem attempt {c : Call (σ × Log) Failure β} (meets : Meets s demand session (c session).2)
    {rest : Except Failure β → Call (σ × Log) Fault α} (quiet : ∀ result, (rest result).Quiet) :
    Meets s demand session ((c.attempt >>= rest) session).2 := by
  refine meets.of_service ?_
  rw [Call.bind_service fun result after => (quiet result after).1, Call.attempt_session]

theorem map {c : Call (σ × Log) ε β} (meets : Meets s demand session (c session).2) (f : β → α) :
    Meets s demand session ((f <$> c) session).2 := by
  rwa [Call.map_eq]

theorem of_map {c : Call (σ × Log) ε β} {f : β → α}
    (meets : Meets s demand session ((f <$> c) session).2) :
    Meets s demand session (c session).2 := by
  rwa [Call.map_eq] at meets

end Meets

/-! Requests. -/

namespace Setting

variable (s : Setting σ) (session : Session (σ × Log))

theorem delivered_meets (d : Demand) {url : Url} (found : s.tenant.url d.path d.pairs = .ok url)
    {after : Session (σ × Log)} (sent : after.service =
      s.logged.delivered (s.tenant.request d.method url d.contentType d.body) session.service) :
    Meets s (some d) session after := by
  have request : d.request? s.tenant =
      if Sendable (s.tenant.request d.method url d.contentType d.body) then
        some (s.tenant.request d.method url d.contentType d.body)
      else none := by rw [Demand.request?, found]
  unfold delivered at sent
  by_cases sendable : Sendable (s.tenant.request d.method url d.contentType d.body)
  · rw [if_pos sendable] at request sent
    refine .heard request [] ?_
    rw [sent]
    rfl
  · rw [if_neg sendable] at request sent
    exact .unheard request sent

theorem unaddressed_meets {d : Demand} {e : Failure}
    (refused : s.tenant.url d.path d.pairs = .error e) {after : Session (σ × Log)}
    (same : after.service = session.service) : Meets s (some d) session after := by
  have request : d.request? s.tenant = none := by rw [Demand.request?, refused]
  exact .unheard request same

/-- A call that sends what is demanded and sees to the response by itself. -/
theorem send_meets (d : Demand) {rest : String × ResponseInfo → Call (σ × Log) Failure α}
    (quiet : ∀ answer, (rest answer).Quiet) : Meets s (some d) session
      ((Call.ofExcept (s.tenant.url d.path d.pairs) >>= fun url =>
        s.logged.send (s.tenant.request d.method url d.contentType d.body) >>= rest)
          session).2 := by
  cases found : s.tenant.url d.path d.pairs with
  | error e => exact s.unaddressed_meets session found rfl
  | ok url =>
    refine s.delivered_meets session d found ?_
    rw [Call.bind_ok (Call.ofExcept_ok rfl session), ← send_service]
    exact Call.bind_service (fun answer after => (quiet answer after).1) session

theorem get_meets (contentType : String) (decode : Json → Option α) (path : String)
    (pairs : List (String × String)) : Meets s (some { path, pairs, contentType }) session
      (s.logged.get contentType decode path pairs session).2 :=
  s.send_meets session { path, pairs, contentType } fun _ => .bind (.ofExcept _) fun _ => .pure _

theorem post_meets (decode : Json → Option α) (path : String) (pairs : List (String × String))
    (body : Json) : Meets s (some { method := .post, path, pairs, body := some body }) session
      (s.logged.post decode path pairs body session).2 :=
  s.send_meets session { method := .post, path, pairs, body := some body } fun _ =>
    .bind (.ofExcept _) fun _ => .pure _

theorem perform_meets (method : Method) (path : String) :
    Meets s (some { method, path }) session (s.logged.perform method path session).2 :=
  s.send_meets session { method, path } fun _ => .pure _

/-- A demand that is dropped where a body is kept for it. -/
def unkept (s : Setting σ) (session : Session σ) (d : Demand) : Option Demand :=
  match s.tenant.url d.path [] with
  | .ok url => if session.keptUnder (s.time session) url = none then some d else none
  | .error _ => none

theorem getKept_meets (contentType : String) (decode : Json → Option α) (path : String) :
    Meets s (s.logged.unkept session { path, contentType }) session
      (s.logged.getKept contentType decode path session).2 := by
  unfold unkept
  cases found : s.logged.tenant.url path [] with
  | error e =>
    rw [s.logged.getKept_unaddressed found]
    exact .quiet rfl
  | ok url =>
    have sent := s.logged.getKept_service decode contentType found session
    dsimp only
    by_cases missing : session.keptUnder (s.logged.time session) url = none
    · rw [if_pos missing] at sent ⊢
      exact s.delivered_meets session { path, contentType } found sent
    · rw [if_neg missing] at sent ⊢
      exact .quiet sent

end Setting

/-! What calls demand. -/

def Listing.demand (l : Listing) (t : Tenant) (r : PageRequest) (bag : Bag) : Demand where
  path := l.path
  pairs := l.pairs t r.size bag.cursor
  contentType := l.contentType

/-- A page of the phase that the token is in; that of the members is spared where there are none. -/
def Groups.demand? (t : Tenant) (group : Resource) (r : PageRequest) : Option Demand :=
  (Roles.resume r.token phases).toOption.bind fun bag =>
    group.groupProfile.toOption.bind fun profile =>
      let pairs := [("limit", Nat.repr (t.pageLimit r)), ("after", bag.cursor)]
      if bag.resourceType = userPhase then
        if isEmptyCount (profile.int? GroupRecord.usersCountKey) then none
        else some { path := listingPath group "/users", pairs }
      else if bag.resourceType = rolePhase then some { path := listingPath group "/roles", pairs }
      else none

def Accounts.demand? (draws : Nat → Nat) (info : AccountInfo) (options : CredentialOptions) :
    Option Demand :=
  (newProfile info).toOption.bind fun profile =>
    (query info options).toOption.bind fun pairs =>
      (password draws options).toOption.bind fun password =>
        some { method := .post, path := Users.path, pairs, body := some (body profile password) }

def Plan.demand? (s : Setting σ) (session : Session σ) : Plan → Option Demand
  | settled _ => none
  | inquiry i => s.unkept session { path := i.path, contentType := i.contentType }
  | change method groupId userId _ => some { method, path := Groups.membershipPath groupId userId }

/-- The flags of a user are asked for until they are known. -/
def Roles.flagsDemand? (session : Session σ) (userId : String) : Option Demand :=
  match session.flags.get? userId with
  | some _ => none
  | none => some { path := administratorsPath, pairs := [("userId", userId)] }

namespace ConnectorCall

def validation? (t : Tenant) : Option Demand :=
  if t.hasToken then some { path := Connector.organizationPath } else none

/-- What a call asks for first. A page of grants goes on to ask for the flags of users. -/
def demand? (s : Setting σ) (session : Session σ) : ConnectorCall → Option Demand
  | list .users r =>
    if s.tenant.loweredEmailDomains = [] then none
    else (Listing.users.resume s.tenant r.token).toOption.bind fun bag =>
      some (Listing.users.demand s.tenant r bag)
  | list .groups r => (Listing.groups.resume s.tenant r.token).toOption.bind fun bag =>
      some (Listing.groups.demand s.tenant r bag)
  | list .roles r => (Listing.customRoles.resume s.tenant r.token).toOption.bind fun bag =>
      if bag.resourceType = Roles.customPhase then some (Listing.customRoles.demand s.tenant r bag)
      else none
  | entitlements _ _ | grants .users _ _ | change _ => none
  | grants .groups group r => Groups.demand? s.tenant group r
  | grants .roles role r =>
    ((Listing.holders role).resume s.tenant r.token).toOption.bind fun bag =>
      some ((Listing.holders role).demand s.tenant r bag)
  | get .users id => ((EntityCall.getUser id.resource).plan s.tenant).demand? s session
  | get .groups id => ((EntityCall.getGroup id.resource).plan s.tenant).demand? s session
  | get .roles id => ((EntityCall.getRole id).plan s.tenant).demand? s session
  | grant principal entitlement =>
    ((EntityCall.grant principal entitlement).plan s.tenant).demand? s session
  | revoke held => ((EntityCall.revoke held).plan s.tenant).demand? s session
  | create info options => Accounts.demand? s.draws info options
  | validate | metadata => validation? s.tenant

end ConnectorCall

/-! Each call. -/

section Calls

variable (s : Setting σ) (session : Session (σ × Log))

theorem Users.list_meets (r : PageRequest) :
    Meets s ((ConnectorCall.list .users r).demand? s.logged session) session
      (list s.logged r session).2 := by
  have nobody : s.logged.tenant.loweredEmailDomains.isEmpty = true ↔
      s.logged.tenant.loweredEmailDomains = [] := List.isEmpty_iff
  unfold list ConnectorCall.demand?
  dsimp only
  simp only [nobody]
  split
  · exact .quiet rfl
  · refine .ofExcept fun bag _ => (s.get_meets session _ _ _ _).within _ fun a => ?_
    exact .bind (.ofExcept _) fun _ => .pure _

theorem Groups.list_meets (r : PageRequest) :
    Meets s ((ConnectorCall.list .groups r).demand? s.logged session) session
      (list s.logged r session).2 :=
  .ofExcept fun _ _ => (s.get_meets session _ _ _ _).within _ fun _ =>
    .bind (.ofExcept _) fun _ => .pure _

theorem Roles.list_meets (r : PageRequest) :
    Meets s ((ConnectorCall.list .roles r).demand? s.logged session) session
      (list s.logged r session).2 := by
  refine .ofExcept fun bag _ => ?_
  dsimp only
  by_cases standard : bag.resourceType = standardPhase
  · have other : bag.resourceType ≠ customPhase := by
      rw [standard]
      decide
    rw [if_pos standard, if_neg other]
    exact .quiet (Call.Quiet.bind (.ofExcept _) (fun _ => .pure _) session).1
  · rw [if_neg standard]
    split
    · refine (s.get_meets session _ _ _ _).within _ fun a => ?_
      exact .bind (.ofExcept _) fun _ => .pure _
    · exact .quiet rfl

theorem Groups.grants_meets (group : Resource) (r : PageRequest) :
    Meets s (demand? s.tenant group r) session (grants s.logged group r session).2 := by
  refine .ofExcept fun bag _ => .ofExcept fun profile _ => ?_
  dsimp only
  by_cases members : bag.resourceType = userPhase
  · rw [if_pos members, if_pos members, memberPage]
    dsimp only
    split
    · exact .quiet (Call.Quiet.bind (.ofExcept _) (fun _ => .pure _) session).1
    · refine (s.get_meets session _ _ _ _).within _ fun a => ?_
      exact .bind (.ofExcept _) fun _ => .pure _
  · rw [if_neg members, if_neg members]
    split
    · refine (s.get_meets session _ _ _ _).attempt fun result => ?_
      cases result with
      | ok answer => exact .bind (.ofExcept _) fun _ => .pure _
      | error e =>
        dsimp only
        split
        · exact .bind (.ofExcept _) fun _ => .pure _
        · exact .throw _
    · exact .quiet rfl

/-- The page of users comes before the look-ups that it leads to. -/
theorem Roles.grants_meets (role : Resource) (r : PageRequest) :
    Meets s ((ConnectorCall.grants .roles role r).demand? s.logged session) session
      (grants s.logged role r session).2 := by
  cases resumed : Bag.resume r.token { resourceType := "user" } with
  | error fault =>
    rw [grants_unreadable s.logged role session resumed, ConnectorCall.demand?, Listing.resume,
      resumed]
    exact .quiet rfl
  | ok bag =>
    have demanded : (ConnectorCall.grants .roles role r).demand? s.logged session =
        some ((Listing.holders role).demand s.tenant r bag) := by
      rw [ConnectorCall.demand?, Listing.resume, resumed]
      rfl
    rw [demanded]
    by_cases can : CanList s.tenant (s.tenant.pageLimit r) bag.cursor
    · let request := assigneesRequest s.tenant (s.tenant.pageLimit r) bag.cursor
      let heard := session.heard request (s.logged.service request session.service)
      have asked : Demand.request? ((Listing.holders role).demand s.tenant r bag) s.tenant =
          some request := Demand.request?_canAsk can
      have log : heard.service.2 =
          session.service.2 ++ [(request, (s.service request session.service.1).1)] := rfl
      cases read : assigneesIn (s.logged.service request session.service).1 with
      | error failure =>
        rw [grants_unanswered s.logged role session resumed can read]
        exact .heard asked [] log
      | ok answer =>
        obtain ⟨page, info⟩ := answer
        obtain ⟨next, moved⟩ := Bag.resume_next resumed (page.nextCursor info)
        obtain ⟨lookUps, outcome, after, found, _, further⟩ :=
          holders_lookedUp s role.id.resource page.items heard
        rw [grants_answered s.logged role session resumed can read moved found]
        rw [log, List.append_assoc, List.singleton_append] at further
        exact .heard asked _ further
    · obtain ⟨fault, refused⟩ := grants_unasked s.logged role session resumed can
      have unasked : Demand.request? ((Listing.holders role).demand s.tenant r bag) s.tenant =
          none := Demand.request?_cannotAsk can
      rw [refused]
      exact .unheard unasked rfl

theorem Roles.flags_meets (userId : String) :
    Meets s (flagsDemand? session userId) session (flags s.logged userId session).2 := by
  unfold flagsDemand?
  cases known : session.flags.get? userId with
  | some f =>
    rw [flags_known known]
    exact .quiet rfl
  | none =>
    by_cases can : CanLookUp s.tenant userId
    · rw [flags_asked (s := s.logged) known can]
      have log : (session.heard (flagsRequest s.tenant userId)
          (s.logged.service (flagsRequest s.tenant userId) session.service)).service.2 =
            session.service.2 ++ [(flagsRequest s.tenant userId,
              (s.service (flagsRequest s.tenant userId) session.service.1).1)] := rfl
      exact .heard (Demand.request?_canAsk can) [] log
    · obtain ⟨fault, refused⟩ := flags_unasked (s := s.logged) known can
      rw [refused]
      exact .unheard (Demand.request?_cannotAsk can) rfl

theorem Inquiry.run_session (i : Inquiry α) (s : Setting σ) (session : Session σ) :
    (i.run s session).2 = (s.getKept i.contentType i.decode i.path session).2 := by
  unfold run
  generalize s.getKept i.contentType i.decode i.path session = got
  rfl

theorem Plan.run_meets (plan : Plan) :
    Meets s (plan.demand? s.logged session) session (plan.run s.logged session).2 := by
  cases plan with
  | settled result => exact .quiet rfl
  | inquiry i =>
    have asked := s.getKept_meets session i.contentType i.decode i.path
    rw [← i.run_session] at asked
    rw [demand?, run]
    exact asked.map _
  | change method groupId userId operation =>
    have performed := s.perform_meets session method (Groups.membershipPath groupId userId)
    have same := Membership.change_service s.logged method groupId userId operation session
    rw [Endpoint.path_membership] at same
    rw [demand?, run]
    exact (performed.of_service same).map _

theorem Accounts.create_meets (info : AccountInfo) (options : CredentialOptions) :
    Meets s (demand? s.draws info options) session (create s.logged info options session).2 :=
  .ofExcept fun _ _ => .ofExcept fun _ _ => .ofExcept fun _ _ =>
    (s.post_meets session _ _ _ _).within _ fun _ => .pure _

theorem Connector.validate_meets :
    Meets s (ConnectorCall.validation? s.logged.tenant) session (validate s.logged session).2 := by
  unfold validate ConnectorCall.validation?
  by_cases token : s.logged.tenant.hasToken = true
  · rw [if_pos token, if_pos token]
    exact (s.get_meets session _ _ _ _).within _ fun _ => .pure _
  · rw [if_neg token, if_neg token]
    exact .quiet rfl

theorem EntityCall.run_meets (call : EntityCall) :
    Meets s ((call.plan s.tenant).demand? s.logged session) session
      (call.run s.logged session).2 := by
  rw [call.run_plan]
  exact Plan.run_meets s session (call.plan s.tenant)

/-- Every call first asks for what it demands, or asks for nothing. -/
theorem ConnectorCall.run_meets (call : ConnectorCall) :
    Meets s (call.demand? s.logged session) session (call.run s.logged session).2 := by
  cases call with
  | list syncer r =>
    cases syncer with
    | users => exact (Users.list_meets s session r).map _
    | groups => exact (Groups.list_meets s session r).map _
    | roles => exact (Roles.list_meets s session r).map _
  | entitlements syncer resource => exact .quiet rfl
  | grants syncer resource r =>
    cases syncer with
    | users => exact .quiet rfl
    | groups => exact (Groups.grants_meets s session resource r).map _
    | roles => exact (Roles.grants_meets s session resource r).map _
  | get syncer id =>
    cases syncer with
    | users => exact ((EntityCall.getUser id.resource).run_meets s session).of_map.map _
    | groups => exact ((EntityCall.getGroup id.resource).run_meets s session).of_map.map _
    | roles => exact ((EntityCall.getRole id).run_meets s session).of_map.map _
  | grant principal entitlement =>
    exact ((EntityCall.grant principal entitlement).run_meets s session).of_map.map _
  | revoke held => exact ((EntityCall.revoke held).run_meets s session).of_map.map _
  | create info options => exact (Accounts.create_meets s session info options).map _
  | validate => exact (Connector.validate_meets s session).map _
  | metadata =>
    refine Meets.map ((Connector.validate_meets s session).of_service ?_) _
    exact Call.bind_service (fun _ _ => rfl) session
  | change event =>
    refine .quiet ?_
    rw [run, Call.map_eq]
    rfl

end Calls

/-! At a tenant that can be reached, nothing that is demanded goes unsent. -/

theorem Listing.demand_plain (l : Listing) (t : Tenant) (r : PageRequest) (bag : Bag) :
    (l.demand t r bag).IsPlain where
  path := l.path_isPath
  contentType := by
    cases l with
    | users => exact contentTypes_plain.1
    | groups | holders | customRoles => exact contentTypes_plain.2

theorem Groups.demand?_plain {t : Tenant} {group : Resource} {r : PageRequest} {d : Demand}
    (wanted : demand? t group r = some d) : d.IsPlain := by
  obtain ⟨bag, _, wanted⟩ := Option.bind_eq_some_iff.mp wanted
  obtain ⟨profile, _, wanted⟩ := Option.bind_eq_some_iff.mp wanted
  dsimp only at wanted
  split at wanted
  · split at wanted
    · cases wanted
    · cases wanted
      exact ⟨listingPath_isPath group (.inl rfl), contentTypes_plain.2⟩
  · split at wanted
    · cases wanted
      exact ⟨listingPath_isPath group (.inr rfl), contentTypes_plain.2⟩
    · cases wanted

theorem Accounts.demand?_plain {draws : Nat → Nat} {info : AccountInfo}
    {options : CredentialOptions} {d : Demand} (wanted : demand? draws info options = some d) :
    d.IsPlain := by
  obtain ⟨profile, _, wanted⟩ := Option.bind_eq_some_iff.mp wanted
  obtain ⟨pairs, _, wanted⟩ := Option.bind_eq_some_iff.mp wanted
  obtain ⟨password, _, wanted⟩ := Option.bind_eq_some_iff.mp wanted
  cases wanted
  exact ⟨Listing.users.path_isPath, contentTypes_plain.2⟩

theorem Setting.unkept_eq_some {s : Setting σ} {session : Session σ} {d d' : Demand}
    (wanted : s.unkept session d = some d') : d' = d := by
  unfold unkept at wanted
  split at wanted
  · split at wanted
    · exact (Option.some.inj wanted).symm
    · cases wanted
  · cases wanted

theorem EntityCall.plan_isPath {t : Tenant} {call : EntityCall} {i : Inquiry α}
    (asks : call.plan t = .inquiry i) : Web.IsPath i.path.toList := by
  unfold plan at asks
  split at asks
  · rename_i id
    have isPath := (Endpoint.user id).path_isPath
    rw [Endpoint.path_user] at isPath
    split at asks
    · cases asks
    · cases asks
      exact isPath
  · cases asks
    exact Groups.pathOf_isPath _
  · rename_i id
    have isPath := (Endpoint.customRole id.resource).path_isPath
    rw [Endpoint.path_customRole] at isPath
    split at asks
    · cases asks
    · split at asks
      · cases asks
      · split at asks
        · cases asks
          exact isPath
        · cases asks
  · split at asks <;> cases asks
  · split at asks <;> cases asks

theorem EntityCall.demand?_plain (call : EntityCall) {s : Setting σ} {session : Session σ}
    {d : Demand} (wanted : (call.plan s.tenant).demand? s session = some d) : d.IsPlain := by
  cases planned : call.plan s.tenant with
  | settled result =>
    rw [planned] at wanted
    cases wanted
  | inquiry i =>
    rw [planned] at wanted
    rw [Setting.unkept_eq_some wanted]
    exact ⟨plan_isPath planned, (plan_inquiry planned).1⟩
  | change method groupId userId operation =>
    rw [planned] at wanted
    cases wanted
    refine ⟨?_, contentTypes_plain.2⟩
    exact Endpoint.path_membership _ _ ▸ (Endpoint.membership groupId userId).path_isPath

namespace ConnectorCall

variable {s : Setting σ} {call : ConnectorCall}

theorem validation?_plain {t : Tenant} {d : Demand} (wanted : validation? t = some d) :
    d.IsPlain := by
  unfold validation? at wanted
  split at wanted
  · cases wanted
    exact ⟨⟨_, rfl, Web.forall_of_all (by decide)⟩, contentTypes_plain.2⟩
  · cases wanted

theorem demand?_plain {session : Session σ} {d : Demand}
    (wanted : call.demand? s session = some d) : d.IsPlain := by
  cases call with
  | list syncer r =>
    cases syncer with
    | users =>
      simp only [demand?] at wanted
      split at wanted
      · cases wanted
      · obtain ⟨bag, _, same⟩ := Option.bind_eq_some_iff.mp wanted
        cases same
        exact Listing.users.demand_plain s.tenant r bag
    | groups =>
      obtain ⟨bag, _, same⟩ := Option.bind_eq_some_iff.mp wanted
      cases same
      exact Listing.groups.demand_plain s.tenant r bag
    | roles =>
      obtain ⟨bag, _, same⟩ := Option.bind_eq_some_iff.mp wanted
      split at same
      · cases same
        exact Listing.customRoles.demand_plain s.tenant r bag
      · cases same
  | grants syncer resource r =>
    cases syncer with
    | users => cases wanted
    | groups => exact Groups.demand?_plain wanted
    | roles =>
      obtain ⟨bag, _, same⟩ := Option.bind_eq_some_iff.mp wanted
      cases same
      exact (Listing.holders resource).demand_plain s.tenant r bag
  | get syncer id =>
    cases syncer with
    | users => exact (EntityCall.getUser id.resource).demand?_plain wanted
    | groups => exact (EntityCall.getGroup id.resource).demand?_plain wanted
    | roles => exact (EntityCall.getRole id).demand?_plain wanted
  | grant principal entitlement =>
    exact (EntityCall.grant principal entitlement).demand?_plain wanted
  | revoke held => exact (EntityCall.revoke held).demand?_plain wanted
  | create info options => exact Accounts.demand?_plain wanted
  | validate | metadata => exact validation?_plain wanted
  | entitlements | change => cases wanted

/-- A call that demands something at a tenant that can be reached sends it, before all else. -/
theorem demand_sent (reachable : s.tenant.Reachable) {session : Session (σ × Log)} {d : Demand}
    (wanted : call.demand? s.logged session = some d) :
    ∃ url later, s.tenant.url d.path d.pairs = .ok url ∧
      (call.run s.logged session).2.service.2 = session.service.2 ++
        (s.tenant.request d.method url d.contentType d.body,
          (s.service (s.tenant.request d.method url d.contentType d.body)
            session.service.1).1) :: later := by
  obtain ⟨url, found, request⟩ := (demand?_plain wanted).request? reachable
  have meets := call.run_meets s session
  rw [wanted] at meets
  obtain ⟨later, log⟩ := meets.first request
  exact ⟨url, later, found, log⟩

/-- When a call asks at all. -/
theorem run_asks_iff (call : ConnectorCall) (session : Session (σ × Log)) :
    (call.run s.logged session).2.service.2 ≠ session.service.2 ↔
      ((call.demand? s.logged session).bind (·.request? s.tenant)).isSome = true :=
  (call.run_meets s session).asks_iff

end ConnectorCall

/-! A reply to what was demanded first is one that the call gets. -/

section Replies

variable {s : Setting σ} {c : Call (σ × Log) Fault α} {demand : Option Demand}
  {session : Session (σ × Log)} {r : Request}

/-- An operation comes to what its policy says of a failed reply to its demand. -/
theorem Follows.answered {p : Policy α} (follows : Follows s c p)
    (meets : Meets s demand session (c session).2)
    (request : demand.bind (·.request? s.tenant) = some r)
    (fails : Fails p.takes (s.service r session.service.1).1) :
    (c session).1 = p.outcome (s.service r session.service.1).1 := by
  obtain ⟨asked, log, _, failing⟩ := follows session
  obtain ⟨later, first⟩ := meets.first request
  have same : asked = (r, (s.service r session.service.1).1) :: later :=
    List.append_cancel_left (log.symm.trans first)
  exact (failing _ (same ▸ List.mem_cons_self) fails).1

/-- A throttled or failed reply to a demand is reported. -/
theorem Candid.answered (candid : Candid c) (meets : Meets s demand session (c session).2)
    (request : demand.bind (·.request? s.tenant) = some r) {response : Response}
    (replied : (s.service r session.service.1).1 = .response response)
    (strained : Strained response) (plain : ¬Coded response) :
    ∃ fault, (c session).1 = .error fault ∧ Reports response fault := by
  obtain ⟨asked, log, reported⟩ := candid session
  obtain ⟨later, first⟩ := meets.first request
  have same : asked = (r, .response response) :: later := by
    rw [← replied]
    exact List.append_cancel_left (log.symm.trans first)
  exact reported r response (same ▸ List.mem_cons_self) strained plain

end Replies

/-- At a tenant that can be reached, a throttled or failed reply to the demand of a call ends it
with a report. -/
theorem ConnectorCall.strain_ends {s : Setting σ} (reachable : s.tenant.Reachable)
    {call : ConnectorCall} {session : Session (σ × Log)} {d : Demand}
    (wanted : call.demand? s.logged session = some d) :
    ∃ url, s.tenant.url d.path d.pairs = .ok url ∧ ∀ response,
      (s.service (s.tenant.request d.method url d.contentType d.body) session.service.1).1 =
        .response response → Strained response → ¬Coded response →
      ∃ fault, (call.run s.logged session).1 = .error fault ∧ Reports response fault := by
  obtain ⟨url, found, request⟩ := (demand?_plain wanted).request? reachable
  have meets := call.run_meets s session
  rw [wanted] at meets
  exact ⟨url, found, fun _ replied strained plain =>
    (call.run_candid s).answered meets request replied strained plain⟩

end AccessCatalog.Okta
