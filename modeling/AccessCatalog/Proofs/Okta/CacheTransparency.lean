import AccessCatalog.Proofs.Okta.CacheMirror

/-! The cache of bodies shows in nothing but the requests that it spares. -/
namespace AccessCatalog.Okta

open Web (Url Method Request Reply Response Service Log segmentOf segmentOf_inj)

variable {σ α : Type}

/-! What is asked. -/

/-- What one call does to the bodies of a session: it asks for nothing that is kept, keeps what it
understood, and drops nothing but the body of a group that it changed. -/
structure Tends (s : Setting σ) (session after : Session (σ × Log)) (e : Event) : Prop where
  keeps : after.Keeps s.logged
  missing : ∀ url, e.Asks url → session.stored url = none
  received : ∀ url, e.Receives url → (after.stored url).isSome = true
  lasting : ∀ url, ¬e.Changes s.tenant url → (session.stored url).isSome = true →
    (after.stored url).isSome = true

section Tends

variable {s : Setting σ} {session after : Session (σ × Log)} {e : Event}

theorem Tends.quiet (nothing : e.asked = []) (keeps : after.Keeps s.logged)
    (stored : ∀ url, after.stored url = session.stored url) : Tends s session after e where
  keeps
  missing url := by
    rintro ⟨exchange, asked, _⟩
    rw [nothing] at asked
    cases asked
  received url := by
    rintro ⟨r, response, asked, _⟩
    rw [nothing] at asked
    cases asked
  lasting url _ kept := by rwa [stored]

theorem Session.heard_asked (s : Setting σ) (session : Session (σ × Log)) (r : Request) :
    (session.heard r (s.logged.service r session.service)).service.2.drop
      session.service.2.length = [(r, (s.logged.service r session.service).1)] := by
  simp [Session.heard, Setting.logged, Web.logged]

theorem Session.Keeps.lasting_keeping {s : Setting σ} {session : Session σ}
    (keeps : session.Keeps s) (url : Url) (kept : Option String) {other : Url}
    (before : (session.stored other).isSome = true) :
    ((session.keeping (s.time session) url kept).stored other).isSome = true := by
  cases kept with
  | none => exact before
  | some body =>
    rw [Session.keeping, keeps.stored_withBody]
    split
    · rfl
    · exact before

/-- The session that asks has looked for the body, and stores what it did before. -/
theorem Tends.asked {looked : Session (σ × Log)} {url : Url} {decode : Json → Option α}
    {request : Request} (keeps : looked.Keeps s.logged) (text : request.url.text = url.text)
    (stored : ∀ other, looked.stored other = session.stored other)
    (missing : session.stored url = none) {reply : Reply × (σ × Log)}
    (understands : ∀ body, e.call.understands body = (Setting.decodeBody decode body).isOk)
    (asked : e.asked = [(request, reply.1)]) :
    Tends s session ((looked.heard request reply).keeping (s.logged.time looked) url
      (bodyUnderstood decode reply.1)) e := by
  have heard : (looked.heard request reply).Keeps s.logged := keeps
  constructor
  · cases bodyUnderstood decode reply.1 with
    | none => exact heard
    | some body => exact heard.withBody url body
  · rintro other ⟨exchange, member, _, same⟩
    rw [asked, List.mem_singleton] at member
    rw [member] at same
    rw [session.stored_congr (same.symm.trans text), missing]
  · rintro other ⟨r, response, member, _, same, succeeds, understood⟩
    rw [asked, List.mem_singleton, Prod.mk.injEq] at member
    obtain ⟨rfl, replied⟩ := member
    rw [understands] at understood
    have put := heard.stored_withBody url other response.body
    rw [if_pos (same.symm.trans text)] at put
    rw [bodyUnderstood_eq_some.mpr ⟨response, replied.symm, succeeds, understood, rfl⟩]
    exact Option.isSome_iff_exists.mpr ⟨response.body, put⟩
  · intro other _ before
    rw [← stored] at before
    exact heard.lasting_keeping url _ before

theorem Tends.changed {method : Method} {url : Url}
    (isChange : method = .put ∨ method = .delete) (after : Session (σ × Log))
    (keeps : after.Keeps s.logged) (reply : Reply)
    (asked : e.asked = [(s.tenant.request method url jsonType none, reply)])
    (lasting : ∀ other, ¬e.Changes s.tenant other → (session.stored other).isSome = true →
      (after.stored other).isSome = true) : Tends s session after e := by
  have notGet : method ≠ .get := by
    rcases isChange with rfl | rfl <;> decide
  refine ⟨keeps, ?_, ?_, lasting⟩
  · rintro other ⟨exchange, member, isGet, _⟩
    rw [asked, List.mem_singleton] at member
    rw [member] at isGet
    exact absurd isGet notGet
  · rintro other ⟨r, response, member, isGet, _⟩
    rw [asked, List.mem_singleton, Prod.mk.injEq] at member
    rw [member.1] at isGet
    exact absurd isGet notGet

theorem Inquiry.run_tends (keeps : session.Keeps s.logged) {call : EntityCall} {i : Inquiry α}
    (understands : ∀ body, call.understands body = (Setting.decodeBody i.decode body).isOk)
    (result : Except Fault EntityResult) :
    Tends s session (i.run s.logged session).2
      ⟨call, result, (i.run s.logged session).2.service.2.drop session.service.2.length⟩ := by
  unfold Inquiry.run
  cases found : s.logged.tenant.url i.path [] with
  | error e =>
    rw [s.logged.getKept_unaddressed found]
    exact Tends.quiet List.drop_length keeps fun _ => rfl
  | ok url =>
    have text : (s.logged.tenant.query i.contentType i.path []).url.text = url.text := by
      rw [← Tenant.request_eq found]
      rfl
    have looked := keeps.looked url
    have stored := keeps.stored_looked url
    have still := session.looked_service (s.logged.time session) url
    cases kept : session.keptUnder (s.logged.time session) url with
    | some body =>
      rw [s.logged.getKept_kept i.decode found kept]
      dsimp only
      rw [still]
      exact Tends.quiet List.drop_length looked stored
    | none =>
      have missing : session.stored url = none := (keeps.keptUnder url).symm.trans kept
      by_cases sendable : Sendable (s.logged.tenant.query i.contentType i.path [])
      · rw [s.logged.getKept_asked i.decode found kept sendable]
        refine Tends.asked looked text stored missing understands ?_
        dsimp only
        rw [Session.keeping_service]
        exact session.heard_asked s _
      · rw [s.logged.getKept_unsendable i.decode found kept sendable]
        dsimp only
        rw [still]
        exact Tends.quiet List.drop_length looked stored

theorem Membership.change_tends (keeps : session.Keeps s.logged) {call : EntityCall}
    {method : Method} {groupId : String} (group : call.group? = some groupId)
    (isChange : method = .put ∨ method = .delete) (userId operation : String) :
    Tends s session (change s.logged method groupId userId operation session).2
      ⟨call, (change s.logged method groupId userId operation session).1.map .changed,
        (change s.logged method groupId userId operation session).2.service.2.drop
          session.service.2.length⟩ := by
  cases found : s.logged.tenant.url (Groups.membershipPath groupId userId) [] with
  | error e =>
    rw [change_failed s.logged (s.logged.perform_unaddressed found method session)]
    exact Tends.quiet List.drop_length keeps fun _ => rfl
  | ok url =>
    by_cases sendable : Sendable (s.logged.tenant.request method url jsonType none)
    · have performed := s.logged.perform_asked found sendable session
      have heard := session.heard_asked s (s.logged.tenant.request method url jsonType none)
      cases answered : (received (s.logged.service (s.logged.tenant.request method url jsonType
          none) session.service).1).bind accepted with
      | error e =>
        rw [answered] at performed
        rw [change_failed s.logged performed]
        exact Tends.changed isChange _ keeps _ heard fun _ _ before => before
      | ok answer =>
        rw [answered] at performed
        rw [change_done s.logged performed]
        dsimp only
        rw [Session.dropping_service, heard]
        refine Tends.changed isChange _ ?_ _ rfl fun other unchanged before => ?_
        · cases s.logged.tenant.url (Groups.pathOf groupId) [] with
          | error e => exact keeps
          | ok groupUrl => exact Session.Keeps.without keeps groupUrl
        · obtain ⟨body, kept⟩ := Option.isSome_iff_exists.mp before
          refine Option.isSome_iff_exists.mpr
            ⟨body, (Session.stored_dropping _ _ _).mpr ⟨?_, kept⟩⟩
          intro groupUrl isGroup same
          exact unchanged ⟨⟨_, rfl⟩, groupId, groupUrl, group, isGroup, same.symm⟩
    · rw [change_failed s.logged (s.logged.perform_unsendable found sendable session)]
      exact Tends.quiet List.drop_length keeps fun _ => rfl

theorem EntityCall.run_tends (call : EntityCall) (keeps : session.Keeps s.logged) :
    Tends s session (call.run s.logged session).2 (call.event s session) := by
  unfold event
  rw [call.run_plan]
  cases planned : call.plan s.logged.tenant with
  | settled result => exact Tends.quiet List.drop_length keeps fun _ => rfl
  | inquiry i =>
    simp only [Plan.run, Call.map_eq]
    exact i.run_tends keeps (plan_inquiry planned).2 _
  | change method groupId userId operation =>
    obtain ⟨group, isChange⟩ := plan_change planned
    simp only [Plan.run, Call.map_eq]
    exact Membership.change_tends keeps group isChange userId operation

/-- What is kept is not asked for, as long as no change of the group succeeds. -/
theorem history_kept (calls : List EntityCall) (keeps : session.Keeps s.logged) {url : Url}
    (kept : (session.stored url).isSome = true) {between later : List Event} {asking : Event}
    (ran : history s calls session = between ++ asking :: later)
    (unchanged : ∀ e ∈ between, ¬e.Changes s.tenant url) : ¬asking.Asks url := by
  induction between generalizing calls session with
  | nil =>
    cases calls with
    | nil => cases ran
    | cons call calls =>
      rw [history, List.nil_append, List.cons.injEq] at ran
      intro asks
      have missing := (call.run_tends keeps).missing url (ran.1 ▸ asks)
      rw [missing] at kept
      cases kept
  | cons e between ih =>
    cases calls with
    | nil => cases ran
    | cons call calls =>
      rw [history, List.cons_append, List.cons.injEq] at ran
      obtain ⟨first, rest⟩ := ran
      have tends := call.run_tends (s := s) keeps
      rw [first] at tends
      exact ih calls tends.keeps
        (tends.lasting url (unchanged e List.mem_cons_self) kept) rest
        fun e' member => unchanged e' (List.mem_cons_of_mem e member)

/-- A body that was understood is kept, whatever calls were made before. -/
theorem history_received (calls : List EntityCall) (keeps : session.Keeps s.logged) {url : Url}
    {earlier between later : List Event} {fetched asking : Event}
    (ran : history s calls session = earlier ++ fetched :: (between ++ asking :: later))
    (receives : fetched.Receives url) (unchanged : ∀ e ∈ between, ¬e.Changes s.tenant url) :
    ¬asking.Asks url := by
  induction earlier generalizing calls session with
  | nil =>
    cases calls with
    | nil => cases ran
    | cons call calls =>
      rw [history, List.nil_append, List.cons.injEq] at ran
      obtain ⟨first, rest⟩ := ran
      have tends := call.run_tends (s := s) keeps
      rw [first] at tends
      exact history_kept calls tends.keeps (tends.received url receives) rest unchanged
  | cons e earlier ih =>
    cases calls with
    | nil => cases ran
    | cons call calls =>
      rw [history, List.cons_append, List.cons.injEq] at ran
      exact ih calls (call.run_tends (s := s) keeps).keeps ran.2

end Tends

/-- Call for call a tenant that keeps bodies gives what it gives without, at any service that
answers by the address and by the changes of membership made. Where no body expires, none is asked
for again once it was understood, until a change of members of the group at its address
succeeds. -/
theorem cache_transparent (s : Setting σ) (steady : SteadyService s.tenant s.service)
    (calls : List EntityCall) (service : σ) :
    (history s calls (Session.start s.tenant (service, []))).map (·.result) =
        (history s.uncached calls (Session.start s.uncached.tenant (service, []))).map
          (·.result) ∧
      (s.tenant.caching = true → s.NeverExpires →
        ∀ (earlier between later : List Event) (fetched asking : Event) (url : Url),
          history s calls (Session.start s.tenant (service, [])) =
              earlier ++ fetched :: (between ++ asking :: later) →
          fetched.Receives url → (∀ e ∈ between, ¬e.Changes s.tenant url) →
          ¬asking.Asks url) := by
  constructor
  · refine history_mirrored steady calls ⟨rfl, rfl, fun url body kept => ?_⟩
    rw [Session.start_stored] at kept
    cases kept
  · intro caching never earlier between later fetched asking url ran receives unchanged
    have keeps : (Session.start s.tenant (service, ([] : Log))).Keeps s.logged :=
      Session.start_keeps (s := s.logged) caching never _
    exact history_received calls keeps ran receives unchanged

/-! A group and one user, who is a member of it or not. -/

/-- Without dots in its ids, a membership is reached through its own group alone. -/
theorem Tenant.AtSite.membership_group {t : Tenant} (site : t.AtSite)
    {groupId userId groupId' userId' : String} {url url' : Url}
    (noDots : Url.NoDots [groupId, userId]) (filled : userId ≠ "")
    (found : t.url (Groups.membershipPath groupId userId) [] = .ok url)
    (found' : t.url (Groups.membershipPath groupId' userId') [] = .ok url')
    (web : url.isWeb = true) (same : url.text = url'.text) : groupId = groupId' := by
  have parsed := read (e := .membership groupId userId) found
  have parsed' := read (e := .membership groupId' userId') found'
  have segments := Url.IsSite.follow_inj site parsed parsed' web same
  have plain := (Endpoint.noDots_names (e := .membership groupId userId) noDots).follow []
  rw [Endpoint.names] at plain
  rw [plain, List.nil_append] at segments
  have words : ∀ name ∈ ["api", "v1", "groups", "users"],
      Url.isDots (segmentOf name) = false := by decide
  simp only [List.map_cons, List.map_nil] at segments
  rw [Url.follow_cons (words "api" (by decide)), Url.follow_cons (words "v1" (by decide)),
    Url.follow_cons (words "groups" (by decide))] at segments
  rw [List.nil_append] at segments
  by_cases dots : Url.isDots (segmentOf groupId') = true
  · -- The path would be too short.
    have bound := Url.length_follow_dots dots (List.cons_ne_nil (segmentOf "users")
      [segmentOf userId']) ([segmentOf "api"] ++ [segmentOf "v1"] ++ [segmentOf "groups"])
    rw [← segments] at bound
    simp at bound
  · rw [Url.follow_cons (Bool.eq_false_iff.mpr dots), Url.follow_cons (words "users" (by decide)),
      Url.follow] at segments
    split at segments
    · simp at segments
    · split at segments
      · have blank : segmentOf userId = segmentOf "" := by
          have empty : segmentOf "" = [] := by decide
          rw [empty]
          simpa using congrArg (·.getLast?) segments
        exact absurd (segmentOf_inj blank) filled
      · have third := congrArg (·[3]?) segments
        exact segmentOf_inj (by simpa using third)

/-- The addresses of a group, and of a membership in it. -/
def groupAddress : String := "https://acme.okta.com/api/v1/groups/00g1"
def memberAddress : String := groupAddress ++ "/users/00u1"

def groupBody (isMember : Bool) : String :=
  "\x7b\"id\":\"00g1\",\"profile\":\x7b\"name\":\"Engineers\"\x7d,\"_embedded\":\x7b\"stats\":" ++
    "\x7b\"usersCount\":" ++ (if isMember then "1" else "0") ++ "\x7d\x7d\x7d"

/-- A service with one group, whose state is whether a certain user is a member. -/
def roster : Service Bool := fun r isMember =>
  let address := String.ofList r.url.text
  if r.method = .get ∧ address = groupAddress then
    (.response ⟨200, [], groupBody isMember⟩, isMember)
  else if r.method = .put ∧ address = memberAddress then (.response ⟨204, [], ""⟩, true)
  else if r.method = .delete ∧ address = memberAddress then (.response ⟨204, [], ""⟩, false)
  else (.response ⟨404, [], ""⟩, isMember)

def engineersUrl : Url :=
  { scheme := "https".toList, host := some (.name "acme.okta.com".toList)
    path := .segments ["api".toList, "v1".toList, "groups".toList, "00g1".toList] }

theorem engineersUrl_found : Tenant.acme.url (Groups.pathOf "00g1") [] = .ok engineersUrl ∧
    String.ofList engineersUrl.text = groupAddress := by
  refine ⟨?_, by decide +kernel⟩
  have read : Url.parse none (Tenant.acme.apiBaseUrl ++ Groups.pathOf "00g1").toList =
      .ok engineersUrl := Url.ok_of_toOption (by decide +kernel)
  rw [Tenant.url, read]
  rfl

theorem memberUrl_found : ∃ url, url.isWeb = true ∧
    Tenant.acme.url (Groups.membershipPath "00g1" "00u1") [] = .ok url ∧
      String.ofList url.text = memberAddress := by
  let url : Url := { engineersUrl with
    path := .segments ["api".toList, "v1".toList, "groups".toList, "00g1".toList, "users".toList,
      "00u1".toList] }
  have read : Url.parse none (Tenant.acme.apiBaseUrl ++
      Groups.membershipPath "00g1" "00u1").toList = .ok url :=
    Url.ok_of_toOption (by decide +kernel)
  refine ⟨url, by decide, ?_, by decide +kernel⟩
  rw [Tenant.url, read]
  rfl

theorem roster_steady : SteadyService .acme roster where
  answers r r' state method text := by simp only [roster, method, text]
  still r state notPut notDelete := by
    unfold roster
    simp only [notPut, notDelete, false_and, if_false]
    split <;> rfl
  changes method groupId userId url document state isChange found isGet differs := by
    have notGet : method ≠ .get := by
      rcases isChange with rfl | rfl <;> decide
    by_cases member : String.ofList url.text = memberAddress
    · obtain ⟨memberUrl, web, memberFound, memberText⟩ := memberUrl_found
      have noDots : Url.NoDots ["00g1", "00u1"] := by unfold Url.NoDots; decide
      have group : "00g1" = groupId := Tenant.acme_atSite.membership_group noDots (by decide)
        memberFound found web (Session.keyed.mp (memberText.trans member.symm))
      obtain ⟨engineersFound, engineersText⟩ := engineersUrl_found
      constructor
      · refine ⟨⟨204, [], ""⟩, ?_, by decide⟩
        rcases isChange with rfl | rfl <;> simp [roster, Tenant.request, member]
      · refine ⟨engineersUrl, group ▸ engineersFound, ?_⟩
        refine Classical.byContradiction fun other => differs ?_
        have elsewhere : String.ofList document.url.text ≠ groupAddress := fun same =>
          other (Session.keyed.mp (engineersText.trans same.symm))
        simp [roster, isGet, elsewhere]
    · refine absurd ?_ differs
      simp [roster, Tenant.request, member, notGet]

/-- The clock is read every second, for a minute. -/
def rosterSetting : Setting Bool :=
  { tenant := .acme, service := roster, now := ⟨0, 0, 0⟩, draws := fun _ => 0
    clock := fun n => min n 59 * BodyCache.second }

theorem roster_neverExpires : rosterSetting.NeverExpires := by
  intro m n
  have life : Tenant.acme.cacheLife = 300 := rfl
  have idle : Tenant.acme.cacheIdle = 60 := rfl
  simp only [rosterSetting, life, idle, BodyCache.second]
  omega

/-- The group is looked up twice, then the user is taken out of it, and it is looked up again. -/
def rosterCalls : List EntityCall :=
  [.getGroup "00g1", .getGroup "00g1", .revoke (memberOf "00g1" "00u1"), .getGroup "00g1"]

def rosterStart (t : Tenant) : Session (Bool × Log) := Session.start t (true, [])

theorem cache_transparent_of_roster :
    SteadyService Tenant.acme roster ∧ Tenant.acme.caching = true ∧ rosterSetting.NeverExpires ∧
    (history rosterSetting rosterCalls (rosterStart .acme)).map (·.result) =
      (history rosterSetting.uncached rosterCalls
        (rosterStart rosterSetting.uncached.tenant)).map (·.result) ∧
    ∃ fetched asking later,
      history rosterSetting rosterCalls (rosterStart .acme) = fetched :: asking :: later ∧
        fetched.Receives engineersUrl ∧ ¬asking.Asks engineersUrl := by
  obtain ⟨same, spared⟩ := cache_transparent rosterSetting roster_steady rosterCalls true
  refine ⟨roster_steady, rfl, roster_neverExpires, same, _, _, _, rfl, ?_⟩
  have receives : (EntityCall.event rosterSetting (.getGroup "00g1")
      (rosterStart .acme)).Receives engineersUrl := by
    have asked : (EntityCall.event rosterSetting (.getGroup "00g1") (rosterStart .acme)).asked =
        [(Tenant.acme.request .get engineersUrl jsonType none,
          .response ⟨200, [], groupBody true⟩)] := by decide +kernel
    refine ⟨_, _, asked ▸ List.mem_singleton_self _, rfl, rfl, by decide, ?_⟩
    have read : (EntityCall.getGroup "00g1").understands (groupBody true) = true := by
      decide +kernel
    exact read
  exact ⟨receives, spared rfl roster_neverExpires [] [] _ _ _ engineersUrl rfl receives
    (fun _ member => nomatch member)⟩

example : (history rosterSetting rosterCalls (rosterStart .acme)).map (·.asked.length) =
    [1, 0, 1, 1] := by
  decide +kernel

/-- A body that is kept for two seconds is asked for again after them. -/
example : let brief : Tenant := { Tenant.acme with cacheLife := 2 }
    (history { rosterSetting with tenant := brief }
      [.getGroup "00g1", .getGroup "00g1", .getGroup "00g1"] (rosterStart brief)).map
        (·.asked.length) = [1, 0, 1] := by
  decide +kernel

end AccessCatalog.Okta
