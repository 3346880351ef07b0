import AccessCatalog.Proofs.Okta.EntityCalls

/-! Two sessions side by side, one of which keeps bodies. Where a service answers by the address and
by what changes of membership have made of it, a kept body is what the service would answer with, so
call for call both sessions come to the same. -/
namespace AccessCatalog.Okta

open Web (Url Method Request Reply Response Service Log)

variable {σ α β ε : Type}

/-- The same with no body kept. -/
def Setting.uncached (s : Setting σ) : Setting σ :=
  { s with tenant := { s.tenant with caching := false } }

/-- A service that answers by the method, the address and its state, which only the methods that
change something move. What it has for an address changes only with a change of membership that
succeeds, in a group at this address. -/
structure SteadyService (t : Tenant) (service : Service σ) : Prop where
  answers : ∀ (r r' : Request) (state : σ), r.method = r'.method → r.url.text = r'.url.text →
    service r state = service r' state
  still : ∀ (r : Request) (state : σ), r.method ≠ .put → r.method ≠ .delete →
    (service r state).2 = state
  changes : ∀ (method : Method) (groupId userId : String) (url : Url) (document : Request)
    (state : σ), method = .put ∨ method = .delete →
    t.url (Groups.membershipPath groupId userId) [] = .ok url → document.method = .get →
    (service document (service (t.request method url jsonType none) state).2).1 ≠
      (service document state).1 →
    (∃ response, (service (t.request method url jsonType none) state).1 = .response response ∧
      response.Succeeds) ∧
    ∃ groupUrl, t.url (Groups.pathOf groupId) [] = .ok groupUrl ∧
      groupUrl.text = document.url.text

/-! A kept body and an answer. -/

section Mirror

variable {s : Setting σ}

/-- Requests differ in their headers only in what kind of content they ask for. -/
theorem Sendable.of_text {t : Tenant} {path path' : String} {url url' : Url}
    {contentType contentType' : String} (found : t.url path [] = .ok url)
    (found' : t.url path' [] = .ok url') (same : url.text = url'.text)
    (plain : Web.Headers.isValue contentType' = true)
    (sendable : Sendable (t.query contentType path [])) :
    Sendable (t.query contentType' path' []) := by
  have read := Tenant.address_parsed found
  have read' := Tenant.address_parsed found'
  rw [Tenant.address_eq found] at read
  rw [Tenant.address_eq found'] at read'
  rw [← Tenant.request_eq found] at sendable
  rw [← Tenant.request_eq found']
  obtain ⟨headers, web⟩ := sendable
  refine ⟨?_, Url.isWeb_of_text read read' same web⟩
  simp only [Tenant.request, List.all_append, List.all_cons, Bool.and_eq_true] at headers ⊢
  exact ⟨⟨headers.1.1, plain, headers.1.2.2⟩, headers.2⟩

/-- Whether a body is what the service has for an address, which can be asked. -/
structure Current (s : Setting σ) (state : σ) (url : Url) (body : String) : Prop where
  sendable : ∀ path contentType, s.tenant.url path [] = .ok url →
    Web.Headers.isValue contentType = true → Sendable (s.tenant.query contentType path [])
  served : ∀ r : Request, r.method = .get → r.url.text = url.text →
    ∃ response, (s.service r state).1 = .response response ∧ response.Succeeds ∧
      response.body = body

theorem Current.unchanged {state state' : σ} {url : Url} {body : String}
    (current : Current s state url body)
    (same : ∀ r : Request, r.method = .get → r.url.text = url.text →
      (s.service r state').1 = (s.service r state).1) : Current s state' url body where
  sendable := current.sendable
  served r isGet text := by
    rw [same r isGet text]
    exact current.served r isGet text

/-- A session that keeps bodies and one that keeps none, before the same state of the service. -/
structure Mirrors (s : Setting σ) (cached plain : Session (σ × Log)) : Prop where
  service : plain.service.1 = cached.service.1
  bodies : plain.bodies = none
  current : ∀ url body, cached.stored url = some body → Current s cached.service.1 url body

namespace Mirrors

variable {cached plain : Session (σ × Log)} (mirrors : Mirrors s cached plain)

include mirrors

theorem bare (now : Nat) (url : Url) : plain.keptUnder now url = none :=
  Session.keptUnder_of_none now url mirrors.bodies

theorem reply (r : Request) :
    (s.logged.service r plain.service).1 = (s.logged.service r cached.service).1 := by
  simp only [Setting.logged, Web.logged, mirrors.service]

theorem looked (now : Nat) (url : Url) : Mirrors s (cached.looked now url) plain where
  service := by rw [Session.looked_service, mirrors.service]
  bodies := mirrors.bodies
  current other body found := by
    rw [Session.looked_service]
    exact mirrors.current other body (Session.stored_looked found)

/-- Both sessions send a change, after which what it made out of date is dropped. -/
theorem changed {request : Request} (target : Except Failure Url)
    (covered : ∀ document : Request, document.method = .get →
      (s.service document (s.service request cached.service.1).2).1 ≠
        (s.service document cached.service.1).1 →
      ∃ url, target = .ok url ∧ url.text = document.url.text) :
    Mirrors s ((cached.heard request (s.logged.service request cached.service)).dropping target)
      ((plain.heard request (s.logged.service request plain.service)).dropping target) := by
  have bodies : (plain.heard request (s.logged.service request plain.service)).bodies = none :=
    mirrors.bodies
  refine ⟨?_, ?_, fun other body found => ?_⟩
  · simp only [Session.dropping_service, Session.heard, Setting.logged, Web.logged,
      mirrors.service]
  · rw [Session.dropping_of_none bodies, bodies]
  · obtain ⟨apart, before⟩ := (Session.stored_dropping _ _ _).mp found
    rw [Session.dropping_service]
    refine (mirrors.current other body before).unchanged fun document isGet text => ?_
    refine Classical.byContradiction fun differs => ?_
    obtain ⟨url, isTarget, same⟩ := covered document isGet differs
    exact apart url isTarget (text.symm.trans same.symm)

variable (steady : SteadyService s.tenant s.service) {request : Request}
  (isGet : request.method = .get)

include steady isGet

omit mirrors in
theorem still (state : σ × Log) : (s.logged.service request state).2.1 = state.1 :=
  steady.still request state.1 (by rw [isGet]; decide) (by rw [isGet]; decide)

/-- The session without bodies asks for what the other one has kept. -/
theorem asked_plain (now : Nat) (url : Url) (kept : Option String) : Mirrors s cached
    ((plain.heard request (s.logged.service request plain.service)).keeping now url kept) := by
  have bodies : (plain.heard request (s.logged.service request plain.service)).bodies = none :=
    mirrors.bodies
  rw [Session.keeping_of_none now url bodies]
  exact ⟨(still steady isGet plain.service).trans mirrors.service, bodies,
    mirrors.current⟩

/-- Both sessions ask, and one of them keeps what it understood. -/
theorem asked (now now' : Nat) {url : Url} (decode : Json → Option α)
    (text : request.url.text = url.text)
    (sendable : ∀ path other contentType, s.tenant.url path [] = .ok other →
      other.text = url.text → Web.Headers.isValue contentType = true →
        Sendable (s.tenant.query contentType path [])) (kept : Option String) :
    Mirrors s ((cached.heard request (s.logged.service request cached.service)).keeping now url
        (bodyUnderstood decode (s.logged.service request cached.service).1))
      ((plain.heard request (s.logged.service request plain.service)).keeping now' url kept) := by
  obtain ⟨service, bodies, _⟩ := mirrors.asked_plain steady isGet now' url kept
  have unmoved : ∀ kept, ((cached.heard request (s.logged.service request cached.service)).keeping
      now url kept).service.1 = cached.service.1 := by
    intro kept
    rw [Session.keeping_service]
    exact still steady isGet cached.service
  refine ⟨service.trans (unmoved _).symm, bodies, fun other body found => ?_⟩
  rw [unmoved]
  rcases Session.stored_keeping found with ⟨same, understood⟩ | before
  · obtain ⟨response, replied, succeeds, _, rfl⟩ := bodyUnderstood_eq_some.mp understood
    refine ⟨fun path contentType found => sendable path other contentType found same, ?_⟩
    intro r isGet' text'
    rw [steady.answers r request cached.service.1 (isGet'.trans isGet.symm)
      (text'.trans (same.trans text.symm))]
    exact ⟨response, replied, succeeds, rfl⟩
  · exact mirrors.current other body before

end Mirrors

theorem Inquiry.conclude_map (i : Inquiry α) (result : Except Failure α)
    (info info' : ResponseInfo) :
    i.conclude (result.map (·, info)) = i.conclude (result.map (·, info')) := by
  cases result <;> rfl

variable {cached plain : Session (σ × Log)}

theorem Inquiry.run_mirrored (steady : SteadyService s.tenant s.service) (i : Inquiry α)
    (isValue : Web.Headers.isValue i.contentType = true) (mirrors : Mirrors s cached plain) :
    (i.run s.logged cached).1 = (i.run s.logged plain).1 ∧
      Mirrors s (i.run s.logged cached).2 (i.run s.logged plain).2 := by
  unfold Inquiry.run
  cases found : s.logged.tenant.url i.path [] with
  | error e =>
    rw [s.logged.getKept_unaddressed found, s.logged.getKept_unaddressed found]
    exact ⟨rfl, mirrors⟩
  | ok url =>
    have text : (s.logged.tenant.query i.contentType i.path []).url.text = url.text := by
      rw [← Tenant.request_eq found]
      rfl
    have still := Session.looked_of_none (s.logged.time plain) url mirrors.bodies
    cases kept : cached.keptUnder (s.logged.time cached) url with
    | some body =>
      have current := mirrors.current url body (Session.stored_of_keptUnder kept)
      have sendable := current.sendable i.path i.contentType found isValue
      obtain ⟨response, served, succeeds, rfl⟩ := current.served _ rfl text
      rw [s.logged.getKept_kept i.decode found kept,
        s.logged.getKept_asked i.decode found (mirrors.bare _ url) sendable, still]
      constructor
      · have replied := (mirrors.reply (s.logged.tenant.query i.contentType i.path [])).trans served
        dsimp only
        rw [replied, document_succeeds i.decode succeeds]
        exact i.conclude_map _ _ _
      · exact (mirrors.looked _ url).asked_plain steady rfl _ url _
    | none =>
      by_cases sendable : Sendable (s.logged.tenant.query i.contentType i.path [])
      · rw [s.logged.getKept_asked i.decode found kept sendable,
          s.logged.getKept_asked i.decode found (mirrors.bare _ url) sendable, still]
        constructor
        · dsimp only
          rw [mirrors.reply]
        · have looked := mirrors.looked (s.logged.time cached) url
          rw [← Session.looked_service cached (s.logged.time cached) url]
          refine looked.asked steady rfl _ _ i.decode text ?_ _
          intro path other contentType found' same plainType
          exact Sendable.of_text found found' same.symm plainType sendable
      · rw [s.logged.getKept_unsendable i.decode found kept sendable,
          s.logged.getKept_unsendable i.decode found (mirrors.bare _ url) sendable, still]
        exact ⟨rfl, mirrors.looked _ url⟩

/-- A change that fails leaves what the service has, and one that succeeds drops what it makes
out of date. -/
theorem Membership.change_mirrored (steady : SteadyService s.tenant s.service) {method : Method}
    (changes : method = .put ∨ method = .delete) (groupId userId operation : String)
    (mirrors : Mirrors s cached plain) :
    (Membership.change s.logged method groupId userId operation cached).1 =
        (Membership.change s.logged method groupId userId operation plain).1 ∧
      Mirrors s (Membership.change s.logged method groupId userId operation cached).2
        (Membership.change s.logged method groupId userId operation plain).2 := by
  cases found : s.logged.tenant.url (Groups.membershipPath groupId userId) [] with
  | error e =>
    rw [Membership.change_failed s.logged (s.logged.perform_unaddressed found method cached),
      Membership.change_failed s.logged (s.logged.perform_unaddressed found method plain)]
    exact ⟨rfl, mirrors⟩
  | ok url =>
    by_cases sendable : Sendable (s.logged.tenant.request method url jsonType none)
    · have left := s.logged.perform_asked found sendable cached
      have right := s.logged.perform_asked found sendable plain
      rw [mirrors.reply] at right
      have outdated := fun document =>
        steady.changes method groupId userId url document cached.service.1 changes found
      cases answered : (received (s.logged.service (s.logged.tenant.request method url jsonType
          none) cached.service).1).bind accepted with
      | error e =>
        rw [answered] at left right
        rw [Membership.change_failed s.logged left, Membership.change_failed s.logged right]
        dsimp only
        refine ⟨rfl, mirrors.changed (.error e) fun document isGet differs => ?_⟩
        obtain ⟨⟨response, replied, succeeds⟩, _⟩ := outdated document isGet differs
        have done : (received (.response response)).bind accepted =
            .ok (response.body, ⟨response.status, response.headers⟩) := accepted_succeeds succeeds
        rw [← replied] at done
        cases answered.symm.trans done
      | ok answer =>
        rw [answered] at left right
        rw [Membership.change_done s.logged left, Membership.change_done s.logged right]
        dsimp only
        exact ⟨rfl, mirrors.changed (s.logged.tenant.url (Groups.pathOf groupId) [])
          fun document isGet differs => (outdated document isGet differs).2⟩
    · rw [Membership.change_failed s.logged (s.logged.perform_unsendable found sendable cached),
        Membership.change_failed s.logged (s.logged.perform_unsendable found sendable plain)]
      exact ⟨rfl, mirrors⟩

theorem EntityCall.run_mirrored (steady : SteadyService s.tenant s.service) (call : EntityCall)
    (mirrors : Mirrors s cached plain) :
    (call.run s.logged cached).1 = (call.run s.logged plain).1 ∧
      Mirrors s (call.run s.logged cached).2 (call.run s.logged plain).2 := by
  rw [call.run_plan]
  cases planned : call.plan s.logged.tenant with
  | settled result => exact ⟨rfl, mirrors⟩
  | inquiry i =>
    obtain ⟨same, after⟩ := i.run_mirrored steady (plan_inquiry planned).1 mirrors
    simp only [Plan.run, Call.map_eq]
    exact ⟨congrArg _ same, after⟩
  | change method groupId userId operation =>
    obtain ⟨same, after⟩ := Membership.change_mirrored steady (plan_change planned).2 groupId
      userId operation mirrors
    simp only [Plan.run, Call.map_eq]
    exact ⟨congrArg _ same, after⟩

/-! No call looks at whether bodies are kept. -/

theorem Setting.url_uncached (s : Setting σ) : s.uncached.tenant.url = s.tenant.url := by
  have base : s.uncached.tenant.apiBaseUrl = s.tenant.apiBaseUrl := rfl
  funext path pairs
  rw [Tenant.url, Tenant.url, base]

theorem Setting.getKept_uncached (s : Setting σ) (contentType : String)
    (decode : Json → Option α) (path : String) :
    s.uncached.getKept contentType decode path = s.getKept contentType decode path := by
  have request : s.uncached.tenant.request = s.tenant.request := rfl
  have send : s.uncached.send = s.send := rfl
  have kept : s.uncached.keptBody = s.keptBody := rfl
  have keep : s.uncached.keepBody = s.keepBody := rfl
  rw [getKept, getKept, s.url_uncached, request, send, kept, keep]

theorem Setting.perform_uncached (s : Setting σ) : s.uncached.perform = s.perform := by
  have request : s.uncached.tenant.request = s.tenant.request := rfl
  have send : s.uncached.send = s.send := rfl
  funext method path
  rw [perform, perform, s.url_uncached, request, send]

theorem Membership.change_uncached (s : Setting σ) (method : Method)
    (groupId userId operation : String) :
    change s.uncached method groupId userId operation =
      change s method groupId userId operation := by
  have forget : (s.uncached.forget : String → Call σ Fault Unit) = s.forget := by
    funext path session
    rw [Setting.forget_eq, Setting.forget_eq, s.url_uncached]
  rw [change, change, s.perform_uncached, forget]

theorem EntityCall.run_uncached (s : Setting σ) (call : EntityCall) :
    call.run s.uncached = call.run s := by
  have same : call.plan s.uncached.tenant = call.plan s.tenant := by cases call <;> rfl
  rw [run_plan, run_plan, same]
  cases call.plan s.tenant with
  | settled result => rfl
  | inquiry i =>
    have asked : i.run s.uncached = i.run s := by
      funext session
      rw [Inquiry.run, Inquiry.run, Setting.getKept_uncached]
    rw [Plan.run, Plan.run, asked]
  | change method groupId userId operation =>
    rw [Plan.run, Plan.run, Membership.change_uncached]

theorem history_mirrored (steady : SteadyService s.tenant s.service) (calls : List EntityCall)
    (mirrors : Mirrors s cached plain) :
    (history s calls cached).map (·.result) = (history s.uncached calls plain).map (·.result) := by
  induction calls generalizing cached plain with
  | nil => rfl
  | cons call calls ih =>
    obtain ⟨same, after⟩ := call.run_mirrored steady mirrors
    have logged : s.uncached.logged = s.logged.uncached := rfl
    simp only [history, List.map_cons, EntityCall.event, logged, call.run_uncached]
    rw [same, ih after]

end Mirror

end AccessCatalog.Okta
