import AccessCatalog.Okta.Session
import AccessCatalog.Proofs.Web.Address

/-! Calls that are answered. A document that a reachable tenant serves is got by one request, which
carries exactly the pairs that were asked for, and nothing of the session changes but what the
service keeps and the list of requests. -/
namespace AccessCatalog

/-- What a request carries under a name in its query. -/
def Web.Request.values (r : Request) (name : String) : List String :=
  (r.url.queryPairs.filter fun p => p.1 = name).map (·.2)

/-- Whether a result is no failure but of these. -/
def FailsAs {ε α : Type} (faults : ε → Prop) (result : Except ε α) : Prop :=
  ∀ e, result = .error e → faults e

namespace FailsAs

variable {ε α β : Type} {faults : ε → Prop}

theorem ok (a : α) : FailsAs faults (.ok a : Except ε α) := nofun

theorem error {e : ε} (isFault : faults e) : FailsAs faults (.error e : Except ε α) := by
  rintro _ ⟨⟩
  exact isFault

theorem bind {r : Except ε α} {f : α → Except ε β} (first : FailsAs faults r)
    (rest : ∀ a, FailsAs faults (f a)) : FailsAs faults (r >>= f) := by
  cases r with
  | error e => exact error (first e rfl)
  | ok a => exact rest a

theorem map {r : Except ε α} (f : α → β) (first : FailsAs faults r) :
    FailsAs faults (r.map f) := by
  cases r with
  | error e => exact error (first e rfl)
  | ok a => exact ok (f a)

end FailsAs

namespace Okta

open Web (Url Method Request Response Service)

variable {σ α β ε : Type}

/-! Reaching a tenant. -/

/-- The token of the tenant can stand in a header, and its root is a web address without a
query. -/
structure Tenant.Reachable (t : Tenant) : Prop where
  token : ∀ token, t.token? = some token → Web.Headers.isValue token = true
  root : ∃ root, Url.parse none (t.apiBaseUrl ++ "/").toList = .ok root ∧
    root.isWeb = true ∧ root.query = none

/-- A token that can stand in a header still can behind the scheme of its kind. -/
theorem isValue_authorization {token : String} (value : Web.Headers.isValue token = true) :
    Web.Headers.isValue ("SSWS " ++ token) = true := by
  simp only [Web.Headers.isValue, String.toList_append, List.all_append, Bool.and_eq_true]
  exact ⟨by decide, value⟩

namespace Tenant

def address (t : Tenant) (path : String) : Url := (t.url path []).toOption.getD Web.linkBase

/-- The request for a document under a path, with the query pairs whose value is not empty. -/
def query (t : Tenant) (contentType path : String) (pairs : List (String × String)) : Request :=
  t.request .get ((t.address path).appendPairs (pairs.filter fun p => !p.2.isEmpty)) contentType
    none

theorem Reachable.address {t : Tenant} (reachable : t.Reachable) {path : String}
    (isPath : Web.IsPath path.toList) :
    Url.parse none (t.apiBaseUrl ++ path).toList = .ok (t.address path) ∧
      (t.address path).isWeb = true ∧ (t.address path).query = none := by
  obtain ⟨root, read, web, noQuery⟩ := reachable.root
  rw [String.toList_append] at read
  obtain ⟨u, found, isWeb, empty⟩ := Url.parse_path read web noQuery isPath
  have same : t.address path = u := by
    simp [Tenant.address, Tenant.url, String.toList_append, found, Except.toOption,
      Url.appendPairs]
  rw [same, String.toList_append]
  exact ⟨found, isWeb, empty⟩

theorem Reachable.url {t : Tenant} (reachable : t.Reachable) {path : String}
    (isPath : Web.IsPath path.toList) (pairs : List (String × String)) :
    t.url path pairs =
      .ok ((t.address path).appendPairs (pairs.filter fun p => !p.2.isEmpty)) := by
  simp only [Tenant.url, (reachable.address isPath).1]

theorem Reachable.queryPairs {t : Tenant} (reachable : t.Reachable) {path : String}
    (isPath : Web.IsPath path.toList) (contentType : String) (pairs : List (String × String)) :
    (t.query contentType path pairs).url.queryPairs = pairs.filter fun p => !p.2.isEmpty := by
  have noPairs : (t.address path).queryPairs = [] := by
    rw [Url.queryPairs, (reachable.address isPath).2.2]
    rfl
  rw [Tenant.query, Tenant.request, Url.appendPairs_queryPairs, noPairs, List.nil_append]

theorem Reachable.values {t : Tenant} (reachable : t.Reachable) {path : String}
    (isPath : Web.IsPath path.toList) (contentType : String) (pairs : List (String × String))
    (name : String) :
    (t.query contentType path pairs).values name =
      ((pairs.filter fun p => !p.2.isEmpty).filter fun p => p.1 = name).map (·.2) := by
  rw [Request.values, reachable.queryPairs isPath]

theorem Reachable.sendable {t : Tenant} (reachable : t.Reachable) {path contentType : String}
    (isPath : Web.IsPath path.toList) (plain : Web.Headers.isValue contentType = true)
    (pairs : List (String × String)) :
    ((t.query contentType path pairs).headers.all fun h => Web.Headers.isValue h.2) = true ∧
      (t.query contentType path pairs).url.isWeb = true := by
  have web := (reachable.address isPath).2.1
  constructor
  · have accept : Web.Headers.isValue jsonType = true := by decide
    have agent : Web.Headers.isValue userAgent = true := by decide
    cases token : t.token? with
    | none => simp [query, request, token, accept, agent, plain]
    | some secret =>
      have scheme := isValue_authorization (reachable.token secret token)
      simp [query, request, token, accept, agent, plain, scheme]
  · rw [Tenant.query, Tenant.request, Url.appendPairs_isWeb, web]

end Tenant

def Tenant.acme : Tenant :=
  { domain := "acme.okta.com", apiToken := some "secret", emailDomains := ["acme.com"]
    syncCustomRoles := true }

theorem Tenant.acme_reachable : acme.Reachable where
  token := by
    intro token h
    cases h
    decide
  root := by
    let root : Url :=
      { scheme := "https".toList, host := some (.name "acme.okta.com".toList)
        path := .segments [[]] }
    exact ⟨root, Url.ok_of_toOption (by decide +kernel), by decide, rfl⟩

/-! What calls are made of. -/

namespace Call

theorem bind_ok {c : Call σ ε α} {f : α → Call σ ε β} {session after : Session σ} {a : α}
    (h : c session = (.ok a, after)) : (c >>= f) session = f a after := by
  simp [bind, ExceptT.bind, ExceptT.mk, StateT.bind, ExceptT.bindCont, h]

theorem bind_error {c : Call σ ε α} {f : α → Call σ ε β} {session after : Session σ} {e : ε}
    (h : c session = (.error e, after)) : (c >>= f) session = (.error e, after) := by
  simp only [bind, ExceptT.bind, ExceptT.mk, StateT.bind, h]
  rfl

/-- A sequence that ends well: what its first call gave, and where that left the session. -/
theorem bind_eq_ok {c : Call σ ε α} {f : α → Call σ ε β} {session after : Session σ} {b : β}
    (called : (c >>= f) session = (.ok b, after)) :
    ∃ a between, c session = (.ok a, between) ∧ f a between = (.ok b, after) := by
  cases first : c session with
  | mk result between =>
    cases result with
    | error e =>
      rw [bind_error first] at called
      cases called
    | ok a =>
      rw [bind_ok first] at called
      exact ⟨a, between, rfl, called⟩

theorem within_ok {c : Call σ Failure α} {session after : Session σ} {a : α}
    (h : c session = (.ok a, after)) (operation : String) :
    c.within operation session = (.ok a, after) := by
  simp [within, mapError, h]

theorem within_error {c : Call σ Failure α} {session after : Session σ} {e : Failure}
    (h : c session = (.error e, after)) (operation : String) :
    c.within operation session = (.error (e.context operation), after) := by
  simp [within, mapError, h]

theorem within_eq_ok {c : Call σ Failure α} {operation : String} {session after : Session σ} {a : α}
    (called : c.within operation session = (.ok a, after)) : c session = (.ok a, after) := by
  cases first : c session with
  | mk result between =>
    cases result with
    | error e =>
      rw [within_error first] at called
      cases called
    | ok b =>
      rw [within_ok first] at called
      cases called
      rfl

theorem attempt_eq {c : Call σ ε α} {session after : Session σ} {result : Except ε α}
    (h : c session = (result, after)) :
    (c.attempt : Call σ β (Except ε α)) session = (.ok result, after) := by
  simp [attempt, h]

theorem attempt_ok {c : Call σ ε α} {session after : Session σ} {a : α}
    (h : c session = (.ok a, after)) :
    (c.attempt : Call σ β (Except ε α)) session = (.ok (.ok a), after) := attempt_eq h

theorem ofExcept_ok {r : Except ε α} {a : α} (h : r = .ok a) (session : Session σ) :
    (ofExcept r : Call σ ε α) session = (.ok a, session) := by
  rw [h]
  rfl

theorem ofExcept_bind {r : Except ε α} {a : α} (same : r = .ok a) (f : α → Call σ ε β) :
    (ofExcept r >>= f) = f a :=
  funext fun session => bind_ok (ofExcept_ok same session)

theorem ofExcept_eq_ok {r : Except ε α} {session after : Session σ} {a : α}
    (called : (ofExcept r : Call σ ε α) session = (.ok a, after)) :
    r = .ok a ∧ after = session := by
  cases called
  exact ⟨rfl, rfl⟩

theorem ok_of_toOption {c : Call σ ε α} {session : Session σ} {f : α → β} {b : β}
    (ends : (c session).1.toOption.map f = some b) :
    ∃ a after, c session = (.ok a, after) ∧ f a = b := by
  cases called : c session with
  | mk result after =>
    rw [called] at ends
    cases result with
    | error e => cases ends
    | ok a => exact ⟨a, after, rfl, Option.some.inj ends⟩

theorem map_eq (f : α → β) (c : Call σ ε α) (session : Session σ) :
    (f <$> c) session = ((c session).1.map f, (c session).2) := by
  cases called : c session with
  | mk result after =>
    simp only [Functor.map, ExceptT.map, ExceptT.mk, bind, StateT.bind, called]
    cases result <;> rfl

end Call

def Session.asked (session : Session σ) (r : Request) (service : σ) : Session σ :=
  { session with service, sent := session.sent ++ [r] }

/-- A response in the 200s, and what its body is understood to hold. -/
structure Answer (decode : Json → Option β) where
  response : Response
  content : β
  accepted : 200 ≤ response.status ∧ response.status < 300
  understood : Setting.decodeBody decode response.body = .ok content

namespace Answer

variable {decode : Json → Option β}

def info (a : Answer decode) : ResponseInfo := ⟨a.response.status, a.response.headers⟩

def cursor (a : Answer decode) : String := a.info.nextCursor

def ofResponse (response : Response) (accepted : 200 ≤ response.status ∧ response.status < 300)
    (readable : ((Json.parse? response.body).bind decode).isSome = true) : Answer decode where
  response
  content := ((Json.parse? response.body).bind decode).get readable
  accepted
  understood := by
    obtain ⟨content, read⟩ := Option.isSome_iff_exists.mp readable
    simp only [Setting.decodeBody, read, Option.get_some]

end Answer

namespace Setting

variable {decode : Json → Option β}

theorem decodeBody_eq_ok {body : String} {a : β} :
    decodeBody decode body = .ok a ↔ (Json.parse? body).bind decode = some a := by
  unfold decodeBody
  cases (Json.parse? body).bind decode <;> simp

theorem decodeBody_ok {body : String} {a : β} (h : (Json.parse? body).bind decode = some a) :
    decodeBody decode body = .ok a := decodeBody_eq_ok.mpr h

/-- A document that the service answers with is got by one request. -/
theorem get_answer (s : Setting σ) (reachable : s.tenant.Reachable) {contentType path : String}
    (isPath : Web.IsPath path.toList) (plain : Web.Headers.isValue contentType = true)
    {pairs : List (String × String)} (a : Answer decode) {session : Session σ} {service : σ}
    (answered : s.service (s.tenant.query contentType path pairs) session.service =
      (.response a.response, service)) :
    s.get contentType decode path pairs session =
      (.ok (a.content, a.info), session.asked (s.tenant.query contentType path pairs) service) := by
  obtain ⟨headers, web⟩ := reachable.sendable isPath plain pairs
  have exchanged : s.exchange (s.tenant.query contentType path pairs) session =
      (.ok a.response, session.asked (s.tenant.query contentType path pairs) service) := by
    simp [exchange, headers, web, answered, Session.asked]
  have sent : s.send (s.tenant.query contentType path pairs) session =
      (.ok (a.response.body, a.info),
        session.asked (s.tenant.query contentType path pairs) service) := by
    rw [send, Call.bind_ok exchanged]
    simp only [a.accepted, and_self, if_true]
    rfl
  rw [get, Call.bind_ok (Call.ofExcept_ok (reachable.url isPath pairs) session)]
  refine (Call.bind_ok sent).trans ?_
  dsimp only
  rw [Call.bind_ok (Call.ofExcept_ok a.understood _)]
  rfl

end Setting
end Okta
end AccessCatalog
