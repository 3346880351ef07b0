import AccessCatalog.Okta.Groups
import AccessCatalog.Proofs.Okta.Calls

/-! What passes between a tenant and its service. Whether a document can be asked for depends on
the tenant alone. Where it can be, the call sends one request, and the reply alone decides what
comes of it. -/
namespace AccessCatalog

namespace Web

abbrev Log := List (Request × Reply)

/-- The same service, with a log of what it is asked and what it replies. -/
def logged {σ : Type} (service : Service σ) : Service (σ × Log) := fun r state =>
  let (reply, next) := service r state.1
  (reply, next, state.2 ++ [(r, reply)])

end Web

namespace Okta

open Web (Url Method Request Reply Response Service Log)

variable {σ α β ε : Type}

def Setting.logged (s : Setting σ) : Setting (σ × Log) :=
  { tenant := s.tenant, service := Web.logged s.service, now := s.now, draws := s.draws
    clock := s.clock }

/-! One request. -/

/-- Whether a request can be written and goes over the web. -/
def Sendable (r : Request) : Prop :=
  (r.headers.all fun h => Web.Headers.isValue h.2) = true ∧ r.url.isWeb = true

def received : Reply → Except Failure Response
  | .response r => .ok r
  | .dropped => .error (.http "connection closed")
  | .unreachable => .error (.http "no connection")

def Session.heard (session : Session σ) (r : Request) (heard : Reply × σ) : Session σ :=
  { session with
    service := heard.2
    sent := session.sent ++ match heard.1 with
      | .unreachable => []
      | _ => [r] }

/-- The body of a response in the 200s, and the failure that any other one is. -/
def accepted (response : Response) : Except Failure (String × ResponseInfo) :=
  let info : ResponseInfo := ⟨response.status, response.headers⟩
  if 200 ≤ response.status ∧ response.status < 300 then .ok (response.body, info)
  else .error (.api response.status (ApiError.parse response.status response.body) info.rateLimit?)

/-- What a reply holds for a call that wants a document. -/
def document (decode : Json → Option α) (reply : Reply) : Except Failure (α × ResponseInfo) := do
  let response ← received reply
  let (body, info) ← accepted response
  let a ← Setting.decodeBody decode body
  pure (a, info)

theorem document_answer {decode : Json → Option α} (a : Answer decode) :
    document decode (.response a.response) = .ok (a.content, a.info) := by
  simp only [document, received, accepted, a.accepted, and_self, if_true, bind, Except.bind,
    a.understood]
  rfl

namespace Setting

variable (s : Setting σ)

theorem exchange_sendable {r : Request} (sendable : Sendable r) (session : Session σ) :
    s.exchange r session = (received (s.service r session.service).1,
      session.heard r (s.service r session.service)) := by
  obtain ⟨headers, web⟩ := sendable
  rw [exchange, if_pos (by rw [headers, web, Bool.and_self])]
  generalize s.service r session.service = heard
  obtain ⟨reply, next⟩ := heard
  cases reply with
  | response response => rfl
  | dropped => rfl
  | unreachable => simp [Session.heard, received]

theorem exchange_unsendable {r : Request} (unsendable : ¬Sendable r) (session : Session σ) :
    s.exchange r session = (.error (.http "request cannot be built"), session) := by
  have off : ((r.headers.all fun h => Web.Headers.isValue h.2) && r.url.isWeb) ≠ true := by
    rw [ne_eq, Bool.and_eq_true]
    exact unsendable
  rw [exchange, if_neg off]

theorem send_sendable {r : Request} (sendable : Sendable r) (session : Session σ) :
    s.send r session = ((received (s.service r session.service).1).bind accepted,
      session.heard r (s.service r session.service)) := by
  unfold send
  cases got : received (s.service r session.service).1 with
  | error e =>
    have failed := s.exchange_sendable sendable session
    rw [got] at failed
    exact Call.bind_error failed
  | ok response =>
    have exchanged := s.exchange_sendable sendable session
    rw [got] at exchanged
    rw [Call.bind_ok exchanged]
    by_cases inRange : 200 ≤ response.status ∧ response.status < 300
    · simp only [inRange, and_self, if_true, Except.bind, accepted]
      rfl
    · simp only [Except.bind, accepted, if_neg inRange]
      rfl

theorem send_unsendable {r : Request} (unsendable : ¬Sendable r) (session : Session σ) :
    s.send r session = (.error (.http "request cannot be built"), session) :=
  Call.bind_error (s.exchange_unsendable unsendable session)

end Setting

/-! Documents. -/

/-- Whether a document can be asked for: its address is one, and the request can be sent. -/
def Tenant.CanAsk (t : Tenant) (contentType path : String) (pairs : List (String × String)) :
    Prop :=
  (∃ url, t.url path pairs = .ok url) ∧ Sendable (t.query contentType path pairs)

theorem Tenant.url_eq {t : Tenant} {path : String} {pairs : List (String × String)} {url : Url}
    (found : t.url path pairs = .ok url) :
    url = (t.address path).appendPairs (pairs.filter fun p => !p.2.isEmpty) := by
  unfold Tenant.url at found
  split at found
  · rename_i u read
    have root : t.address path = u := by
      rw [Tenant.address, Tenant.url, read]
      rfl
    rw [root]
    exact (Except.ok.inj found).symm
  · contradiction

theorem Tenant.address_eq {t : Tenant} {path : String} {url : Url}
    (found : t.url path [] = .ok url) : t.address path = url := by
  rw [Tenant.address, found]
  rfl

theorem Tenant.address_parsed {t : Tenant} {path : String} {pairs : List (String × String)}
    {url : Url} (found : t.url path pairs = .ok url) :
    Url.parse none (t.apiBaseUrl.toList ++ path.toList) = .ok (t.address path) := by
  unfold Tenant.url at found
  rw [Tenant.address, Tenant.url, ← String.toList_append]
  split at found
  · rename_i read
    rw [read]
    rfl
  · cases found

theorem Tenant.parse_of_url {t : Tenant} {path : String} {url : Url}
    (found : t.url path [] = .ok url) :
    Url.parse none (t.apiBaseUrl.toList ++ path.toList) = .ok url := by
  have read := Tenant.address_parsed found
  rwa [Tenant.address_eq found] at read

theorem Tenant.request_eq {t : Tenant} {contentType path : String}
    {pairs : List (String × String)} {url : Url} (found : t.url path pairs = .ok url) :
    t.request .get url contentType none = t.query contentType path pairs := by
  rw [Tenant.url_eq found]
  rfl

theorem Tenant.Reachable.canAsk {t : Tenant} (reachable : t.Reachable)
    {contentType path : String} (isPath : Web.IsPath path.toList)
    (plain : Web.Headers.isValue contentType = true) (pairs : List (String × String)) :
    t.CanAsk contentType path pairs :=
  ⟨⟨_, reachable.url isPath pairs⟩, reachable.sendable isPath plain pairs⟩

namespace Setting

variable (s : Setting σ) (decode : Json → Option α) {contentType path : String}
  {pairs : List (String × String)}

/-- Of a request that is sent, the reply alone decides which document it gives. -/
theorem send_document {r : Request} (sendable : Sendable r) (session : Session σ) :
    (do
      let (body, info) ← s.send r
      pure (← Call.ofExcept (decodeBody decode body), info) : Call σ Failure (α × ResponseInfo))
        session =
      (document decode (s.service r session.service).1,
        session.heard r (s.service r session.service)) := by
  have sent := s.send_sendable sendable session
  unfold document
  cases got : received (s.service r session.service).1 with
  | error e =>
    rw [got] at sent
    exact Call.bind_error sent
  | ok response =>
    rw [got] at sent
    cases taken : accepted response with
    | error e =>
      simp only [Except.bind, taken] at sent
      simp only [bind, Except.bind, taken]
      exact Call.bind_error sent
    | ok body =>
      simp only [Except.bind, taken] at sent
      simp only [bind, Except.bind, taken]
      refine (Call.bind_ok sent).trans ?_
      cases decodeBody decode body.1 <;> rfl

theorem get_asked (can : s.tenant.CanAsk contentType path pairs) (session : Session σ) :
    s.get contentType decode path pairs session =
      (document decode (s.service (s.tenant.query contentType path pairs) session.service).1,
        session.heard (s.tenant.query contentType path pairs)
          (s.service (s.tenant.query contentType path pairs) session.service)) := by
  obtain ⟨⟨url, found⟩, sendable⟩ := can
  rw [get, Call.bind_ok (Call.ofExcept_ok found session), Tenant.request_eq found]
  exact s.send_document decode sendable session

theorem post_asked {url : Url} (found : s.tenant.url path pairs = .ok url) {body : Json}
    (sendable : Sendable (s.tenant.request .post url jsonType (some body)))
    (session : Session σ) :
    s.post decode path pairs body session =
      (document decode
          (s.service (s.tenant.request .post url jsonType (some body)) session.service).1,
        session.heard (s.tenant.request .post url jsonType (some body))
          (s.service (s.tenant.request .post url jsonType (some body)) session.service)) := by
  rw [post, Call.bind_ok (Call.ofExcept_ok found session)]
  exact s.send_document decode sendable session

theorem get_unasked (cannot : ¬s.tenant.CanAsk contentType path pairs) :
    ∃ failure : Failure, failure.errorClass = .unclassified ∧ ∀ session : Session σ,
      s.get contentType decode path pairs session = (.error failure, session) := by
  cases found : s.tenant.url path pairs with
  | error e =>
    refine ⟨e, ?_, fun session => ?_⟩
    · unfold Tenant.url at found
      split at found
      · contradiction
      · cases found
        rfl
    · rw [get]
      refine Call.bind_error ?_
      rw [Call.ofExcept, found]
  | ok url =>
    have unsendable : ¬Sendable (s.tenant.query contentType path pairs) :=
      fun sendable => cannot ⟨⟨url, found⟩, sendable⟩
    refine ⟨.http "request cannot be built", rfl, fun session => ?_⟩
    rw [get, Call.bind_ok (Call.ofExcept_ok found session),
      Tenant.request_eq found]
    exact Call.bind_error (s.send_unsendable unsendable session)

/-- A document that was got came as the reply to one request. -/
theorem get_eq_ok {session after : Session σ} {a : α} {info : ResponseInfo}
    (called : s.get contentType decode path pairs session = (.ok (a, info), after)) :
    s.tenant.CanAsk contentType path pairs ∧
      document decode (s.service (s.tenant.query contentType path pairs) session.service).1 =
        .ok (a, info) ∧
      after = session.heard (s.tenant.query contentType path pairs)
        (s.service (s.tenant.query contentType path pairs) session.service) := by
  by_cases can : s.tenant.CanAsk contentType path pairs
  · rw [s.get_asked decode can] at called
    obtain ⟨read, same⟩ := Prod.mk.inj called
    exact ⟨can, read, same.symm⟩
  · obtain ⟨failure, _, refused⟩ := s.get_unasked decode can
    rw [refused] at called
    cases called

end Setting

/-! Documents that may be kept. -/

theorem Setting.keepBody_done (s : Setting σ) (key body : String) (session : Session σ) :
    ∃ after, s.keepBody key body session = (.ok (), after) ∧ after.service = session.service := by
  unfold keepBody
  cases session.bodies with
  | none => exact ⟨session, rfl, rfl⟩
  | some cache => exact ⟨_, rfl, rfl⟩

/-- A document reaches a look-up of a path: its body is kept, or the service answers with it. -/
inductive Supplied (s : Setting σ) (contentType : String) (decode : Json → Option α)
    (path : String) (session : Session σ) : α → Prop where
  | kept {url : Url} {body : String} {a : α} {after : Session σ} :
    s.tenant.url path [] = .ok url →
      s.keptBody (String.ofList url.text) session = (.ok (some body), after) →
      Setting.decodeBody decode body = .ok a → Supplied s contentType decode path session a
  | fetched {url : Url} {between : Session σ} (a : Answer decode) :
    s.tenant.url path [] = .ok url →
      s.keptBody (String.ofList url.text) session = (.ok none, between) →
      Sendable (s.tenant.query contentType path []) →
      (s.service (s.tenant.query contentType path []) between.service).1 = .response a.response →
      Supplied s contentType decode path session a.content

namespace Supplied

variable {s : Setting σ} {contentType path : String} {decode : Json → Option α}
  {session : Session σ} {a : α}

theorem understood (supplied : Supplied s contentType decode path session a) :
    ∃ body, Setting.decodeBody decode body = .ok a := by
  cases supplied with
  | kept _ _ read => exact ⟨_, read⟩
  | fetched answer _ _ _ _ => exact ⟨_, answer.understood⟩

theorem getKept (supplied : Supplied s contentType decode path session a) :
    ∃ info after, s.getKept contentType decode path session = (.ok (a, info), after) := by
  cases supplied with
  | @kept url body _ after found kept read =>
    refine ⟨.kept, after, ?_⟩
    rw [Setting.getKept, Call.bind_ok (Call.ofExcept_ok found session)]
    dsimp only
    rw [Call.bind_ok kept]
    dsimp only
    rw [Call.bind_ok (Call.ofExcept_ok read _)]
    rfl
  | @fetched url between answer found missing sendable answered =>
    have sent := s.send_sendable sendable between
    rw [answered] at sent
    simp only [received, Except.bind, accepted, answer.accepted, and_self, if_true] at sent
    let heard := between.heard (s.tenant.query contentType path [])
      (s.service (s.tenant.query contentType path []) between.service)
    obtain ⟨after, done, _⟩ := s.keepBody_done (String.ofList url.text) answer.response.body heard
    refine ⟨answer.info, after, ?_⟩
    rw [Setting.getKept, Call.bind_ok (Call.ofExcept_ok found session)]
    dsimp only
    rw [Call.bind_ok missing, Tenant.request_eq found]
    dsimp only
    refine (Call.bind_ok sent).trans ?_
    dsimp only
    rw [Call.bind_ok (Call.ofExcept_ok answer.understood _), Call.bind_ok done]
    rfl

end Supplied

end Okta
end AccessCatalog
