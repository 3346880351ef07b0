import AccessCatalog.Json.Writer
import AccessCatalog.Okta.AdminFlags
import AccessCatalog.Okta.Failure
import AccessCatalog.Okta.Tenant

/-! A session with the service: the requests sent so far, and what is kept between calls. Bodies
of single resources are kept for a time under the address they came from, flags of administrators
for good under the user; both outlive a call that fails. -/
namespace AccessCatalog.Okta

open Web (Url Method Request Reply Service)

/-- A body, with the times when it was put in and when it was last given out. -/
structure KeptBody where
  text : String
  since : Nat
  used : Nat
  deriving DecidableEq, Repr

/-- Bodies by address, each for a lifetime in seconds, and shorter where it is not given out for an
idle time. Times are in nanoseconds. -/
structure BodyCache where
  idle : Nat
  life : Nat
  entries : List (String × KeptBody) := []
  deriving DecidableEq, Repr

namespace BodyCache

def second : Nat := 1000000000

def expired (c : BodyCache) (kept : KeptBody) (now : Nat) : Bool :=
  c.life * second ≤ now - kept.since || c.idle * second ≤ now - kept.used

/-- The body under an address at a time, and the cache after it was given out, or dropped as it has
expired. -/
def get (c : BodyCache) (key : String) (now : Nat := 0) : Option String × BodyCache :=
  match Keyed.get? key c.entries with
  | none => (none, c)
  | some kept =>
    if c.expired kept now then (none, { c with entries := Keyed.erase key c.entries })
    else (some kept.text,
      { c with entries := Keyed.insert key { kept with used := now } c.entries })

def insert (c : BodyCache) (key body : String) (now : Nat := 0) : BodyCache :=
  { c with entries := Keyed.insert key ⟨body, now, now⟩ c.entries }

def remove (c : BodyCache) (key : String) : BodyCache :=
  { c with entries := Keyed.erase key c.entries }

end BodyCache

structure Session (σ : Type) where
  service : σ
  /-- The requests that reached the service, in order. -/
  sent : List Request := []
  bodies : Option BodyCache
  /-- How often the clock was read. -/
  readings : Nat := 0
  flags : FlagCache := {}

namespace Session

variable {σ : Type}

def start (t : Tenant) (service : σ) : Session σ :=
  { service
    bodies := if t.caching then some { idle := t.cacheIdle, life := t.cacheLife } else none }

end Session

/-- What a call works with: the tenant, the service, the date, random draws, and a clock, of which
every reading has its time. -/
structure Setting (σ : Type) where
  tenant : Tenant
  service : Service σ
  now : Instant
  draws : Nat → Nat
  clock : Nat → Nat := fun _ => 0

/-- A call that may fail; the session goes on from where the failure left it. -/
abbrev Call (σ ε α : Type) := ExceptT ε (StateM (Session σ)) α

namespace Call

variable {σ ε ε' α : Type}

def ofExcept (r : Except ε α) : Call σ ε α := fun session => (r, session)

/-- The same call, its failure seen as another one. -/
def mapError (f : ε → ε') (c : Call σ ε α) : Call σ ε' α := fun session =>
  match c session with
  | (.ok a, session) => (.ok a, session)
  | (.error e, session) => (.error (f e), session)

/-- The same call, its failure handed on as a value. -/
def attempt (c : Call σ ε α) : Call σ ε' (Except ε α) := fun session =>
  match c session with
  | (r, session) => (.ok r, session)

/-- Names the operation that a failure belongs to. -/
def within (operation : String) (c : Call σ Failure α) : Call σ Fault α :=
  c.mapError (·.context operation)

end Call

structure ResponseInfo where
  status : Nat
  headers : Web.Headers

namespace ResponseInfo

/-- What stands for the response when a body was kept. -/
def kept : ResponseInfo := ⟨200, []⟩

def nextCursor (i : ResponseInfo) : String := Web.nextCursor i.headers
def rateLimit? (i : ResponseInfo) : Option RateLimit := Okta.rateLimit? i.headers

def annotations (i : ResponseInfo) : Annotations :=
  match i.rateLimit? with
  | some r => Annotations.empty.update (.rateLimit r)
  | none => .empty

end ResponseInfo

def jsonType : String := "application/json"

def withoutCredentialsType : String :=
  "application/json; okta-response=" ++
    "\"omitCredentials,omitCredentialsLinks,omitTransitioningToStatus\""

def userAgent : String := "idsync-connector-okta/0.1.0"

namespace Tenant

/-- The address of a path, with the query pairs whose value is not empty. -/
def url (t : Tenant) (path : String) (query : List (String × String)) : Except Failure Url :=
  match Url.parse none (t.apiBaseUrl ++ path).toList with
  | .ok url => .ok (url.appendPairs (query.filter fun p => !p.2.isEmpty))
  | .error e => .error (.url e)

def request (t : Tenant) (method : Method) (url : Url) (contentType : String)
    (body : Option Json) : Request :=
  let authorization := match t.token? with
    | some token => [("authorization", "SSWS " ++ token)]
    | none => []
  { method, url
    headers := [("accept", jsonType), ("content-type", contentType), ("user-agent", userAgent)] ++
      authorization
    body := body.map fun v => String.ofList v.write }

end Tenant

namespace Setting

variable {σ α : Type}

/-- Sends a request and waits for the response. A header that cannot be written, or an address
outside the web, is noticed before anything is sent. -/
def exchange (s : Setting σ) (r : Request) : Call σ Failure Web.Response := fun session =>
  if r.headers.all (fun h => Web.Headers.isValue h.2) && r.url.isWeb then
    let (reply, service) := s.service r session.service
    match reply with
    | .response response => (.ok response, { session with service, sent := session.sent ++ [r] })
    | .dropped =>
      (.error (.http "connection closed"), { session with service, sent := session.sent ++ [r] })
    | .unreachable => (.error (.http "no connection"), { session with service })
  else (.error (.http "request cannot be built"), session)

/-- The body of a response in the 200s. -/
def send (s : Setting σ) (r : Request) : Call σ Failure (String × ResponseInfo) := do
  let response ← s.exchange r
  let info : ResponseInfo := ⟨response.status, response.headers⟩
  if 200 ≤ response.status ∧ response.status < 300 then pure (response.body, info)
  else throw (.api response.status (ApiError.parse response.status response.body) info.rateLimit?)

def decodeBody (decode : Json → Option α) (body : String) : Except Failure α :=
  match (Json.parse? body).bind decode with
  | some a => .ok a
  | none => .error .json

/-- Gets a document, for instance a page of a listing. -/
def get (s : Setting σ) (contentType : String) (decode : Json → Option α) (path : String)
    (query : List (String × String)) : Call σ Failure (α × ResponseInfo) := do
  let url ← Call.ofExcept (s.tenant.url path query)
  let (body, info) ← s.send (s.tenant.request .get url contentType none)
  pure (← Call.ofExcept (decodeBody decode body), info)

/-- What the clock shows when it is read next. -/
def time (s : Setting σ) (session : Session σ) : Nat := s.clock session.readings

/-- The kept body of an address; one that has expired is dropped. -/
def keptBody (s : Setting σ) (key : String) : Call σ Failure (Option String) := fun session =>
  match session.bodies with
  | none => (.ok none, session)
  | some cache =>
    let (body, cache) := cache.get key (s.time session)
    (.ok body, { session with bodies := some cache, readings := session.readings + 1 })

def keepBody (s : Setting σ) (key body : String) : Call σ Failure Unit := fun session =>
  match session.bodies with
  | none => (.ok (), session)
  | some cache =>
    let cache := cache.insert key body (s.time session)
    (.ok (), { session with bodies := some cache, readings := session.readings + 1 })

/-- Gets a single resource, from its kept body if there is one. A body is kept once it has been
understood. -/
def getKept (s : Setting σ) (contentType : String) (decode : Json → Option α) (path : String) :
    Call σ Failure (α × ResponseInfo) := do
  let url ← Call.ofExcept (s.tenant.url path [])
  let key := String.ofList url.text
  match ← s.keptBody key with
  | some body => pure (← Call.ofExcept (decodeBody decode body), .kept)
  | none =>
    let (body, info) ← s.send (s.tenant.request .get url contentType none)
    let a ← Call.ofExcept (decodeBody decode body)
    s.keepBody key body
    pure (a, info)

def post (s : Setting σ) (decode : Json → Option α) (path : String)
    (query : List (String × String)) (body : Json) : Call σ Failure (α × ResponseInfo) := do
  let url ← Call.ofExcept (s.tenant.url path query)
  let (body, info) ← s.send (s.tenant.request .post url jsonType (some body))
  pure (← Call.ofExcept (decodeBody decode body), info)

/-- Sends a request without a body, of whose response only the headers count. -/
def perform (s : Setting σ) (method : Method) (path : String) : Call σ Failure ResponseInfo := do
  let url ← Call.ofExcept (s.tenant.url path [])
  let (_, info) ← s.send (s.tenant.request method url jsonType none)
  pure info

/-- Drops the body kept for a path, if there is one. -/
def forget {ε : Type} (s : Setting σ) (path : String) : Call σ ε Unit := fun session =>
  match s.tenant.url path [] with
  | .ok url =>
    let key := String.ofList url.text
    (.ok (), { session with bodies := session.bodies.map (·.remove key) })
  | .error _ => (.ok (), session)

end Setting
end AccessCatalog.Okta
