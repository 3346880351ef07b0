import AccessCatalog.Proofs.Okta.Addressing

/-! What single calls do with the bodies that a session keeps. A body is given out while neither its
life nor its time without use is over, and one that has expired is gone. A look-up takes the body
kept for its address, or asks once and keeps what it understood of the answer. A change of
membership asks once, and drops the body kept for the group only where it succeeds. -/
namespace AccessCatalog

/-- Whether a response is in the 200s. -/
def Web.Response.Succeeds (r : Web.Response) : Prop := 200 ≤ r.status ∧ r.status < 300

instance : DecidablePred Web.Response.Succeeds := fun _ => inferInstanceAs (Decidable (_ ∧ _))

namespace Okta

open Web (Url Method Request Reply Response Service)

variable {σ α : Type}

/-! Kept bodies. -/

namespace BodyCache

variable {cache : BodyCache} {kept : KeptBody} {key other body : String} {now later : Nat}

theorem not_expired : cache.expired kept now = false ↔
    now - kept.since < cache.life * second ∧ now - kept.used < cache.idle * second := by
  simp [expired]

/-- What has expired stays so. -/
theorem expired_later (order : now ≤ later) (ended : cache.expired kept now = true) :
    cache.expired kept later = true := by
  simp only [expired, Bool.or_eq_true, decide_eq_true_eq] at ended ⊢
  omega

theorem get_missing (missing : Keyed.get? key cache.entries = none) :
    cache.get key now = (none, cache) := by
  rw [get, missing]

theorem get_expired (found : Keyed.get? key cache.entries = some kept)
    (ended : cache.expired kept now = true) : cache.get key now = (none, cache.remove key) := by
  rw [get, found]
  exact if_pos ended

theorem get_fresh (found : Keyed.get? key cache.entries = some kept)
    (fresh : cache.expired kept now = false) : cache.get key now =
      (some kept.text,
        { cache with entries := Keyed.insert key { kept with used := now } cache.entries }) := by
  rw [get, found]
  exact if_neg (Bool.eq_false_iff.mp fresh)

/-- A body is given out within its lifetime, as long as it was never idle for too long. -/
theorem get_eq_some : (cache.get key now).1 = some body ↔
    ∃ kept, Keyed.get? key cache.entries = some kept ∧ kept.text = body ∧
      now - kept.since < cache.life * second ∧ now - kept.used < cache.idle * second := by
  cases found : Keyed.get? key cache.entries with
  | none => simp [get_missing found]
  | some kept =>
    simp only [Option.some.injEq, exists_eq_left', ← not_expired]
    cases ended : cache.expired kept now with
    | true => simp [get_expired found ended]
    | false => simp [get_fresh found ended]

/-- A body that is missing is no later there, and no other one is touched by the search for it. -/
theorem get_after_missing (missing : (cache.get key now).1 = none) (order : now ≤ later) :
    ((cache.get key now).2.get other later).1 = (cache.get other later).1 := by
  cases found : Keyed.get? key cache.entries with
  | none => rw [get_missing found]
  | some kept =>
    cases ended : cache.expired kept now with
    | false =>
      rw [get_fresh found ended] at missing
      cases missing
    | true =>
      rw [get_expired found ended]
      refine Option.ext fun body => ?_
      rw [get_eq_some, get_eq_some]
      by_cases same : other = key
      · have stays := expired_later order ended
        simp [remove, Keyed.get?_erase, same, found, ← not_expired, stays]
      · simp [remove, Keyed.get?_erase, same]

/-- What is put in is given out again until one of its times is over. -/
theorem get_insert : ((cache.insert key body now).get other later).1 =
    if other = key then
      if later - now < cache.life * second ∧ later - now < cache.idle * second then some body
      else none
    else (cache.get other later).1 := by
  refine Option.ext fun text => ?_
  rw [get_eq_some]
  simp only [insert, Keyed.get?_insert]
  by_cases same : other = key
  · simp [same, and_comm]
  · rw [if_neg same, if_neg same, get_eq_some]

end BodyCache

/-- Whether no body expires between two readings of a clock, each entry having its times from it. -/
structure BodyCache.Lasting (cache : BodyCache) (clock : Nat → Nat) : Prop where
  outlasts : ∀ m n,
    clock n - clock m < cache.life * second ∧ clock n - clock m < cache.idle * second
  timed : ∀ key kept, Keyed.get? key cache.entries = some kept →
    ∃ m n, kept.since = clock m ∧ kept.used = clock n

namespace BodyCache.Lasting

variable {cache : BodyCache} {clock : Nat → Nat} (lasting : cache.Lasting clock) {key : String}

include lasting

theorem fresh {kept : KeptBody} (found : Keyed.get? key cache.entries = some kept) (n : Nat) :
    cache.expired kept (clock n) = false := by
  obtain ⟨since, used, isSince, isUsed⟩ := lasting.timed key kept found
  rw [not_expired, isSince, isUsed]
  exact ⟨(lasting.outlasts since n).1, (lasting.outlasts used n).2⟩

theorem put (key : String) {kept : KeptBody}
    (timed : ∃ m n, kept.since = clock m ∧ kept.used = clock n) :
    Lasting { cache with entries := Keyed.insert key kept cache.entries } clock where
  outlasts := lasting.outlasts
  timed other found isFound := by
    rw [Keyed.get?_insert] at isFound
    split at isFound
    · cases isFound
      exact timed
    · exact lasting.timed other found isFound

/-- A body that is stored is given out, and the search for one leaves all that are stored. -/
theorem get (key : String) (n : Nat) :
    (cache.get key (clock n)).1 = (Keyed.get? key cache.entries).map (·.text) ∧
      (cache.get key (clock n)).2.Lasting clock ∧
      ∀ other, (Keyed.get? other (cache.get key (clock n)).2.entries).map (·.text) =
        (Keyed.get? other cache.entries).map (·.text) := by
  cases found : Keyed.get? key cache.entries with
  | none =>
    rw [get_missing found]
    exact ⟨rfl, lasting, fun _ => rfl⟩
  | some kept =>
    rw [get_fresh found (lasting.fresh found n)]
    obtain ⟨since, _, isSince, _⟩ := lasting.timed key kept found
    refine ⟨rfl, lasting.put key ⟨since, n, isSince, rfl⟩, fun other => ?_⟩
    rw [Keyed.get?_insert]
    split
    · rename_i same
      rw [same, found, Option.map_some, Option.map_some]
    · rfl

theorem remove (key : String) : (cache.remove key).Lasting clock where
  outlasts := lasting.outlasts
  timed other found isFound := by
    rw [BodyCache.remove, Keyed.get?_erase] at isFound
    split at isFound
    · cases isFound
    · exact lasting.timed other found isFound

end BodyCache.Lasting

namespace Session

variable (session : Session σ) (now : Nat) (url other : Url) (body : String)

/-- The session after the clock was read, for what is done with its bodies. -/
def clocked (f : BodyCache → BodyCache) : Session σ :=
  match session.bodies with
  | none => session
  | some cache => { session with bodies := some (f cache), readings := session.readings + 1 }

/-- The session after a body was looked for, one that has expired being gone. -/
def looked : Session σ :=
  session.clocked fun cache => (cache.get (String.ofList url.text) now).2

def withBody : Session σ :=
  session.clocked fun cache => cache.insert (String.ofList url.text) body now

def keeping : Option String → Session σ
  | some body => session.withBody now url body
  | none => session

def without : Session σ :=
  { session with bodies := session.bodies.map (·.remove (String.ofList url.text)) }

/-- The session once the body kept for an address is dropped, if it is one. -/
def dropping : Except Failure Url → Session σ
  | .ok url => session.without url
  | .error _ => session

/-- The body put in under an address last, whether it has expired or not. -/
def stored : Option String :=
  session.bodies.bind fun cache =>
    (Keyed.get? (String.ofList url.text) cache.entries).map (·.text)

theorem keyed {url other : Url} :
    String.ofList other.text = String.ofList url.text ↔ other.text = url.text :=
  ⟨fun same => by simpa using congrArg String.toList same, congrArg String.ofList⟩

theorem stored_congr {url other : Url} (same : other.text = url.text) :
    session.stored other = session.stored url := by
  rw [stored, stored, same]

section Some

variable {session : Session σ} {cache : BodyCache} (bodies : session.bodies = some cache)

include bodies

theorem clocked_of_some (f : BodyCache → BodyCache) : session.clocked f =
    { session with bodies := some (f cache), readings := session.readings + 1 } := by
  rw [clocked, bodies]

theorem keptUnder_of_some :
    session.keptUnder now url = (cache.get (String.ofList url.text) now).1 := by
  rw [keptUnder, bodies, Option.bind_some]

theorem stored_of_some : session.stored url =
    (Keyed.get? (String.ofList url.text) cache.entries).map (·.text) := by
  rw [stored, bodies, Option.bind_some]

end Some

section Nothing

/-! Where no bodies are kept, none are looked for, put in or dropped. -/

variable {session : Session σ} (bodies : session.bodies = none)

include bodies

theorem keptUnder_of_none : session.keptUnder now url = none := by
  rw [keptUnder, bodies, Option.bind_none]

theorem stored_of_none : session.stored url = none := by
  rw [stored, bodies, Option.bind_none]

theorem clocked_of_none (f : BodyCache → BodyCache) : session.clocked f = session := by
  rw [clocked, bodies]

theorem looked_of_none : session.looked now url = session := clocked_of_none bodies _

theorem keeping_of_none (kept : Option String) : session.keeping now url kept = session := by
  cases kept with
  | none => rfl
  | some body => exact clocked_of_none bodies _

theorem dropping_of_none (target : Except Failure Url) : session.dropping target = session := by
  obtain ⟨service, sent, _, readings, flags⟩ := session
  cases bodies
  cases target <;> rfl

end Nothing

theorem clocked_service (f : BodyCache → BodyCache) :
    (session.clocked f).service = session.service := by
  unfold clocked
  split <;> rfl

@[simp]
theorem looked_service : (session.looked now url).service = session.service :=
  session.clocked_service _

@[simp]
theorem keeping_service (kept : Option String) :
    (session.keeping now url kept).service = session.service := by
  cases kept with
  | none => rfl
  | some body => exact session.clocked_service _

@[simp]
theorem dropping_service (target : Except Failure Url) :
    (session.dropping target).service = session.service := by
  cases target <;> rfl

/-! What is given out of the bodies. -/

/-- Where a body is missing, the search for it changes nothing for any later one. -/
theorem keptUnder_looked {session : Session σ} {now later : Nat}
    (missing : session.keptUnder now url = none) (order : now ≤ later) :
    (session.looked now url).keptUnder later other = session.keptUnder later other := by
  cases bodies : session.bodies with
  | none => rw [looked_of_none now url bodies]
  | some cache =>
    rw [keptUnder_of_some now url bodies] at missing
    rw [looked, clocked_of_some bodies, keptUnder_of_some later other rfl,
      keptUnder_of_some later other bodies]
    exact BodyCache.get_after_missing missing order

/-- Where bodies are kept, one is found under the address it was put under last, within its
times. -/
theorem keptUnder_withBody {session : Session σ} {cache : BodyCache} {now later : Nat}
    (bodies : session.bodies = some cache) : (session.withBody now url body).keptUnder later other =
      if other.text = url.text then
        if later - now < cache.life * BodyCache.second ∧
            later - now < cache.idle * BodyCache.second then some body
        else none
      else session.keptUnder later other := by
  rw [withBody, clocked_of_some bodies, keptUnder_of_some later other rfl,
    BodyCache.get_insert, keptUnder_of_some later other bodies]
  simp only [keyed]

/-! What is stored. -/

theorem stored_of_keptUnder {session : Session σ} {now : Nat} {url : Url} {body : String}
    (kept : session.keptUnder now url = some body) : session.stored url = some body := by
  cases bodies : session.bodies with
  | none =>
    rw [keptUnder_of_none now url bodies] at kept
    cases kept
  | some cache =>
    rw [keptUnder_of_some now url bodies] at kept
    obtain ⟨found, isFound, rfl, _⟩ := BodyCache.get_eq_some.mp kept
    rw [stored_of_some url bodies, isFound, Option.map_some]

theorem stored_looked {session : Session σ} {now : Nat} {url other : Url} {body : String}
    (found : (session.looked now url).stored other = some body) :
    session.stored other = some body := by
  cases bodies : session.bodies with
  | none => rwa [looked_of_none now url bodies] at found
  | some cache =>
    rw [looked, clocked_of_some bodies, stored_of_some other rfl] at found
    rw [stored_of_some other bodies, ← found]
    cases isKept : Keyed.get? (String.ofList url.text) cache.entries with
    | none => rw [BodyCache.get_missing isKept]
    | some kept =>
      cases ended : cache.expired kept now with
      | false =>
        rw [BodyCache.get_fresh isKept ended, Keyed.get?_insert]
        split
        · rename_i same
          rw [same, isKept, Option.map_some, Option.map_some]
        · rfl
      | true =>
        rw [BodyCache.get_expired isKept ended, BodyCache.remove, Keyed.get?_erase] at found ⊢
        split at found
        · cases found
        · rename_i apart
          rw [if_neg apart]

theorem stored_withBody {cache : BodyCache} (bodies : session.bodies = some cache) :
    (session.withBody now url body).stored other =
      if other.text = url.text then some body else session.stored other := by
  rw [withBody, clocked_of_some bodies, stored_of_some other rfl, BodyCache.insert,
    Keyed.get?_insert, stored_of_some other bodies]
  simp only [keyed]
  split <;> rfl

theorem stored_keeping {session : Session σ} {now : Nat} {url other : Url} {body : String}
    {kept : Option String} (found : (session.keeping now url kept).stored other = some body) :
    other.text = url.text ∧ kept = some body ∨ session.stored other = some body := by
  cases bodies : session.bodies with
  | none =>
    rw [keeping_of_none now url bodies] at found
    exact .inr found
  | some cache =>
    cases kept with
    | none => exact .inr found
    | some new =>
      rw [keeping, stored_withBody session now url other new bodies] at found
      split at found
      · rename_i same
        exact .inl ⟨same, found⟩
      · exact .inr found

theorem stored_without : (session.without url).stored other =
    if other.text = url.text then none else session.stored other := by
  cases bodies : session.bodies with
  | none =>
    have left : (session.without url).bodies = none := by rw [without, bodies, Option.map_none]
    rw [stored_of_none other left, stored_of_none other bodies, ite_self]
  | some cache =>
    have left : (session.without url).bodies =
        some (cache.remove (String.ofList url.text)) := by
      rw [without, bodies, Option.map_some]
    rw [stored_of_some other left, stored_of_some other bodies, BodyCache.remove,
      Keyed.get?_erase]
    simp only [keyed]
    split <;> rfl

theorem stored_dropping {target : Except Failure Url} :
    (session.dropping target).stored other = some body ↔
      (∀ url, target = .ok url → other.text ≠ url.text) ∧
        session.stored other = some body := by
  cases target with
  | error e => simp [dropping]
  | ok url => simp [dropping, stored_without]

theorem start_stored (t : Tenant) (service : σ) : (start t service).stored url = none := by
  unfold start stored
  split <;> rfl

/-- Whether bodies are kept, and for good. -/
def Keeps (s : Setting σ) (session : Session σ) : Prop :=
  ∃ cache, session.bodies = some cache ∧ cache.Lasting s.clock

end Session

/-- Whether the lifetimes of bodies outlast the clock: no two readings lie as far apart. -/
def Setting.NeverExpires (s : Setting σ) : Prop :=
  ∀ m n, s.clock n - s.clock m < s.tenant.cacheLife * BodyCache.second ∧
    s.clock n - s.clock m < s.tenant.cacheIdle * BodyCache.second

theorem Session.start_keeps {s : Setting σ} (caching : s.tenant.caching = true)
    (never : s.NeverExpires) (service : σ) : (start s.tenant service).Keeps s := by
  refine ⟨{ idle := s.tenant.cacheIdle, life := s.tenant.cacheLife }, ?_, never, ?_⟩
  · rw [start, if_pos caching]
  · intro key kept found
    cases found

namespace Session.Keeps

variable {s : Setting σ} {session : Session σ} (keeps : session.Keeps s)

include keeps

/-- What is stored is given out. -/
theorem keptUnder (url : Url) : session.keptUnder (s.time session) url = session.stored url := by
  obtain ⟨cache, bodies, lasting⟩ := keeps
  rw [keptUnder_of_some _ url bodies, stored_of_some url bodies]
  exact (lasting.get _ session.readings).1

theorem looked (url : Url) : (session.looked (s.time session) url).Keeps s := by
  obtain ⟨cache, bodies, lasting⟩ := keeps
  rw [Session.looked, clocked_of_some bodies]
  exact ⟨_, rfl, (lasting.get _ session.readings).2.1⟩

theorem stored_looked (url other : Url) :
    (session.looked (s.time session) url).stored other = session.stored other := by
  obtain ⟨cache, bodies, lasting⟩ := keeps
  rw [Session.looked, clocked_of_some bodies, stored_of_some other rfl, stored_of_some other bodies]
  exact (lasting.get _ session.readings).2.2 _

theorem withBody (url : Url) (body : String) :
    (session.withBody (s.time session) url body).Keeps s := by
  obtain ⟨cache, bodies, lasting⟩ := keeps
  rw [Session.withBody, clocked_of_some bodies]
  exact ⟨_, rfl, lasting.put _ ⟨session.readings, session.readings, rfl, rfl⟩⟩

theorem stored_withBody (url other : Url) (body : String) :
    (session.withBody (s.time session) url body).stored other =
      if other.text = url.text then some body else session.stored other := by
  obtain ⟨cache, bodies, _⟩ := keeps
  exact Session.stored_withBody session _ url other body bodies

theorem without (url : Url) : (session.without url).Keeps s := by
  obtain ⟨cache, bodies, lasting⟩ := keeps
  exact ⟨cache.remove (String.ofList url.text),
    by rw [Session.without, bodies, Option.map_some], lasting.remove _⟩

end Session.Keeps

/-! Look-ups. -/

theorem contentTypes_plain : Web.Headers.isValue withoutCredentialsType = true ∧
    Web.Headers.isValue jsonType = true := by
  decide

/-- The body that a look-up keeps of a reply. -/
def bodyUnderstood (decode : Json → Option α) : Reply → Option String
  | .response r =>
    if r.Succeeds ∧ (Setting.decodeBody decode r.body).isOk = true then some r.body else none
  | _ => none

theorem bodyUnderstood_eq_some {decode : Json → Option α} {reply : Reply} {body : String} :
    bodyUnderstood decode reply = some body ↔ ∃ response, reply = .response response ∧
      response.Succeeds ∧ (Setting.decodeBody decode response.body).isOk = true ∧
        response.body = body := by
  cases reply with
  | response r => simp [bodyUnderstood, and_assoc]
  | dropped => simp [bodyUnderstood]
  | unreachable => simp [bodyUnderstood]

theorem document_succeeds (decode : Json → Option α) {r : Response} (succeeds : r.Succeeds) :
    document decode (.response r) =
      (Setting.decodeBody decode r.body).map (·, ⟨r.status, r.headers⟩) := by
  have inRange : 200 ≤ r.status ∧ r.status < 300 := succeeds
  simp only [document, received, accepted, inRange, and_self, if_true, bind, Except.bind]
  cases Setting.decodeBody decode r.body <;> rfl

theorem accepted_succeeds {r : Response} (succeeds : r.Succeeds) :
    accepted r = .ok (r.body, ⟨r.status, r.headers⟩) := if_pos succeeds

theorem document_fails (decode : Json → Option α) {r : Response} (fails : ¬r.Succeeds) :
    document decode (.response r) =
      .error (.api r.status (ApiError.parse r.status r.body) (rateLimit? r.headers)) := by
  have outside : ¬(200 ≤ r.status ∧ r.status < 300) := fails
  simp only [document, received, accepted, bind, Except.bind, if_neg outside]
  rfl

/-- A document comes in the body of a response in the 200s. -/
theorem document_eq_ok {decode : Json → Option α} {reply : Reply} {a : α} {info : ResponseInfo}
    (ok : document decode reply = .ok (a, info)) :
    ∃ r, reply = .response r ∧ r.Succeeds ∧ Setting.decodeBody decode r.body = .ok a ∧
      info = ⟨r.status, r.headers⟩ := by
  cases reply with
  | dropped | unreachable => cases ok
  | response r =>
    by_cases succeeds : r.Succeeds
    · rw [document_succeeds decode succeeds] at ok
      cases read : Setting.decodeBody decode r.body with
      | error e =>
        rw [read] at ok
        cases ok
      | ok b =>
        rw [read] at ok
        cases ok
        exact ⟨r, rfl, succeeds, read, rfl⟩
    · cases (document_fails decode succeeds).symm.trans ok

namespace Setting

variable (s : Setting σ) (decode : Json → Option α) {contentType path : String} {url : Url}

theorem keptBody_eq (url : Url) (session : Session σ) :
    s.keptBody (String.ofList url.text) session =
      (.ok (session.keptUnder (s.time session) url), session.looked (s.time session) url) := by
  unfold keptBody Session.keptUnder Session.looked Session.clocked
  cases session.bodies <;> rfl

theorem keepBody_eq (url : Url) (body : String) (session : Session σ) :
    s.keepBody (String.ofList url.text) body session =
      (.ok (), session.withBody (s.time session) url body) := by
  unfold keepBody Session.withBody Session.clocked
  cases session.bodies <;> rfl

/-- A body that is kept is understood anew, and nothing is asked. -/
theorem getKept_kept (found : s.tenant.url path [] = .ok url) {session : Session σ}
    {body : String} (kept : session.keptUnder (s.time session) url = some body) :
    s.getKept contentType decode path session =
      ((decodeBody decode body).map (·, .kept), session.looked (s.time session) url) := by
  have looked := s.keptBody_eq url session
  rw [kept] at looked
  rw [getKept, Call.bind_ok (Call.ofExcept_ok found session)]
  dsimp only
  rw [Call.bind_ok looked]
  dsimp only
  cases decodeBody decode body <;> rfl

/-- Where no body is kept and the request can be sent, the reply decides what comes of the look-up
and what is kept. -/
theorem getKept_asked (found : s.tenant.url path [] = .ok url) {session : Session σ}
    (missing : session.keptUnder (s.time session) url = none)
    (sendable : Sendable (s.tenant.query contentType path [])) :
    s.getKept contentType decode path session =
      (document decode (s.service (s.tenant.query contentType path []) session.service).1,
        ((session.looked (s.time session) url).heard (s.tenant.query contentType path [])
          (s.service (s.tenant.query contentType path []) session.service)).keeping
            (s.time (session.looked (s.time session) url)) url (bodyUnderstood decode
              (s.service (s.tenant.query contentType path []) session.service).1)) := by
  have looked := s.keptBody_eq url session
  rw [missing] at looked
  have sent := s.send_sendable sendable (session.looked (s.time session) url)
  have still : (session.looked (s.time session) url).service = session.service :=
    session.looked_service _ url
  rw [still] at sent
  rw [getKept, Call.bind_ok (Call.ofExcept_ok found session)]
  dsimp only
  rw [Call.bind_ok looked, Tenant.request_eq found]
  dsimp only
  cases replied : (s.service (s.tenant.query contentType path []) session.service).1 with
  | dropped =>
    rw [replied] at sent
    exact Call.bind_error sent
  | unreachable =>
    rw [replied] at sent
    exact Call.bind_error sent
  | response r =>
    rw [replied] at sent
    by_cases succeeds : r.Succeeds
    · have inRange : 200 ≤ r.status ∧ r.status < 300 := succeeds
      simp only [received, Except.bind, accepted, inRange, and_self, if_true] at sent
      refine (Call.bind_ok sent).trans ?_
      rw [document_succeeds decode succeeds]
      cases read : decodeBody decode r.body with
      | error e =>
        have nothing : bodyUnderstood decode (.response r) = none := by
          simp [bodyUnderstood, read, Except.isOk, Except.toBool]
        rw [nothing]
        rfl
      | ok a =>
        have understood : bodyUnderstood decode (.response r) = some r.body := by
          simp [bodyUnderstood, read, succeeds, Except.isOk, Except.toBool]
        rw [understood]
        exact Call.bind_ok (s.keepBody_eq url r.body _)
    · have outside : ¬(200 ≤ r.status ∧ r.status < 300) := succeeds
      simp only [received, Except.bind, accepted, if_neg outside] at sent
      rw [document_fails decode succeeds, bodyUnderstood, if_neg fun both => succeeds both.1]
      exact Call.bind_error sent

theorem getKept_unsendable (found : s.tenant.url path [] = .ok url) {session : Session σ}
    (missing : session.keptUnder (s.time session) url = none)
    (unsendable : ¬Sendable (s.tenant.query contentType path [])) :
    s.getKept contentType decode path session =
      (.error (.http "request cannot be built"), session.looked (s.time session) url) := by
  have looked := s.keptBody_eq url session
  rw [missing] at looked
  rw [getKept, Call.bind_ok (Call.ofExcept_ok found session)]
  dsimp only
  rw [Call.bind_ok looked, Tenant.request_eq found]
  exact Call.bind_error (s.send_unsendable unsendable (session.looked (s.time session) url))

/-! Changes. -/

theorem perform_asked (found : s.tenant.url path [] = .ok url) {method : Method}
    (sendable : Sendable (s.tenant.request method url jsonType none)) (session : Session σ) :
    s.perform method path session =
      (((received (s.service (s.tenant.request method url jsonType none) session.service).1).bind
          accepted).map (·.2),
        session.heard (s.tenant.request method url jsonType none)
          (s.service (s.tenant.request method url jsonType none) session.service)) := by
  have sent := s.send_sendable sendable session
  rw [perform, Call.bind_ok (Call.ofExcept_ok found session)]
  cases got : (received (s.service (s.tenant.request method url jsonType none)
      session.service).1).bind accepted with
  | error e =>
    rw [got] at sent
    exact Call.bind_error sent
  | ok answer =>
    rw [got] at sent
    exact Call.bind_ok sent

theorem perform_unsendable (found : s.tenant.url path [] = .ok url) {method : Method}
    (unsendable : ¬Sendable (s.tenant.request method url jsonType none)) (session : Session σ) :
    s.perform method path session = (.error (.http "request cannot be built"), session) := by
  rw [perform, Call.bind_ok (Call.ofExcept_ok found session)]
  exact Call.bind_error (s.send_unsendable unsendable session)

theorem forget_eq {ε : Type} (path : String) (session : Session σ) :
    (s.forget path : Call σ ε Unit) session =
      (.ok (), session.dropping (s.tenant.url path [])) := by
  unfold forget
  cases s.tenant.url path [] <;> rfl

end Setting

namespace Membership

variable (s : Setting σ) {method : Method} {groupId userId operation : String}
  {session after : Session σ}

theorem change_done {info : ResponseInfo}
    (done : s.perform method (Groups.membershipPath groupId userId) session = (.ok info, after)) :
    change s method groupId userId operation session =
      (.ok info.annotations, after.dropping (s.tenant.url (Groups.pathOf groupId) [])) := by
  rw [change, Call.bind_ok (Call.within_ok done operation),
    Call.bind_ok (s.forget_eq (Groups.pathOf groupId) after)]
  rfl

theorem change_failed {e : Failure}
    (failed : s.perform method (Groups.membershipPath groupId userId) session =
      (.error e, after)) :
    change s method groupId userId operation session = (.error (e.context operation), after) := by
  rw [change]
  exact Call.bind_error (Call.within_error failed operation)

end Membership

/-! Look-ups of single resources. -/

/-- A look-up of the document under a path, and the resource it makes of one. -/
structure Inquiry (α : Type) where
  contentType : String
  decode : Json → Option α
  path : String
  title : String
  view : α → Option Resource

namespace Inquiry

def user (t : Tenant) (id : String) : Inquiry UserRecord where
  contentType := withoutCredentialsType
  decode := UserRecord.decode?
  path := Users.pathOf id
  title := "get user " ++ id
  view u :=
    if u.inScope t.loweredEmailDomains then some (u.resource t.skipSecondaryEmails) else none

def group (id : String) : Inquiry GroupRecord where
  contentType := jsonType
  decode := GroupRecord.decode?
  path := Groups.pathOf id
  title := "get group " ++ id
  view g := some g.resource

def customRole (id : String) : Inquiry Role where
  contentType := jsonType
  decode := Role.decode?
  path := Roles.pathOf id
  title := "get custom role " ++ id
  view r := some r.resource

/-- What a look-up makes of what it got: what was not found is none. -/
def conclude (i : Inquiry α) : Except Failure (α × ResponseInfo) → Except Fault (Option Resource)
  | .ok (content, _) => .ok (i.view content)
  | .error e => if e.isNotFound then .ok none else .error (e.context i.title)

def run (i : Inquiry α) (s : Setting σ) : Call σ Fault (Option Resource) := fun session =>
  let (result, after) := s.getKept i.contentType i.decode i.path session
  (i.conclude result, after)

theorem run_eq (i : Inquiry α) (s : Setting σ)
    {rest : Except Failure (α × ResponseInfo) → Call σ Fault (Option Resource)}
    (concludes : ∀ result session, rest result session = (i.conclude result, session)) :
    (s.getKept i.contentType i.decode i.path).attempt >>= rest = i.run s := by
  funext session
  cases got : s.getKept i.contentType i.decode i.path session with
  | mk result after =>
    rw [Call.bind_ok (Call.attempt_eq got), concludes, run, got]

end Inquiry

theorem Users.get_eq (s : Setting σ) (id : String) : Users.get s id =
    if s.tenant.loweredEmailDomains = [] then pure none
    else (Inquiry.user s.tenant id).run s := by
  have blank : s.tenant.loweredEmailDomains.isEmpty = true ↔ s.tenant.loweredEmailDomains = [] :=
    List.isEmpty_iff
  by_cases nobody : s.tenant.loweredEmailDomains = []
  · simp only [get, nobody, List.isEmpty_nil, if_true]
  · simp only [get, blank, nobody, if_false]
    refine (Inquiry.user s.tenant id).run_eq s fun result session => ?_
    cases result with
    | ok found => rfl
    | error e =>
      dsimp only [Inquiry.conclude]
      split <;> rfl

theorem Groups.get_eq (s : Setting σ) (id : String) :
    Groups.get s id = (Inquiry.group id).run s := by
  refine (Inquiry.group id).run_eq s fun result session => ?_
  cases result with
  | ok found => rfl
  | error e =>
    dsimp only [Inquiry.conclude]
    split <;> rfl

theorem Roles.get_eq (s : Setting σ) (id : ResourceId) : Roles.get s id =
    if id.resourceType ≠ "role" then pure none
    else match Role.ofType? id.resource with
      | some role => pure (some role.resource)
      | none =>
        if s.tenant.syncCustomRoles then (Inquiry.customRole id.resource).run s
        else pure none := by
  by_cases isRole : id.resourceType = "role"
  · simp only [get, ne_eq, isRole, not_true_eq_false, if_false]
    cases Role.ofType? id.resource with
    | some role => rfl
    | none =>
      cases s.tenant.syncCustomRoles with
      | false => rfl
      | true =>
        simp only [if_true]
        refine (Inquiry.customRole id.resource).run_eq s fun result session => ?_
        cases result with
        | ok found => rfl
        | error e =>
          dsimp only [Inquiry.conclude]
          split <;> rfl
  · simp only [get, ne_eq, isRole, not_false_eq_true, if_true]

end Okta
end AccessCatalog
