import AccessCatalog.Proofs.Okta.Traffic

/-! Calls of two tenants that differ in their token alone. A call is compared with its like in a
session that may differ in the authorization of the requests sent so far, and in nothing else. What
calls are made of is compared first, then the requests, so that longer calls follow step by step. -/
namespace AccessCatalog

namespace Web

/-- A request without the header that says who asks. -/
def Request.unsigned (r : Request) : Request :=
  { r with headers := r.headers.filter fun h => !Headers.sameName h.1 "authorization" }

/-- Whether a service answers without regard to who asks. -/
def Service.Impartial {σ : Type} (service : Service σ) : Prop :=
  ∀ (r r' : Request) (state : σ), r.unsigned = r'.unsigned → service r state = service r' state

end Web

namespace Okta

open Web (Url Method Request)

variable {σ α β ε ε' : Type}

def Tenant.signed (t : Tenant) (token : String) : Tenant := { t with apiToken := some token }

def Setting.signed (s : Setting σ) (token : String) : Setting σ :=
  { s with tenant := s.tenant.signed token }

/-- Whether a text can be sent as a token. -/
structure IsToken (token : String) : Prop where
  filled : token ≠ ""
  value : Web.Headers.isValue token = true

/-- Whether two tokens are as good as each other at a service. -/
structure Setting.Interchangeable (s : Setting σ) (a b : String) : Prop where
  impartial : s.service.Impartial
  first : IsToken a
  second : IsToken b

/-- Whether two sessions differ at most in the authorization of what was sent. -/
structure Session.Alike (x y : Session σ) : Prop where
  service : x.service = y.service
  sent : x.sent.map Request.unsigned = y.sent.map Request.unsigned
  bodies : x.bodies = y.bodies
  readings : x.readings = y.readings
  flags : x.flags = y.flags

/-- Whether two calls come to the same in sessions that are alike, and leave them alike. -/
def Call.Alike (c d : Call σ ε α) : Prop :=
  ∀ x y : Session σ, x.Alike y → (c x).1 = (d y).1 ∧ (c x).2.Alike (d y).2

namespace Call.Alike

theorem ofExcept (r : Except ε α) : Alike (ofExcept r : Call σ ε α) (Call.ofExcept r) :=
  fun _ _ alike => ⟨rfl, alike⟩

theorem pure (a : α) : Alike (pure a : Call σ ε α) (Pure.pure a) := fun _ _ alike => ⟨rfl, alike⟩

theorem throw (e : ε) : Alike (throw e : Call σ ε α) (MonadExcept.throw e) :=
  fun _ _ alike => ⟨rfl, alike⟩

variable {c d : Call σ ε α}

theorem outcome (alike : c.Alike d) {x y : Session σ} (sessions : x.Alike y) :
    ∃ result x' y', c x = (result, x') ∧ d y = (result, y') ∧ x'.Alike y' := by
  obtain ⟨same, after⟩ := alike x y sessions
  exact ⟨(c x).1, (c x).2, (d y).2, rfl, Prod.ext same.symm rfl, after⟩

theorem bind {f g : α → Call σ ε β} (first : c.Alike d) (rest : ∀ a, (f a).Alike (g a)) :
    Alike (c >>= f) (d >>= g) := by
  intro x y sessions
  obtain ⟨result, x', y', hx, hy, between⟩ := first.outcome sessions
  cases result with
  | error e =>
    rw [Call.bind_error hx, Call.bind_error hy]
    exact ⟨rfl, between⟩
  | ok a =>
    rw [Call.bind_ok hx, Call.bind_ok hy]
    exact rest a x' y' between

theorem map (f : α → β) (alike : c.Alike d) : Alike (f <$> c) (f <$> d) := by
  intro x y sessions
  obtain ⟨same, after⟩ := alike x y sessions
  rw [Call.map_eq, Call.map_eq, same]
  exact ⟨rfl, after⟩

theorem within {c d : Call σ Failure α} (alike : c.Alike d) (operation : String) :
    (c.within operation).Alike (d.within operation) := by
  intro x y sessions
  obtain ⟨result, x', y', hx, hy, after⟩ := alike.outcome sessions
  cases result with
  | error e =>
    rw [Call.within_error hx, Call.within_error hy]
    exact ⟨rfl, after⟩
  | ok a =>
    rw [Call.within_ok hx, Call.within_ok hy]
    exact ⟨rfl, after⟩

theorem attempt (alike : c.Alike d) : (c.attempt : Call σ ε' (Except ε α)).Alike d.attempt := by
  intro x y sessions
  obtain ⟨result, x', y', hx, hy, after⟩ := alike.outcome sessions
  rw [Call.attempt_eq hx, Call.attempt_eq hy]
  exact ⟨rfl, after⟩

end Call.Alike

/-! Requests. -/

namespace Tenant

variable (t : Tenant) {a b : String}

theorem token?_signed (isToken : IsToken a) : (t.signed a).token? = some a := by
  simp [token?, signed, isToken.filled]

theorem request_signed (isToken : IsToken a) (method : Method) (url : Url) (contentType : String)
    (body : Option Json) :
    (t.signed a).request method url contentType body =
      { method, url
        headers := [("accept", jsonType), ("content-type", contentType),
          ("user-agent", userAgent), ("authorization", "SSWS " ++ a)]
        body := body.map fun v => String.ofList v.write } := by
  simp only [request, t.token?_signed isToken]
  rfl

theorem request_unsigned (first : IsToken a) (second : IsToken b) (method : Method) (url : Url)
    (contentType : String) (body : Option Json) :
    ((t.signed a).request method url contentType body).unsigned =
      ((t.signed b).request method url contentType body).unsigned := by
  have dropped : Web.Headers.sameName "authorization" "authorization" = true := by decide
  rw [t.request_signed first, t.request_signed second]
  simp [Request.unsigned, List.filter_cons, dropped]

theorem request_sendable (first : IsToken a) (second : IsToken b) (method : Method) (url : Url)
    (contentType : String) (body : Option Json) :
    Sendable ((t.signed a).request method url contentType body) ↔
      Sendable ((t.signed b).request method url contentType body) := by
  rw [t.request_signed first, t.request_signed second]
  simp only [Sendable, List.all_cons, isValue_authorization first.value,
    isValue_authorization second.value]

end Tenant

namespace Setting

variable {s : Setting σ} {a b : String}

theorem url_signed (s : Setting σ) (token path : String) (query : List (String × String)) :
    (s.signed token).tenant.url path query = s.tenant.url path query := by
  have root : (s.signed token).tenant.apiBaseUrl = s.tenant.apiBaseUrl := rfl
  rw [Tenant.url, root, ← Tenant.url]

theorem exchange_alike (a b : String) {r r' : Request} (impartial : s.service.Impartial)
    (unsigned : r.unsigned = r'.unsigned) (sendable : Sendable r ↔ Sendable r') :
    ((s.signed a).exchange r).Alike ((s.signed b).exchange r') := by
  intro x y alike
  by_cases first : Sendable r
  · rw [exchange_sendable _ first, exchange_sendable _ (sendable.mp first)]
    have heard : (s.signed a).service r x.service = (s.signed b).service r' y.service :=
      alike.service ▸ impartial r r' x.service unsigned
    rw [heard]
    refine ⟨rfl, rfl, ?_, alike.bodies, alike.readings, alike.flags⟩
    generalize (s.signed b).service r' y.service = heard
    obtain ⟨reply, next⟩ := heard
    cases reply <;> simp [Session.heard, alike.sent, unsigned]
  · rw [exchange_unsendable _ first, exchange_unsendable _ (mt sendable.mpr first)]
    exact ⟨rfl, alike⟩

namespace Interchangeable

variable (same : s.Interchangeable a b)
include same

theorem send (method : Method) (url : Url) (contentType : String) (body : Option Json) :
    ((s.signed a).send ((s.tenant.signed a).request method url contentType body)).Alike
      ((s.signed b).send ((s.tenant.signed b).request method url contentType body)) := by
  refine .bind (exchange_alike a b same.impartial
    (s.tenant.request_unsigned same.first same.second method url contentType body)
    (s.tenant.request_sendable same.first same.second method url contentType body)) ?_
  intro response
  dsimp only
  split
  · exact .pure _
  · exact .throw _

theorem get (contentType : String) (decode : Json → Option α) (path : String)
    (query : List (String × String)) :
    ((s.signed a).get contentType decode path query).Alike
      ((s.signed b).get contentType decode path query) := by
  rw [Setting.get, Setting.get, url_signed, url_signed]
  exact .bind (.ofExcept _) fun url => .bind (same.send .get url contentType none) fun _ =>
    .bind (.ofExcept _) fun _ => .pure _

theorem post (decode : Json → Option α) (path : String) (query : List (String × String))
    (body : Json) :
    ((s.signed a).post decode path query body).Alike
      ((s.signed b).post decode path query body) := by
  rw [Setting.post, Setting.post, url_signed, url_signed]
  exact .bind (.ofExcept _) fun url => .bind (same.send .post url jsonType (some body)) fun _ =>
    .bind (.ofExcept _) fun _ => .pure _

theorem perform (method : Method) (path : String) :
    ((s.signed a).perform method path).Alike ((s.signed b).perform method path) := by
  rw [Setting.perform, Setting.perform, url_signed, url_signed]
  exact .bind (.ofExcept _) fun url => .bind (same.send method url jsonType none) fun _ => .pure _

end Interchangeable

/-! What is kept. -/

theorem time_alike {x y : Session σ} (alike : x.Alike y) :
    (s.signed a).time x = (s.signed b).time y :=
  congrArg s.clock alike.readings

theorem keptBody_alike (key : String) :
    ((s.signed a).keptBody key).Alike ((s.signed b).keptBody key) := by
  intro x y alike
  unfold keptBody
  rw [← alike.bodies, ← alike.readings, time_alike (a := a) (b := b) alike]
  cases x.bodies with
  | none => exact ⟨rfl, alike⟩
  | some cache => exact ⟨rfl, alike.service, alike.sent, rfl, rfl, alike.flags⟩

theorem keepBody_alike (key body : String) :
    ((s.signed a).keepBody key body).Alike ((s.signed b).keepBody key body) := by
  intro x y alike
  unfold keepBody
  rw [← alike.bodies, ← alike.readings, time_alike (a := a) (b := b) alike]
  cases x.bodies with
  | none => exact ⟨rfl, alike⟩
  | some cache => exact ⟨rfl, alike.service, alike.sent, rfl, rfl, alike.flags⟩

theorem forget_alike (path : String) :
    ((s.signed a).forget path : Call σ ε Unit).Alike ((s.signed b).forget path) := by
  intro x y alike
  rw [forget, forget, url_signed, url_signed]
  cases s.tenant.url path [] with
  | error e => exact ⟨rfl, alike⟩
  | ok url =>
    exact ⟨rfl, alike.service, alike.sent, congrArg (Option.map _) alike.bodies, alike.readings,
      alike.flags⟩

theorem Interchangeable.getKept (same : s.Interchangeable a b) (contentType : String)
    (decode : Json → Option α) (path : String) :
    ((s.signed a).getKept contentType decode path).Alike
      ((s.signed b).getKept contentType decode path) := by
  rw [Setting.getKept, Setting.getKept, url_signed, url_signed]
  refine .bind (.ofExcept _) fun url => .bind (keptBody_alike _) fun kept => ?_
  cases kept with
  | some body => exact .bind (.ofExcept _) fun _ => .pure _
  | none =>
    exact .bind (same.send .get url contentType none) fun answer =>
      .bind (.ofExcept _) fun _ => .bind (keepBody_alike _ answer.1) fun _ => .pure _

end Setting
end Okta
end AccessCatalog
