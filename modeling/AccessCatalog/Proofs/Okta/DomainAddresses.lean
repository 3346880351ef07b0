import AccessCatalog.Proofs.Okta.Destinations

/-! The addresses of a tenant that is reached at its domain. They are what they should be just if the
address of the domain alone is a root. A configuration may be accepted where it is none: the domain
is searched for slashes, but other signs end a host too, stand in front of one, or are in none. -/
namespace AccessCatalog.Okta

open Web (Url Log segmentOf)
open Web.Url (NoDots namesPath)

variable {σ α : Type}

namespace Tenant

variable {t : Tenant}

theorem apiBaseUrl_own (own : t.baseUrl = none) :
    t.apiBaseUrl.toList = "https://".toList ++ t.domain.toList := by
  rw [apiBaseUrl, own, String.toList_append]

/-- One path shows whether the address of a domain is a root: the one of an empty segment. -/
theorem atRoot_of_reaches (own : t.baseUrl = none) (reaches : t.Reaches [[]] []) : t.AtRoot := by
  obtain ⟨u, found, path, carries⟩ := reaches
  have read := Tenant.parse_of_url found
  refine ⟨u, String.toList_append ▸ read, ?_⟩
  have query := Url.query_eq_none read carries.fragment carries.pairs
  rw [apiBaseUrl_own own] at read
  exact ⟨Url.isWeb_of_https read, carries.credentials, query, carries.fragment, by rw [path]; rfl⟩

theorem atRoot_iff (own : t.baseUrl = none) : t.AtRoot ↔
    ∀ segments pairs, segments ≠ [] → Url.ArePlain segments → t.Reaches segments pairs := by
  refine ⟨fun root segments pairs some plain => root.reaches some plain pairs, fun reaches => ?_⟩
  refine atRoot_of_reaches own (reaches [[]] [] (by simp) fun s member => ?_)
  rw [List.mem_singleton.mp member]
  exact ⟨by decide, by simp⟩

theorem slash_not_mem_of_accepted (accepted : t.validate = .ok ()) : '/' ∉ t.domain.toList := by
  intro member
  have slashed : hasSlash t.domain = true := by simpa [hasSlash] using member
  unfold validate at accepted
  rw [if_pos slashed] at accepted
  split at accepted <;> cases accepted

theorem atRoot_of_accepted (own : t.baseUrl = none) (accepted : t.validate = .ok ())
    (plain : ∀ c ∈ t.domain.toList, c ∉ "\\?#@".toList) (found : ∃ u, t.url "/" [] = .ok u) :
    t.AtRoot := by
  obtain ⟨u, found⟩ := found
  have read := Tenant.parse_of_url found
  refine ⟨u, String.toList_append ▸ read, ?_⟩
  rw [apiBaseUrl_own own] at read
  refine Url.isRoot_of_host (fun c member => ?_) read
  have noSlash : c ≠ '/' := fun same => slash_not_mem_of_accepted accepted (same ▸ member)
  have other := plain c member
  simp only [String.reduceToList, List.mem_cons, not_or] at other ⊢
  exact ⟨noSlash, other⟩

end Tenant

/-- Whether a call never blames the configuration, and asks under these paths only; a name that is
made of dots is left out, for an address takes it as a step between directories. -/
def Directed (routes : List (List String)) (c : Call (σ × Log) Fault α) : Prop :=
  ∀ session, (∀ message, (c session).1 ≠ .error (.invalidConfiguration message)) ∧
    ∃ asked : Log, (c session).2.service.2 = session.service.2 ++ asked ∧
      ∀ exchange ∈ asked, exchange.1.url.credentials = none ∧ exchange.1.url.fragment = none ∧
        ∃ names ∈ routes, NoDots names →
          exchange.1.url.path = .segments (("api" :: names).map segmentOf)

theorem Call.KeepsTo.directed {t : Tenant} {routes : List (List String)}
    {c : Call (σ × Log) Fault α} (root : t.AtRoot)
    (keeps : c.KeepsTo Fault.SparesConfiguration (t.AsksUnder routes)) : Directed routes c := by
  intro session
  obtain ⟨spares, asked, log, asks⟩ := keeps session
  refine ⟨fun message same => spares _ same message rfl, asked, log, fun exchange member => ?_⟩
  obtain ⟨names, inRoutes, pairs, found⟩ := asks exchange member
  obtain ⟨u, same, carries⟩ := root.url_api names pairs
  cases found.symm.trans same
  refine ⟨carries.credentials, carries.fragment, names, inRoutes, fun noDots => ?_⟩
  have plain : Url.ArePlain (("api" :: names).map segmentOf) := by
    refine Url.arePlain_names fun name isName => ?_
    rcases List.mem_cons.mp isName with rfl | isName
    · decide
    · exact noDots name isName
  obtain ⟨u, same, path, _⟩ := root.reaches (by simp) plain pairs
  cases found.symm.trans same
  exact path

/-- A tenant that is reached at its domain finds every path just if the address of the domain is a
root. It is one if the configuration is accepted, the domain is part of an address, and it has none
of four more signs. Then every call and every look-up of flags is directed to its own paths. -/
theorem domain_addresses (s : Setting σ) (own : s.tenant.baseUrl = none) :
    (s.tenant.AtRoot ↔ ∀ segments pairs, segments ≠ [] → Url.ArePlain segments →
      s.tenant.Reaches segments pairs) ∧
    (s.tenant.validate = .ok () → (∀ c ∈ s.tenant.domain.toList, c ∉ "\\?#@".toList) →
      (∃ u, s.tenant.url "/" [] = .ok u) → s.tenant.AtRoot) ∧
    (s.tenant.AtRoot → (∀ call : ConnectorCall, Directed call.routes (call.run s.logged)) ∧
      ∀ userId, Directed [["internal", "administrators"]] (Roles.flags s.logged userId)) :=
  ⟨Tenant.atRoot_iff own, Tenant.atRoot_of_accepted own, fun root =>
    ⟨fun call => (call.run_keepsTo root).directed root,
      fun userId => (Roles.flags_keepsTo root List.mem_cons_self userId).directed root⟩⟩

/-! A tenant at its domain, and domains that are accepted and lead elsewhere. -/

def acmeStart : Session (List Web.Response × Log) := Session.start .acme ([⟨200, [], "[]"⟩], [])

theorem domain_addresses_of_acme :
    Tenant.acme.baseUrl = none ∧ Tenant.acme.validate = .ok () ∧ Tenant.acme.AtRoot ∧
      Tenant.acme.Reaches (["api", "v1", "users"].map segmentOf) [("limit", "2"), ("after", "")] ∧
      ∃ exchange : Web.Request × Web.Reply,
        ((ConnectorCall.list .groups {}).run (Setting.scripted .acme).logged
          acmeStart).2.service.2 = [exchange] ∧
        exchange.1.url.path = .segments (["api", "v1", "groups"].map segmentOf) := by
  obtain ⟨reaches, accepted, calls⟩ := domain_addresses (Setting.scripted .acme) rfl
  have valid : Tenant.acme.validate = .ok () := by rfl
  have found : ∃ u, Tenant.acme.url "/" [] = .ok u :=
    ⟨_, Tenant.acme_reachable.url ⟨[], rfl, by simp⟩ []⟩
  have root := accepted valid (Web.forall_of_all (by decide)) found
  have plain : Url.ArePlain (["api", "v1", "users"].map segmentOf) :=
    Url.arePlain_names (by unfold NoDots; decide)
  refine ⟨rfl, valid, root, reaches.mp root _ _ (by simp) plain, ?_⟩
  obtain ⟨_, asked, log, directed⟩ := (calls root).1 (.list .groups {}) acmeStart
  have once : asked.length = 1 := by
    have all : ((ConnectorCall.list .groups {}).run (Setting.scripted .acme).logged
      acmeStart).2.service.2.length = 1 := by decide +kernel
    rw [log] at all
    exact all
  obtain ⟨exchange, rfl⟩ := List.length_eq_one_iff.mp once
  obtain ⟨_, _, names, inRoutes, path⟩ := directed exchange List.mem_cons_self
  refine ⟨exchange, log, ?_⟩
  rw [List.mem_singleton.mp inRoutes] at path
  exact path (by unfold NoDots; decide)

theorem Tenant.Reaches.found {t : Tenant} {segments : List (List Char)}
    {pairs : List (String × String)} (reaches : t.Reaches segments pairs) :
    (t.url (String.ofList (Url.pathText (.segments segments))) pairs).toOption.map
      (fun u => (u.path, u.credentials)) = some (.segments segments, none) := by
  obtain ⟨u, found, path, carries⟩ := reaches
  rw [found, ← path, ← carries.credentials]
  rfl

/-- A tenant without addresses learns so when its token is checked. -/
theorem Connector.validate_unaddressed {s : Setting σ} (hasToken : s.tenant.hasToken = true)
    (nowhere : (s.tenant.url organizationPath []).toOption = none) (session : Session σ) :
    ∃ message, (validate s session).1 = .error (.invalidConfiguration message) := by
  obtain ⟨e, refused⟩ : ∃ e, s.tenant.url organizationPath [] = .error (.url e) := by
    unfold Tenant.url at nowhere ⊢
    split at nowhere
    · cases nowhere
    · rename_i e _
      exact ⟨e, rfl⟩
  have failed : s.get jsonType Json.value? organizationPath [] session =
      (.error (.url e), session) := by
    rw [Setting.get]
    exact Call.bind_error (by rw [refused]; rfl)
  unfold validate
  rw [if_pos hasToken, Call.bind_error (Call.within_error failed _)]
  exact ⟨_, rfl⟩

def atDomain (domain : String) : Tenant := { domain, apiToken := some "secret" }

/-- Domains that bring a path, a query or credentials along, or are not even part of an address. -/
def strayDomains : List String :=
  ["acme.okta.com\\x", "acme.okta.com?x=1", "user@acme.okta.com", "acme okta.com"]

theorem accepted_astray :
    (∀ domain ∈ strayDomains, (atDomain domain).validate = .ok () ∧
      ¬(atDomain domain).Reaches ["api".toList, "v1".toList, "users".toList] []) ∧
    ∃ message, (Connector.validate (Setting.scripted (atDomain "acme okta.com"))
      (Session.start (atDomain "acme okta.com") [])).1 = .error (.invalidConfiguration message) := by
  have accepted : ∀ domain ∈ strayDomains, (atDomain domain).validate.toOption = some () := by
    decide +kernel
  have astray : ∀ domain ∈ strayDomains, ((atDomain domain).url
      (String.ofList (Url.pathText (.segments ["api".toList, "v1".toList, "users".toList])))
        []).toOption.map (fun u => (u.path, u.credentials)) ≠
      some (.segments ["api".toList, "v1".toList, "users".toList], none) := by decide +kernel
  constructor
  · intro domain member
    refine ⟨?_, fun reaches => astray domain member reaches.found⟩
    have valid := accepted domain member
    cases checked : (atDomain domain).validate with
    | error fault =>
      rw [checked] at valid
      cases valid
    | ok _ => rfl
  · exact Connector.validate_unaddressed rfl (by decide +kernel) _

end AccessCatalog.Okta
