import AccessCatalog.Okta.Membership
import AccessCatalog.Okta.Users
import AccessCatalog.Proofs.Okta.Phases
import AccessCatalog.Proofs.Okta.Traffic
import AccessCatalog.Proofs.Web.Site

/-! What single resources and memberships are reached by. Behind the base of a site, a request for
one of them names it in the segments of its path, and no two of them have an address in common. An
id of one dot or of two is the exception, for an address takes it as a step between directories. -/
namespace AccessCatalog.Okta

open Web (Url Method Request Reply Service Log segmentName segmentOf)
open Web.Url (NoDots namesPath)

variable {σ α β ε : Type}

/-- A single resource, or the membership of a user in a group. -/
inductive Endpoint where
  | user (id : String)
  | group (id : String)
  | customRole (id : String)
  | membership (groupId userId : String)

namespace Endpoint

def path : Endpoint → String
  | user id => Users.pathOf id
  | group id => Groups.pathOf id
  | customRole id => Roles.pathOf id
  | membership groupId userId => Groups.membershipPath groupId userId

section Path

variable (id groupId userId : String)

theorem path_user : (user id).path = Users.pathOf id := rfl
theorem path_group : (group id).path = Groups.pathOf id := rfl
theorem path_customRole : (customRole id).path = Roles.pathOf id := rfl
theorem path_membership : (membership groupId userId).path =
  Groups.membershipPath groupId userId := rfl

end Path

def ids : Endpoint → List String
  | user id | group id | customRole id => [id]
  | membership groupId userId => [groupId, userId]

def names : Endpoint → List String
  | user id => ["api", "v1", "users", id]
  | group id => ["api", "v1", "groups", id]
  | customRole id => ["api", "v1", "iam", "roles", id]
  | membership groupId userId => ["api", "v1", "groups", groupId, "users", userId]

/-- Whether these are the segments of the endpoint, its ids decoded. -/
def Named : Endpoint → List (List Char) → Prop
  | user id, segments => ∃ s, segments = ["api".toList, "v1".toList, "users".toList, s] ∧
      segmentName s = id
  | group id, segments => ∃ s, segments = ["api".toList, "v1".toList, "groups".toList, s] ∧
      segmentName s = id
  | customRole id, segments =>
      ∃ s, segments = ["api".toList, "v1".toList, "iam".toList, "roles".toList, s] ∧
        segmentName s = id
  | membership groupId userId, segments => ∃ s t, segments =
      ["api".toList, "v1".toList, "groups".toList, s, "users".toList, t] ∧
        segmentName s = groupId ∧ segmentName t = userId

/-- Whether an address names the endpoint in its path, and has no query. -/
def NamedBy (e : Endpoint) (u : Url) : Prop :=
  u.query = none ∧ ∃ segments, u.path = .segments segments ∧ e.Named segments

theorem segmentOf_words : segmentOf "api" = "api".toList ∧ segmentOf "v1" = "v1".toList ∧
    segmentOf "users" = "users".toList ∧ segmentOf "groups" = "groups".toList ∧
      segmentOf "iam" = "iam".toList ∧ segmentOf "roles" = "roles".toList := by
  decide

theorem path_names (e : Endpoint) : e.path.toList = namesPath e.names := by
  obtain ⟨api, v1, users, groups, iam, roles⟩ := segmentOf_words
  have encoded : ∀ id, (Web.pathSegment id).toList = segmentOf id := fun _ => rfl
  cases e with
  | user id =>
    simp [path, Users.pathOf, Users.path, names, namesPath, Url.pathText, api, v1, users, encoded]
  | group id =>
    simp [path, Groups.pathOf, Groups.path, names, namesPath, Url.pathText, api, v1, groups,
      encoded]
  | customRole id =>
    simp [path, Roles.pathOf, Roles.customPath, names, namesPath, Url.pathText, api, v1, iam,
      roles, encoded]
  | membership groupId userId =>
    simp [path, Groups.membershipPath, Groups.pathOf, Groups.path, names, namesPath, Url.pathText,
      api, v1, groups, users, encoded]

theorem names_inj {e e' : Endpoint} (same : e.names = e'.names) : e = e' := by
  cases e <;> cases e' <;> simp_all [names]

theorem names_ne_nil (e : Endpoint) : e.names ≠ [] := by
  cases e <;> simp [names]

theorem noDots_names {e : Endpoint} (noDots : NoDots e.ids) : NoDots e.names := by
  intro name member
  have word : ∀ name ∈ ["api", "v1", "users", "groups", "iam", "roles"],
      name ≠ "." ∧ name ≠ ".." := by decide
  have cases : name ∈ e.ids ∨ name ∈ ["api", "v1", "users", "groups", "iam", "roles"] := by
    cases e <;> simp only [names, ids, List.mem_cons, List.not_mem_nil, or_false] at member ⊢ <;>
      grind
  exact cases.elim (noDots name) (word name)

theorem named_names (e : Endpoint) : e.Named (e.names.map segmentOf) := by
  obtain ⟨api, v1, users, groups, iam, roles⟩ := segmentOf_words
  cases e with
  | user id => exact ⟨segmentOf id, by simp [names, api, v1, users], by simp⟩
  | group id => exact ⟨segmentOf id, by simp [names, api, v1, groups], by simp⟩
  | customRole id => exact ⟨segmentOf id, by simp [names, api, v1, iam, roles], by simp⟩
  | membership groupId userId =>
    exact ⟨segmentOf groupId, segmentOf userId, by simp [names, api, v1, groups, users], by simp⟩

theorem Named.mem {e : Endpoint} {segments : List (List Char)} (named : e.Named segments) :
    ∀ id ∈ e.ids, ∃ s ∈ segments, segmentName s = id := by
  intro id member
  cases e with
  | user _ | group _ | customRole _ =>
    obtain ⟨s, rfl, name⟩ := named
    exact ⟨s, by simp, name.trans (List.mem_singleton.mp member).symm⟩
  | membership groupId userId =>
    obtain ⟨s, t, rfl, group, user⟩ := named
    simp only [ids, List.mem_cons, List.not_mem_nil, or_false] at member
    rcases member with rfl | rfl
    · exact ⟨s, by simp, group⟩
    · exact ⟨t, by simp, user⟩

end Endpoint

/-! Addresses of endpoints. -/

/-- Whether the tenant is reached at a scheme and an authority, with no path behind them. -/
def Tenant.AtSite (t : Tenant) : Prop := Url.IsSite t.apiBaseUrl.toList

namespace Tenant.AtSite

variable {t : Tenant}

theorem read {e : Endpoint} {u : Url} (found : t.url e.path [] = .ok u) :
    Url.parse none (t.apiBaseUrl.toList ++ namesPath e.names) = .ok u :=
  e.path_names ▸ Tenant.parse_of_url found

/-- A web address of an endpoint names it just if none of its ids is made of dots. -/
theorem namedBy_iff (site : t.AtSite) {e : Endpoint} {u : Url} (found : t.url e.path [] = .ok u)
    (web : u.isWeb = true) : e.NamedBy u ↔ NoDots e.ids := by
  obtain ⟨first, names, same⟩ := List.exists_cons_of_ne_nil e.names_ne_nil
  have parsed := read found
  rw [same] at parsed
  obtain ⟨noQuery, path⟩ := Url.IsSite.segments_of_names site parsed web
  rw [← same] at path
  constructor
  · rintro ⟨_, segments, isPath, named⟩ id member
    cases isPath.symm.trans path
    obtain ⟨s, inPath, rfl⟩ := named.mem id member
    rcases Url.mem_follow inPath with old | ⟨inNames, plain⟩ | rfl
    · cases old
    · obtain ⟨name, _, rfl⟩ := List.mem_map.mp inNames
      rw [← Bool.not_eq_true, Url.isDots_segmentOf, not_or] at plain
      rwa [Web.segmentName_segmentOf]
    · decide
  · intro noDots
    refine ⟨noQuery, _, path, ?_⟩
    rw [(Endpoint.noDots_names noDots).follow]
    exact e.named_names

theorem endpoint_inj (site : t.AtSite) {e e' : Endpoint} {u u' : Url} (noDots : NoDots e.ids)
    (noDots' : NoDots e'.ids) (found : t.url e.path [] = .ok u) (found' : t.url e'.path [] = .ok u')
    (same : u.target = u'.target ∨ u.text = u'.text) : e = e' := by
  have parsed := read found
  have parsed' := read found'
  have plain := Endpoint.noDots_names noDots
  have plain' := Endpoint.noDots_names noDots'
  refine Endpoint.names_inj ?_
  obtain ⟨first, names, cons⟩ := List.exists_cons_of_ne_nil e.names_ne_nil
  obtain ⟨first', names', cons'⟩ := List.exists_cons_of_ne_nil e'.names_ne_nil
  rw [cons] at parsed plain ⊢
  rw [cons'] at parsed' plain' ⊢
  exact Url.IsSite.names_inj site plain plain' parsed parsed' same

end Tenant.AtSite

/-! What calls send. -/

namespace Call

theorem bind_service {c : Call σ ε α} {f : α → Call σ ε β}
    (quiet : ∀ a (session : Session σ), (f a session).2.service = session.service)
    (session : Session σ) : ((c >>= f) session).2.service = (c session).2.service := by
  cases called : c session with
  | mk result after =>
    cases result with
    | error e => rw [bind_error called]
    | ok a => rw [bind_ok called, quiet]

theorem within_session (c : Call σ Failure α) (operation : String) (session : Session σ) :
    (c.within operation session).2 = (c session).2 := by
  simp only [within, mapError]
  split <;> rename_i called <;> rw [called]

theorem attempt_session (c : Call σ ε α) (session : Session σ) :
    ((c.attempt : Call σ Fault (Except ε α)) session).2 = (c session).2 :=
  rfl

end Call

/-- The body that a look-up of an address takes at a time in place of an answer. -/
def Session.keptUnder (session : Session σ) (now : Nat) (url : Url) : Option String :=
  session.bodies.bind fun cache => (cache.get (String.ofList url.text) now).1

theorem Setting.keptBody_keptUnder (s : Setting σ) (session : Session σ) (url : Url) :
    ∃ after, s.keptBody (String.ofList url.text) session =
      (.ok (session.keptUnder (s.time session) url), after) ∧
        after.service = session.service := by
  unfold keptBody Session.keptUnder
  cases session.bodies with
  | none => exact ⟨session, rfl, rfl⟩
  | some cache => exact ⟨_, rfl, rfl⟩

instance : DecidablePred Sendable := fun _ => inferInstanceAs (Decidable (_ ∧ _))

namespace Setting

variable (s : Setting σ)

/-- The state of the service after a request, which does not arrive if it cannot be sent. -/
def delivered (r : Request) (state : σ) : σ :=
  if Sendable r then (s.service r state).2 else state

theorem send_service (r : Request) (session : Session σ) :
    (s.send r session).2.service = s.delivered r session.service := by
  unfold delivered
  split
  · rename_i sendable
    rw [s.send_sendable sendable]
    rfl
  · rename_i unsendable
    rw [s.send_unsendable unsendable]

theorem perform_service {path : String} {url : Url} (found : s.tenant.url path [] = .ok url)
    (method : Method) (session : Session σ) :
    (s.perform method path session).2.service =
      s.delivered (s.tenant.request method url jsonType none) session.service := by
  rw [perform, Call.bind_ok (Call.ofExcept_ok found session), ← send_service]
  exact Call.bind_service (fun _ _ => rfl) session

theorem perform_unaddressed {path : String} {e : Failure}
    (refused : s.tenant.url path [] = .error e) (method : Method) (session : Session σ) :
    s.perform method path session = (.error e, session) := by
  rw [perform]
  refine Call.bind_error ?_
  rw [refused]
  rfl

theorem getKept_service (decode : Json → Option α) (contentType : String) {path : String}
    {url : Url} (found : s.tenant.url path [] = .ok url) (session : Session σ) :
    (s.getKept contentType decode path session).2.service =
      if session.keptUnder (s.time session) url = none then
        s.delivered (s.tenant.request .get url contentType none) session.service
      else session.service := by
  obtain ⟨between, kept, unmoved⟩ := s.keptBody_keptUnder session url
  rw [getKept, Call.bind_ok (Call.ofExcept_ok found session)]
  dsimp only
  rw [Call.bind_ok kept]
  cases session.keptUnder (s.time session) url with
  | some text =>
    rw [if_neg (by simp), ← unmoved]
    exact Call.bind_service (fun _ _ => rfl) between
  | none =>
    rw [if_pos rfl, ← unmoved, ← send_service]
    refine Call.bind_service (fun answer after => ?_) between
    refine (Call.bind_service (fun a last => ?_) after).trans rfl
    obtain ⟨kept, done, same⟩ := s.keepBody_done (String.ofList url.text) answer.1 last
    rw [Call.bind_ok done]
    exact same

theorem getKept_unaddressed {decode : Json → Option α} {contentType path : String} {e : Failure}
    (refused : s.tenant.url path [] = .error e) (session : Session σ) :
    s.getKept contentType decode path session = (.error e, session) := by
  rw [getKept]
  refine Call.bind_error ?_
  rw [refused]
  rfl

end Setting

/-- Between two sessions the service is asked at most once, for this endpoint, and it is asked if it
must be. -/
def AskedFor (method : Method) (e : Endpoint) (must : Prop) (before after : Session (σ × Log)) :
    Prop :=
  ∃ asked : Log, after.service.2 = before.service.2 ++ asked ∧ asked.length ≤ 1 ∧
    (must → asked ≠ []) ∧
    ∀ exchange ∈ asked, exchange.1.method = method ∧ e.NamedBy exchange.1.url

section AskedFor

variable {s : Setting σ} {method : Method} {e : Endpoint} {must : Prop} {contentType : String}
  {before after : Session (σ × Log)}

theorem askedFor_quiet (quiet : after.service = before.service) (mustNot : ¬must) :
    AskedFor method e must before after :=
  ⟨[], by rw [quiet, List.append_nil], by simp, fun h => absurd h mustNot, by simp⟩

theorem Endpoint.path_isPath (e : Endpoint) : Web.IsPath e.path.toList := by
  obtain ⟨first, names, same⟩ := List.exists_cons_of_ne_nil e.names_ne_nil
  rw [e.path_names, same]
  exact Url.namesPath_isPath first names

theorem Tenant.Reachable.sendable_to {t : Tenant} (reachable : t.Reachable) {url : Url}
    (found : t.url e.path [] = .ok url) (plain : Web.Headers.isValue contentType = true) :
    Sendable (t.request method url contentType none) := by
  have sendable := reachable.sendable e.path_isPath plain []
  rw [← Tenant.request_eq found] at sendable
  exact sendable

theorem askedFor_delivered (site : s.tenant.AtSite) (noDots : NoDots e.ids)
    (plain : Web.Headers.isValue contentType = true) {url : Url}
    (found : s.tenant.url e.path [] = .ok url)
    (sent : after.service =
      s.logged.delivered (s.tenant.request method url contentType none) before.service)
    (reachable : must → s.tenant.Reachable) : AskedFor method e must before after := by
  unfold Setting.delivered at sent
  by_cases sendable : Sendable (s.tenant.request method url contentType none)
  · rw [if_pos sendable] at sent
    refine ⟨[(s.tenant.request method url contentType none,
      (s.service (s.tenant.request method url contentType none) before.service.1).1)],
      by rw [sent]; rfl, by simp, by simp, ?_⟩
    intro exchange member
    rw [List.mem_singleton.mp member]
    exact ⟨rfl, (site.namedBy_iff found sendable.2).mpr noDots⟩
  · rw [if_neg sendable] at sent
    exact askedFor_quiet sent fun h => sendable ((reachable h).sendable_to found plain)

theorem askedFor_perform (site : s.tenant.AtSite) (noDots : NoDots e.ids) (method : Method)
    (session : Session (σ × Log)) :
    AskedFor method e s.tenant.Reachable session (s.logged.perform method e.path session).2 := by
  cases found : s.tenant.url e.path [] with
  | error failure =>
    refine askedFor_quiet ?_ fun reachable => ?_
    · rw [s.logged.perform_unaddressed found]
    · cases (reachable.url e.path_isPath []).symm.trans found
  | ok url =>
    exact askedFor_delivered site noDots (by decide) found
      (s.logged.perform_service found method session) id

/-- Whether a look-up of an endpoint would find no body that is kept. -/
def Lacks (s : Setting σ) (e : Endpoint) (session : Session σ) : Prop :=
  ∀ url, s.tenant.url e.path [] = .ok url → session.keptUnder (s.time session) url = none

theorem askedFor_getKept (decode : Json → Option α) (site : s.tenant.AtSite)
    (noDots : NoDots e.ids) (plain : Web.Headers.isValue contentType = true)
    (session : Session (σ × Log)) :
    AskedFor .get e (s.tenant.Reachable ∧ Lacks s.logged e session) session
      (s.logged.getKept contentType decode e.path session).2 := by
  cases found : s.tenant.url e.path [] with
  | error failure =>
    refine askedFor_quiet ?_ fun ⟨reachable, _⟩ => ?_
    · rw [s.logged.getKept_unaddressed found]
    · cases (reachable.url e.path_isPath []).symm.trans found
  | ok url =>
    have sent := s.logged.getKept_service decode contentType found session
    by_cases missing : session.keptUnder (s.logged.time session) url = none
    · rw [if_pos missing] at sent
      exact askedFor_delivered site noDots plain found sent And.left
    · rw [if_neg missing] at sent
      exact askedFor_quiet sent fun ⟨_, lacks⟩ => missing (lacks url found)

theorem AskedFor.of_service {must must' : Prop} {method : Method} {e : Endpoint}
    {before after after' : Session (σ × Log)} (asked : AskedFor method e must before after)
    (same : after'.service = after.service) (weaker : must' → must) :
    AskedFor method e must' before after' := by
  obtain ⟨log, sent, once, some, named⟩ := asked
  exact ⟨log, by rw [same, sent], once, fun h => some (weaker h), named⟩

end AskedFor

/-! The calls themselves. -/

theorem Membership.change_service (s : Setting σ) (method : Method)
    (groupId userId operation : String) (session : Session σ) :
    (Membership.change s method groupId userId operation session).2.service =
      (s.perform method (Endpoint.membership groupId userId).path session).2.service := by
  have forgotten : ∀ between : Session σ,
      ((s.forget (Groups.pathOf groupId) : Call σ Fault Unit) between).2.service =
        between.service := by
    intro between
    unfold Setting.forget
    split <;> rfl
  rw [Endpoint.path_membership, change, Call.bind_service, Call.within_session]
  intro info between
  rw [Call.bind_service (fun _ _ => rfl), forgotten]

theorem Users.get_service (s : Setting σ) (id : String) (session : Session σ) :
    (Users.get s id session).2.service =
      if s.tenant.loweredEmailDomains = [] then session.service
      else (s.getKept withoutCredentialsType UserRecord.decode? (Endpoint.user id).path
        session).2.service := by
  rw [Endpoint.path_user]
  unfold Users.get
  cases s.tenant.loweredEmailDomains with
  | nil => rfl
  | cons domain others =>
    dsimp only [List.isEmpty_cons]
    rw [if_neg Bool.false_ne_true, if_neg (by simp), Call.bind_service, Call.attempt_session]
    intro result between
    cases result with
    | ok found => rfl
    | error e =>
      dsimp only
      split <;> rfl

theorem Groups.get_service (s : Setting σ) (id : String) (session : Session σ) :
    (Groups.get s id session).2.service =
      (s.getKept jsonType GroupRecord.decode? (Endpoint.group id).path session).2.service := by
  rw [Endpoint.path_group, Groups.get, Call.bind_service, Call.attempt_session]
  intro result between
  cases result with
  | ok found => rfl
  | error e =>
    dsimp only
    split <;> rfl

def Roles.LooksUp (t : Tenant) (id : ResourceId) : Prop :=
  id.resourceType = "role" ∧ Role.ofType? id.resource = none ∧ t.syncCustomRoles = true

theorem Roles.get_service (s : Setting σ) (id : ResourceId) (session : Session σ) :
    (Roles.LooksUp s.tenant id ∧ (Roles.get s id session).2.service =
      (s.getKept jsonType Role.decode? (Endpoint.customRole id.resource).path
        session).2.service) ∨
    ¬Roles.LooksUp s.tenant id ∧ (Roles.get s id session).2.service = session.service := by
  rw [Endpoint.path_customRole]
  unfold Roles.get LooksUp
  by_cases isRole : id.resourceType = "role"
  · rw [if_neg (not_not_intro isRole)]
    cases standard : Role.ofType? id.resource with
    | some role => exact .inr ⟨by simp, rfl⟩
    | none =>
      cases wanted : s.tenant.syncCustomRoles with
      | false => exact .inr ⟨by simp, rfl⟩
      | true =>
        refine .inl ⟨⟨isRole, rfl, rfl⟩, ?_⟩
        dsimp only
        rw [if_pos rfl, Call.bind_service, Call.attempt_session]
        intro result between
        cases result with
        | ok found => rfl
        | error e =>
          dsimp only
          split <;> rfl
  · rw [if_pos isRole]
    exact .inr ⟨fun h => isRole h.1, rfl⟩

/-- At a tenant that is a site, a change of membership sends its one request to that membership, and
a look-up sends at most one, to what it looks up. No two endpoints share a target, or the text under
which a body is kept. Ids of one dot or of two are left out: their addresses name something else. -/
theorem requests_addressed (s : Setting σ) (site : s.tenant.AtSite) :
    (∀ (principal : Resource) (entitlement : Entitlement) (session : Session (σ × Log)),
      principal.id.resourceType = "user" →
      NoDots [entitlement.resource.resource, principal.id.resource] →
      AskedFor .put (.membership entitlement.resource.resource principal.id.resource)
        s.tenant.Reachable session (Membership.grant s.logged principal entitlement session).2) ∧
    (∀ (grant : Grant) (session : Session (σ × Log)),
      grant.principal.resourceType = "user" →
      NoDots [grant.entitlement.resource.resource, grant.principal.resource] →
      AskedFor .delete (.membership grant.entitlement.resource.resource grant.principal.resource)
        s.tenant.Reachable session (Membership.revoke s.logged grant session).2) ∧
    (∀ (id : String) (session : Session (σ × Log)), NoDots [id] →
      AskedFor .get (.user id) (s.tenant.loweredEmailDomains ≠ [] ∧ s.tenant.Reachable ∧
          Lacks s.logged (.user id) session)
        session (Users.get s.logged id session).2) ∧
    (∀ (id : String) (session : Session (σ × Log)), NoDots [id] →
      AskedFor .get (.group id) (s.tenant.Reachable ∧ Lacks s.logged (.group id) session)
        session (Groups.get s.logged id session).2) ∧
    (∀ (id : ResourceId) (session : Session (σ × Log)), NoDots [id.resource] →
      AskedFor .get (.customRole id.resource) (Roles.LooksUp s.tenant id ∧ s.tenant.Reachable ∧
          Lacks s.logged (.customRole id.resource) session)
        session (Roles.get s.logged id session).2) ∧
    (∀ (e e' : Endpoint) (u u' : Url), NoDots e.ids → NoDots e'.ids →
      s.tenant.url e.path [] = .ok u → s.tenant.url e'.path [] = .ok u' →
      u.target = u'.target ∨ u.text = u'.text → e = e') ∧
    (∀ (e : Endpoint) (u : Url), s.tenant.url e.path [] = .ok u → u.isWeb = true →
      (e.NamedBy u ↔ NoDots e.ids)) := by
  refine ⟨?_, ?_, ?_, ?_, ?_, ?_, ?_⟩
  · intro principal entitlement session isUser noDots
    have asked := askedFor_perform site (e := .membership entitlement.resource.resource
      principal.id.resource) noDots .put session
    refine asked.of_service ?_ id
    rw [Membership.grant, if_pos isUser]
    exact Membership.change_service s.logged _ _ _ _ session
  · intro grant session isUser noDots
    have asked := askedFor_perform site (e := .membership grant.entitlement.resource.resource
      grant.principal.resource) noDots .delete session
    refine asked.of_service ?_ id
    rw [Membership.revoke, if_pos isUser]
    exact Membership.change_service s.logged _ _ _ _ session
  · intro id session noDots
    have service := Users.get_service s.logged id session
    by_cases nobody : s.tenant.loweredEmailDomains = []
    · exact askedFor_quiet (service.trans (if_pos nobody)) fun must => must.1 nobody
    · have plain : Web.Headers.isValue withoutCredentialsType = true := by decide
      have asked := askedFor_getKept UserRecord.decode? site (e := .user id) noDots plain session
      exact asked.of_service (service.trans (if_neg nobody)) And.right
  · intro id session noDots
    have plain : Web.Headers.isValue jsonType = true := by decide
    have asked := askedFor_getKept GroupRecord.decode? site (e := .group id) noDots plain session
    exact asked.of_service (Groups.get_service s.logged id session) fun must => must
  · intro id session noDots
    rcases Roles.get_service s.logged id session with ⟨_, service⟩ | ⟨not, service⟩
    · have plain : Web.Headers.isValue jsonType = true := by decide
      have asked := askedFor_getKept Role.decode? site (e := .customRole id.resource) noDots plain
        session
      exact asked.of_service service And.right
    · exact askedFor_quiet service fun must => not must.1
  · intro e e' u u' noDots noDots' found found' same
    exact site.endpoint_inj noDots noDots' found found' same
  · intro e u found web
    exact site.namedBy_iff found web

/-! A tenant at a site, and the membership of one user in one group. -/

def acmeSetting : Setting (List Web.Response × Log) := (Setting.scripted .acme).logged

def acmeSession : Session (List Web.Response × Log) :=
  Session.start Tenant.acme ([⟨204, [], ""⟩], [])

def memberOf (groupId userId : String) : Grant where
  id := ""
  entitlement := { id := "", resource := ⟨"group", groupId⟩, slug := "member", displayName := "" }
  principal := ⟨"user", userId⟩

theorem Tenant.acme_atSite : acme.AtSite :=
  ⟨"https".toList, "acme.okta.com".toList, by decide, Web.forall_of_all (by decide), by decide,
    Web.forall_of_all (by decide)⟩

theorem requests_addressed_of_acme :
    Tenant.acme.AtSite ∧ NoDots ["a/b", "..."] ∧
      ∃ exchange : Request × Reply,
        (Membership.revoke acmeSetting (memberOf "a/b" "...") acmeSession).2.service.2 =
          [exchange] ∧
        exchange.1.method = .delete ∧
          Endpoint.NamedBy (.membership "a/b" "...") exchange.1.url := by
  have noDots : NoDots ["a/b", "..."] := by unfold NoDots; decide
  refine ⟨Tenant.acme_atSite, noDots, ?_⟩
  obtain ⟨_, revoked, _⟩ := requests_addressed (Setting.scripted .acme) Tenant.acme_atSite
  obtain ⟨asked, sent, once, some, named⟩ := revoked (memberOf "a/b" "...") acmeSession rfl noDots
  obtain ⟨exchange, rfl⟩ : ∃ exchange, asked = [exchange] := by
    have filled := List.length_pos_iff.mpr (some Tenant.acme_reachable)
    exact List.length_eq_one_iff.mp (by omega)
  exact ⟨exchange, sent, named exchange List.mem_cons_self⟩

/-- To revoke a membership in the group of two dots is to delete the user. -/
theorem revoke_reaches_user :
    ∃ exchange : Request × Reply,
      (Membership.revoke acmeSetting (memberOf ".." "00u1") acmeSession).2.service.2 =
        [exchange] ∧
      exchange.1.method = .delete ∧ Endpoint.NamedBy (.user "00u1") exchange.1.url ∧
        ¬Endpoint.NamedBy (.membership ".." "00u1") exchange.1.url := by
  let url : Url :=
    { scheme := "https".toList, host := some (.name "acme.okta.com".toList)
      path := .segments ["api".toList, "v1".toList, "users".toList, "00u1".toList] }
  have found : Tenant.acme.url (Endpoint.membership ".." "00u1").path [] = .ok url := by
    have parsed : Url.parse none
        (Tenant.acme.apiBaseUrl ++ (Endpoint.membership ".." "00u1").path).toList = .ok url :=
      Url.ok_of_toOption (by decide +kernel)
    rw [Tenant.url, parsed]
    rfl
  have sendable : Sendable (acmeSetting.tenant.request .delete url jsonType none) :=
    Tenant.acme_reachable.sendable_to found (by decide)
  have isUser : (memberOf ".." "00u1").principal.resourceType = "user" := rfl
  have performed := acmeSetting.perform_service found .delete acmeSession
  rw [Setting.delivered, if_pos sendable] at performed
  refine ⟨(Tenant.acme.request .delete url jsonType none, .response ⟨204, [], ""⟩), ?_, rfl,
    ⟨rfl, _, rfl, "00u1".toList, rfl, by decide +kernel⟩, ?_⟩
  · rw [Membership.revoke, if_pos isUser]
    have changed := Membership.change_service acmeSetting .delete ".." "00u1"
    exact congrArg Prod.snd ((changed _ acmeSession).trans performed)
  · rintro ⟨_, segments, same, s, t, rfl, _⟩
    cases same

end AccessCatalog.Okta
