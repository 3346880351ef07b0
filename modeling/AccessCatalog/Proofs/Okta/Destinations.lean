import AccessCatalog.Proofs.Okta.NewAccounts
import AccessCatalog.Proofs.Okta.TokenSecrecy
import AccessCatalog.Proofs.Web.Roots

/-! Where calls go, and how they fail, at a tenant whose address is a root. What a call works out by
itself never blames the configuration, and no request does, for every path has an address. So a call
keeps to its own paths step by step, and its faults are those of the service and of the caller. -/
namespace AccessCatalog

/-- Whether something else than the configuration is at fault. -/
def Fault.SparesConfiguration (fault : Fault) : Prop :=
  ∀ message, fault ≠ .invalidConfiguration message

open Fault (SparesConfiguration)

namespace FailsAs

variable {α : Type}

theorem invalidToken (message : String) :
    FailsAs SparesConfiguration (.error (.invalidToken message) : Except Fault α) := error nofun

theorem validation (message : String) :
    FailsAs SparesConfiguration (.error (.validation message) : Except Fault α) := error nofun

end FailsAs

/-! What calls work out by themselves. -/

namespace Bag

theorem push_sparing (b : Bag) (s : PageState) : FailsAs SparesConfiguration (b.push s) := by
  unfold push
  split
  · exact .invalidToken _
  · exact .ok _

theorem next_sparing (b : Bag) (cursor : String) :
    FailsAs SparesConfiguration (b.next cursor) := by
  unfold next
  split
  · exact .invalidToken _
  · exact .ok _

theorem pushAll_sparing (phases : List String) (b : Bag) :
    FailsAs SparesConfiguration (b.pushAll phases).2 := by
  induction phases generalizing b with
  | nil => exact .ok _
  | cons phase rest ih =>
    have pushed := b.push_sparing { resourceType := phase }
    unfold pushAll
    split
    · exact ih _
    · rename_i fault refused
      exact .error (pushed fault refused)

theorem ofToken_sparing (token : String) : FailsAs SparesConfiguration (ofToken token) := by
  unfold ofToken
  split
  · exact .ok _
  · split
    · exact .invalidToken _
    · split
      · exact .invalidToken _
      · split
        · exact .invalidToken _
        · exact .ok _

theorem resume_sparing (token : String) (first : PageState) :
    FailsAs SparesConfiguration (resume token first) := by
  refine .bind (ofToken_sparing token) fun b => ?_
  split
  · exact b.push_sparing first
  · exact .ok b

end Bag

theorem Resource.groupProfile_sparing (r : Resource) :
    FailsAs SparesConfiguration r.groupProfile := by
  unfold groupProfile
  split
  · exact .ok _
  · exact .validation _

namespace Okta

open Web (Url Method Request Reply Service Log)
open Web.Url (NoDots namesPath)

variable {σ α β ε ε' : Type}

theorem Roles.resume_sparing (token : String) (phases : List String) :
    FailsAs SparesConfiguration (resume token phases) := by
  refine .bind (Bag.ofToken_sparing token) fun b => ?_
  split
  · exact .bind (Bag.pushAll_sparing _ b) fun _ => .ok _
  · exact .ok b

namespace Accounts

theorem newProfile_sparing (info : AccountInfo) :
    FailsAs SparesConfiguration (newProfile info) := by
  -- Three attributes are demanded, in the same way.
  refine .bind ?_ fun _ => .bind ?_ fun _ => .bind ?_ fun _ => .ok _
  all_goals
    dsimp only
    split
    · exact .ok _
    · exact .validation _

theorem query_sparing (info : AccountInfo) (options : CredentialOptions) :
    FailsAs SparesConfiguration (query info options) := by
  refine query_fails (fun fault refused => ?_) options
  obtain ⟨message, rfl⟩ := passwordChangeRequired_error refused
  nofun

theorem password_sparing (draws : Nat → Nat) (options : CredentialOptions) :
    FailsAs SparesConfiguration (password draws options) := by
  refine password_fails (fun requested => .bind ?_ fun _ => .ok _) options
  unfold Password.length
  split
  · exact .validation _
  · exact .ok _

end Accounts

theorem LogEvent.change?_sparing (event : LogEvent) :
    FailsAs SparesConfiguration event.change? := by
  unfold LogEvent.change?
  split
  · rename_i f found
    have only : f = .userLifecycle := List.mem_singleton.mp (List.mem_of_find?_eq_some found)
    subst only
    refine .map _ ?_
    unfold EventFilter.handle EventFilter.userLifecycle EventFilter.userChange
    dsimp only
    split
    · exact .ok _
    · exact .validation _
  · exact .ok _

/-! Calls. -/

/-- Whether a failure spares the configuration, whatever operation it belongs to. -/
def Failure.SparesConfiguration (e : Failure) : Prop :=
  ∀ operation, (e.context operation).SparesConfiguration

/-- Whether a call fails in no other ways, and asks for nothing else. -/
def Call.KeepsTo (faults : ε → Prop) (requests : Request → Prop) (c : Call (σ × Log) ε α) : Prop :=
  ∀ session, FailsAs faults (c session).1 ∧
    ∃ asked : Log, (c session).2.service.2 = session.service.2 ++ asked ∧
      ∀ exchange ∈ asked, requests exchange.1

namespace Call.KeepsTo

variable {faults : ε → Prop} {requests : Request → Prop}

/-- A call that asks for nothing. -/
theorem silent {c : Call (σ × Log) ε α}
    (quiet : ∀ session, FailsAs faults (c session).1 ∧ (c session).2.service = session.service) :
    KeepsTo faults requests c := fun session =>
  ⟨(quiet session).1, [], by rw [(quiet session).2, List.append_nil], by simp⟩

theorem pure (a : α) : KeepsTo faults requests (pure a : Call (σ × Log) ε α) :=
  silent fun _ => ⟨.ok a, rfl⟩

theorem throw {e : ε} (isFault : faults e) :
    KeepsTo faults requests (throw e : Call (σ × Log) ε α) :=
  silent fun _ => ⟨.error isFault, rfl⟩

theorem ofExcept {r : Except ε α} (fails : FailsAs faults r) :
    KeepsTo faults requests (ofExcept r : Call (σ × Log) ε α) :=
  silent fun _ => ⟨fails, rfl⟩

/-- The second call may take for granted what the first one gives. -/
theorem bind_of {P : α → Prop} {c : Call (σ × Log) ε α} {f : α → Call (σ × Log) ε β}
    (first : KeepsTo faults requests c) (gives : ∀ session a, (c session).1 = .ok a → P a)
    (rest : ∀ a, P a → KeepsTo faults requests (f a)) : KeepsTo faults requests (c >>= f) := by
  intro session
  obtain ⟨fails, asked, log, allowed⟩ := first session
  have given := gives session
  cases called : c session with
  | mk result between =>
    rw [called] at fails log given
    cases result with
    | error e =>
      rw [bind_error called]
      exact ⟨.error (fails e rfl), asked, log, allowed⟩
    | ok a =>
      obtain ⟨fails', asked', log', allowed'⟩ := rest a (given a rfl) between
      rw [bind_ok called]
      refine ⟨fails', asked ++ asked', ?_, fun exchange member => ?_⟩
      · rw [log', log, List.append_assoc]
      · exact (List.mem_append.mp member).elim (allowed exchange) (allowed' exchange)

theorem bind {c : Call (σ × Log) ε α} {f : α → Call (σ × Log) ε β}
    (first : KeepsTo faults requests c) (rest : ∀ a, KeepsTo faults requests (f a)) :
    KeepsTo faults requests (c >>= f) :=
  bind_of (P := fun _ => True) first (fun _ _ _ => trivial) fun a _ => rest a

theorem map (f : α → β) {c : Call (σ × Log) ε α} (keeps : KeepsTo faults requests c) :
    KeepsTo faults requests (f <$> c) := by
  intro session
  obtain ⟨fails, asked⟩ := keeps session
  rw [Call.map_eq]
  exact ⟨.map f fails, asked⟩

theorem within {c : Call (σ × Log) Failure α}
    (keeps : KeepsTo Failure.SparesConfiguration requests c) (operation : String) :
    KeepsTo SparesConfiguration requests (c.within operation) := by
  intro session
  obtain ⟨fails, asked⟩ := keeps session
  cases called : c session with
  | mk result after =>
    rw [called] at fails asked
    cases result with
    | error e =>
      rw [within_error called]
      exact ⟨.error (fails e rfl operation), asked⟩
    | ok a =>
      rw [within_ok called]
      exact ⟨.ok a, asked⟩

/-- What is made of a failure that is handed on may take for granted what it is. -/
theorem attempt {faults' : ε' → Prop} {c : Call (σ × Log) ε α}
    {f : Except ε α → Call (σ × Log) ε' β} (keeps : KeepsTo faults requests c)
    (rest : ∀ result, FailsAs faults result → KeepsTo faults' requests (f result)) :
    KeepsTo faults' requests (c.attempt >>= f) := by
  have handedOn : ∀ session, (c.attempt : Call (σ × Log) ε' (Except ε α)) session =
      (.ok (c session).1, (c session).2) := fun _ => attempt_eq rfl
  refine bind_of (P := FailsAs faults) (fun session => ?_) (fun session result same => ?_) rest
  · rw [handedOn]
    exact ⟨.ok _, (keeps session).2⟩
  · rw [handedOn] at same
    exact Except.ok.inj same ▸ (keeps session).1

end Call.KeepsTo

/-! Requests. -/

namespace Failure

theorem http_sparing (detail : String) : (http detail).SparesConfiguration :=
  fun _ _ same => by cases same

theorem json_sparing : json.SparesConfiguration := fun _ _ same => by cases same

theorem api_sparing (status : Nat) (error : ApiError) (rateLimit : Option RateLimit) :
    (api status error rateLimit).SparesConfiguration := by
  intro operation message same
  dsimp only [context] at same
  split at same <;> cases same

end Failure

theorem decodeBody_sparing (decode : Json → Option α) (body : String) :
    FailsAs Failure.SparesConfiguration (Setting.decodeBody decode body) := by
  unfold Setting.decodeBody
  split
  · exact .ok _
  · exact .error Failure.json_sparing

theorem reply_sparing (reply : Reply) :
    FailsAs Failure.SparesConfiguration ((received reply).bind accepted) := by
  cases reply with
  | dropped | unreachable => exact .error (Failure.http_sparing _)
  | response response =>
    show FailsAs _ (accepted response)
    unfold accepted
    dsimp only
    split
    · exact .ok _
    · exact .error (Failure.api_sparing _ _ _)

theorem Setting.send_keepsTo (s : Setting σ) {requests : Request → Prop} {r : Request}
    (allowed : requests r) :
    Call.KeepsTo Failure.SparesConfiguration requests (s.logged.send r) := by
  intro session
  by_cases sendable : Sendable r
  · rw [s.logged.send_sendable sendable]
    exact ⟨reply_sparing _, [(r, _)], rfl, by simpa using allowed⟩
  · rw [s.logged.send_unsendable sendable]
    exact ⟨.error (Failure.http_sparing _), [], (List.append_nil _).symm, by simp⟩

/-! Tenants at roots. -/

/-- Whether the address of a tenant is that of a host, without anything else. -/
def Tenant.AtRoot (t : Tenant) : Prop :=
  ∃ root : Url, Url.parse none (t.apiBaseUrl ++ "/").toList = .ok root ∧ root.IsRoot

/-- Whether an address has these pairs in its query, and neither credentials nor a fragment. -/
structure Carries (pairs : List (String × String)) (u : Url) : Prop where
  credentials : u.credentials = none
  fragment : u.fragment = none
  pairs : u.queryPairs = pairs.filter fun p => !p.2.isEmpty

/-- Whether the tenant has an address for a path and pairs, with this path, these pairs, and nothing
else but the host. -/
def Tenant.Reaches (t : Tenant) (segments : List (List Char)) (pairs : List (String × String)) :
    Prop :=
  ∃ u, t.url (String.ofList (Url.pathText (.segments segments))) pairs = .ok u ∧
    u.path = .segments segments ∧ Carries pairs u

/-- Whether a request goes to one of these paths. -/
def Tenant.AsksUnder (t : Tenant) (routes : List (List String)) (r : Request) : Prop :=
  ∃ names ∈ routes, ∃ pairs,
    t.url (String.ofList (namesPath ("api" :: names))) pairs = .ok r.url

theorem carries_appendPairs {root : Url} (isRoot : root.IsRoot) (path : Web.Path)
    (pairs : List (String × String)) :
    Carries pairs
      (Url.appendPairs { root with path } (pairs.filter fun p => !p.2.isEmpty)) := by
  have front : ({ root with path } : Url).queryPairs = [] := by
    rw [Url.queryPairs, isRoot.query]
    rfl
  refine ⟨(Url.appendPairs_credentials _ _).trans isRoot.credentials,
    (Url.appendPairs_fragment _ _).trans isRoot.fragment, ?_⟩
  rw [Url.appendPairs_queryPairs, front, List.nil_append]

namespace Tenant.AtRoot

variable {t : Tenant} (root : t.AtRoot)
include root

/-- Every path has an address. -/
theorem url {path : String} (isPath : Web.IsPath path.toList) (pairs : List (String × String)) :
    ∃ u, t.url path pairs = .ok u ∧ Carries pairs u := by
  obtain ⟨root, read, isRoot⟩ := root
  rw [String.toList_append] at read
  obtain ⟨p, found⟩ := isRoot.parse_path read isPath
  refine ⟨_, ?_, carries_appendPairs isRoot p pairs⟩
  rw [Tenant.url, String.toList_append, found]

theorem reaches {segments : List (List Char)} (some : segments ≠ [])
    (plain : Url.ArePlain segments) (pairs : List (String × String)) :
    t.Reaches segments pairs := by
  obtain ⟨root, read, isRoot⟩ := root
  rw [String.toList_append] at read
  have found := isRoot.parse_segments read some plain
  refine ⟨_, ?_, Url.appendPairs_path _ _, carries_appendPairs isRoot (.segments segments) pairs⟩
  rw [Tenant.url, String.toList_append, String.toList_ofList, found]

theorem url_api (names : List String) (pairs : List (String × String)) :
    ∃ u, t.url (String.ofList (namesPath ("api" :: names))) pairs = .ok u ∧ Carries pairs u := by
  refine root.url ?_ pairs
  rw [String.toList_ofList]
  exact Url.namesPath_isPath _ names

end Tenant.AtRoot

namespace Setting

variable {s : Setting σ} {routes : List (List String)} {names : List String}

section Requests

variable (root : s.tenant.AtRoot) (inRoutes : names ∈ routes) (path : String)
  (named : path.toList = namesPath ("api" :: names))
include root inRoutes named

/-- A request for one of the paths has an address, and goes there. -/
theorem keepsTo_url (pairs : List (String × String))
    {rest : Url → Call (σ × Log) Failure β}
    (goes : ∀ u, s.tenant.url path pairs = .ok u →
      (∀ r : Request, r.url = u → s.tenant.AsksUnder routes r) →
        Call.KeepsTo Failure.SparesConfiguration (s.tenant.AsksUnder routes) (rest u)) :
    Call.KeepsTo Failure.SparesConfiguration (s.tenant.AsksUnder routes)
      (Call.ofExcept (s.tenant.url path pairs) >>= rest) := by
  have same : path = String.ofList (namesPath ("api" :: names)) := by
    rw [← named, String.ofList_toList]
  obtain ⟨u, found, _⟩ := root.url_api names pairs
  rw [← same] at found
  rw [Call.ofExcept_bind found]
  refine goes u found fun r isUrl => ⟨names, inRoutes, pairs, ?_⟩
  rw [← same, isUrl, found]

theorem get_keepsTo (contentType : String) (decode : Json → Option α)
    (pairs : List (String × String)) :
    Call.KeepsTo Failure.SparesConfiguration (s.tenant.AsksUnder routes)
      (s.logged.get contentType decode path pairs) :=
  keepsTo_url root inRoutes path named pairs fun _ _ asks =>
    .bind (s.send_keepsTo (asks _ rfl)) fun _ =>
      .bind (.ofExcept (decodeBody_sparing decode _)) fun _ => .pure _

theorem post_keepsTo (decode : Json → Option α) (pairs : List (String × String)) (body : Json) :
    Call.KeepsTo Failure.SparesConfiguration (s.tenant.AsksUnder routes)
      (s.logged.post decode path pairs body) :=
  keepsTo_url root inRoutes path named pairs fun _ _ asks =>
    .bind (s.send_keepsTo (asks _ rfl)) fun _ =>
      .bind (.ofExcept (decodeBody_sparing decode _)) fun _ => .pure _

theorem perform_keepsTo (method : Method) :
    Call.KeepsTo Failure.SparesConfiguration (s.tenant.AsksUnder routes)
      (s.logged.perform method path) :=
  keepsTo_url root inRoutes path named [] fun _ _ asks =>
    .bind (s.send_keepsTo (asks _ rfl)) fun _ => .pure _

theorem getKept_keepsTo (contentType : String) (decode : Json → Option α) :
    Call.KeepsTo Failure.SparesConfiguration (s.tenant.AsksUnder routes)
      (s.logged.getKept contentType decode path) := by
  refine keepsTo_url root inRoutes path named [] fun u _ asks => ?_
  have looked : Call.KeepsTo Failure.SparesConfiguration (s.tenant.AsksUnder routes)
      (s.logged.keptBody (String.ofList u.text)) := by
    refine .silent fun session => ?_
    unfold keptBody
    split <;> exact ⟨.ok _, rfl⟩
  have keeps : ∀ body, Call.KeepsTo Failure.SparesConfiguration (s.tenant.AsksUnder routes)
      (s.logged.keepBody (String.ofList u.text) body) := by
    refine fun body => .silent fun session => ?_
    unfold keepBody
    split <;> exact ⟨.ok _, rfl⟩
  refine .bind looked fun kept => ?_
  cases kept with
  | some body => exact .bind (.ofExcept (decodeBody_sparing decode body)) fun _ => .pure _
  | none =>
    exact .bind (s.send_keepsTo (asks _ rfl)) fun answer =>
      .bind (.ofExcept (decodeBody_sparing decode answer.1)) fun _ =>
        .bind (keeps answer.1) fun _ => .pure _

end Requests

theorem forget_keepsTo {faults : ε → Prop} {requests : Request → Prop} (path : String) :
    Call.KeepsTo faults requests (s.logged.forget path : Call (σ × Log) ε Unit) := by
  refine .silent fun session => ?_
  unfold forget
  split <;> exact ⟨.ok _, rfl⟩

end Setting

/-! The paths of calls. -/

theorem namesPath_append (names more : List String) :
    namesPath (names ++ more) = namesPath names ++ namesPath more := by
  simp [namesPath, Url.pathText]

/-- The path of a group with one more name behind it. -/
theorem groupPath_named (id : String) {behind name : String}
    (isName : behind.toList = namesPath [name]) :
    (Groups.pathOf id ++ behind).toList = namesPath ["api", "v1", "groups", id, name] := by
  have group : (Groups.pathOf id).toList = namesPath ["api", "v1", "groups", id] :=
    (Endpoint.group id).path_names
  rw [String.toList_append, group, isName, ← namesPath_append]
  rfl

/-- The paths under which a call asks, by the names in them behind the first one. -/
def ConnectorCall.routes : ConnectorCall → List (List String)
  | list .users _ => [["v1", "users"]]
  | list .groups _ => [["v1", "groups"]]
  | list .roles _ => [["v1", "iam", "roles"]]
  | entitlements _ _ | grants .users _ _ | change _ => []
  | grants .groups group _ => [["v1", "groups", group.id.resource, "users"],
      ["v1", "groups", group.id.resource, "roles"]]
  | grants .roles _ _ => [["v1", "iam", "assignees", "users"], ["internal", "administrators"]]
  | get .users id => [["v1", "users", id.resource]]
  | get .groups id => [["v1", "groups", id.resource]]
  | get .roles id => [["v1", "iam", "roles", id.resource]]
  | grant principal entitlement =>
    [["v1", "groups", entitlement.resource.resource, "users", principal.id.resource]]
  | revoke held =>
    [["v1", "groups", held.entitlement.resource.resource, "users", held.principal.resource]]
  | create _ _ => [["v1", "users"]]
  | validate | metadata => [["v1", "org"]]

section Calls

variable {s : Setting σ} (root : s.tenant.AtRoot)
include root

open Setting

theorem Users.list_keepsTo (r : PageRequest) :
    Call.KeepsTo SparesConfiguration (s.tenant.AsksUnder [["v1", "users"]])
      (Users.list s.logged r) := by
  unfold Users.list
  dsimp only
  split
  · exact .pure _
  · refine .bind (.ofExcept (Bag.resume_sparing _ _)) fun _ => .bind (.within ?_ _) fun _ =>
      .bind (.ofExcept (Bag.next_sparing _ _)) fun _ => .pure _
    exact get_keepsTo root List.mem_cons_self path (by decide) _ _ _

theorem Groups.list_keepsTo (r : PageRequest) :
    Call.KeepsTo SparesConfiguration (s.tenant.AsksUnder [["v1", "groups"]])
      (Groups.list s.logged r) := by
  refine .bind (.ofExcept (Bag.resume_sparing _ _)) fun _ => .bind (.within ?_ _) fun _ =>
    .bind (.ofExcept (Bag.next_sparing _ _)) fun _ => .pure _
  exact get_keepsTo root List.mem_cons_self path (by decide) _ _ _

theorem Roles.list_keepsTo (r : PageRequest) :
    Call.KeepsTo SparesConfiguration (s.tenant.AsksUnder [["v1", "iam", "roles"]])
      (Roles.list s.logged r) := by
  refine .bind (.ofExcept (resume_sparing _ _)) fun bag => ?_
  dsimp only
  split
  · exact .bind (.ofExcept (Bag.next_sparing _ _)) fun _ => .pure _
  · split
    · refine .bind (.within ?_ _) fun _ =>
        .bind (.ofExcept (Bag.next_sparing _ _)) fun _ => .pure _
      exact get_keepsTo root List.mem_cons_self customPath (by decide) _ _ _
    · exact .throw nofun

/-! Look-ups. -/

theorem Inquiry.run_keepsTo (i : Inquiry α) {routes : List (List String)} {names : List String}
    (inRoutes : names ∈ routes) (named : i.path.toList = namesPath ("api" :: names)) :
    Call.KeepsTo SparesConfiguration (s.tenant.AsksUnder routes) (i.run s.logged) := by
  have concludes : ∀ result (session : Session (σ × Log)),
      Call.ofExcept (i.conclude result) session = (i.conclude result, session) := fun _ _ => rfl
  rw [← i.run_eq s.logged concludes]
  refine .attempt (getKept_keepsTo root inRoutes i.path named _ _) fun result fails => .ofExcept ?_
  cases result with
  | ok answer => exact .ok _
  | error e =>
    unfold Inquiry.conclude
    dsimp only
    split
    · exact .ok _
    · exact .error (fails e rfl _)

theorem Users.get_keepsTo (id : String) :
    Call.KeepsTo SparesConfiguration (s.tenant.AsksUnder [["v1", "users", id]])
      (Users.get s.logged id) := by
  rw [get_eq]
  split
  · exact .pure _
  · exact (Inquiry.user s.tenant id).run_keepsTo root List.mem_cons_self
      (Endpoint.user id).path_names

theorem Groups.get_keepsTo (id : String) :
    Call.KeepsTo SparesConfiguration (s.tenant.AsksUnder [["v1", "groups", id]])
      (Groups.get s.logged id) := by
  rw [get_eq]
  exact (Inquiry.group id).run_keepsTo root List.mem_cons_self (Endpoint.group id).path_names

theorem Roles.get_keepsTo (id : ResourceId) :
    Call.KeepsTo SparesConfiguration (s.tenant.AsksUnder [["v1", "iam", "roles", id.resource]])
      (Roles.get s.logged id) := by
  rw [get_eq]
  split
  · exact .pure _
  · split
    · exact .pure _
    · split
      · exact (Inquiry.customRole id.resource).run_keepsTo root List.mem_cons_self
          (Endpoint.customRole id.resource).path_names
      · exact .pure _

/-! Grants. -/

theorem Groups.memberPage_keepsTo {routes : List (List String)} (group : Resource)
    (inRoutes : ["v1", "groups", group.id.resource, "users"] ∈ routes) (count : Option Int)
    (bag : Bag) (limit : Nat) :
    Call.KeepsTo SparesConfiguration (s.tenant.AsksUnder routes)
      (memberPage s.logged group count bag limit) := by
  unfold memberPage
  dsimp only
  split
  · exact .bind (.ofExcept (Bag.next_sparing _ _)) fun _ => .pure _
  · refine .bind (.within ?_ _) fun _ => .bind (.ofExcept (Bag.next_sparing _ _)) fun _ => .pure _
    exact Setting.get_keepsTo root inRoutes _ (groupPath_named _ (by decide)) _ _ _

theorem Groups.rolePage_keepsTo {routes : List (List String)} (group : Resource)
    (inRoutes : ["v1", "groups", group.id.resource, "roles"] ∈ routes) (count : Option Int)
    (bag : Bag) (limit : Nat) :
    Call.KeepsTo SparesConfiguration (s.tenant.AsksUnder routes)
      (rolePage s.logged group count bag limit) := by
  refine .attempt (Setting.get_keepsTo root inRoutes _ (groupPath_named _ (by decide)) _ _ _) ?_
  intro result fails
  cases result with
  | ok answer => exact .bind (.ofExcept (Bag.next_sparing _ _)) fun _ => .pure _
  | error e =>
    dsimp only
    split
    · exact .bind (.ofExcept (Bag.next_sparing _ _)) fun _ => .pure _
    · exact .throw (fails e rfl _)

theorem Groups.grants_keepsTo (group : Resource) (r : PageRequest) :
    Call.KeepsTo SparesConfiguration
      (s.tenant.AsksUnder [["v1", "groups", group.id.resource, "users"],
        ["v1", "groups", group.id.resource, "roles"]])
      (grants s.logged group r) := by
  refine .bind (.ofExcept (Roles.resume_sparing _ _)) fun bag =>
    .bind (.ofExcept group.groupProfile_sparing) fun profile => ?_
  dsimp only
  split
  · exact memberPage_keepsTo root group (by simp) _ bag _
  · split
    · exact rolePage_keepsTo root group (by simp) _ bag _
    · exact .throw nofun

section Flags

variable {routes : List (List String)} (inRoutes : ["internal", "administrators"] ∈ routes)
include inRoutes

theorem Roles.fetchFlags_keepsTo (userId : String) :
    Call.KeepsTo SparesConfiguration (s.tenant.AsksUnder routes) (fetchFlags s.logged userId) := by
  refine .attempt (Setting.get_keepsTo root inRoutes administratorsPath (by decide) _ _ _) ?_
  intro result fails
  cases result with
  | ok answer => exact .pure _
  | error e =>
    dsimp only
    split
    · exact .pure _
    · exact .throw (fails e rfl _)

theorem Roles.flags_keepsTo (userId : String) :
    Call.KeepsTo SparesConfiguration (s.tenant.AsksUnder routes) (flags s.logged userId) := by
  refine .bind (.silent fun _ => ⟨.ok _, rfl⟩) fun known => ?_
  cases known with
  | some flags => exact .pure _
  | none =>
    exact .bind (fetchFlags_keepsTo root inRoutes userId) fun _ =>
      .bind (.silent fun _ => ⟨.ok _, rfl⟩) fun _ => .pure _

theorem Roles.holders_keepsTo (roleId : String) (users : List String) :
    Call.KeepsTo SparesConfiguration (s.tenant.AsksUnder routes)
      (holders s.logged roleId users) := by
  induction users with
  | nil => exact .pure _
  | cons userId rest ih =>
    exact .bind (flags_keepsTo root inRoutes userId) fun _ => .bind ih fun _ => .pure _

end Flags

theorem Roles.grants_keepsTo (role : Resource) (r : PageRequest) :
    Call.KeepsTo SparesConfiguration
      (s.tenant.AsksUnder [["v1", "iam", "assignees", "users"], ["internal", "administrators"]])
      (grants s.logged role r) := by
  refine .bind (.ofExcept (Bag.resume_sparing _ _)) fun _ => .bind (.within ?_ _) fun _ =>
    .bind (.ofExcept (Bag.next_sparing _ _)) fun _ =>
      .bind (holders_keepsTo root (by simp) _ _) fun _ => .pure _
  exact Setting.get_keepsTo root List.mem_cons_self assigneesPath (by decide) _ _ _

/-! Changes, and the connector itself. -/

theorem Membership.change_keepsTo (method : Method) (groupId userId operation : String) :
    Call.KeepsTo SparesConfiguration
      (s.tenant.AsksUnder [["v1", "groups", groupId, "users", userId]])
      (change s.logged method groupId userId operation) := by
  refine .bind (.within ?_ _) fun _ => .bind (forget_keepsTo _) fun _ => .pure _
  exact perform_keepsTo root List.mem_cons_self _ (Endpoint.membership groupId userId).path_names _

theorem Membership.grant_keepsTo (principal : Resource) (entitlement : Entitlement) :
    Call.KeepsTo SparesConfiguration
      (s.tenant.AsksUnder
        [["v1", "groups", entitlement.resource.resource, "users", principal.id.resource]])
      (grant s.logged principal entitlement) := by
  unfold grant
  dsimp only
  split
  · exact change_keepsTo root _ _ _ _
  · exact .throw nofun

theorem Membership.revoke_keepsTo (held : Grant) :
    Call.KeepsTo SparesConfiguration
      (s.tenant.AsksUnder
        [["v1", "groups", held.entitlement.resource.resource, "users", held.principal.resource]])
      (revoke s.logged held) := by
  unfold revoke
  dsimp only
  split
  · exact change_keepsTo root _ _ _ _
  · exact .throw nofun

theorem Accounts.create_keepsTo (info : AccountInfo) (options : CredentialOptions) :
    Call.KeepsTo SparesConfiguration (s.tenant.AsksUnder [["v1", "users"]])
      (create s.logged info options) := by
  refine .bind (.ofExcept (newProfile_sparing _)) fun _ =>
    .bind (.ofExcept (query_sparing _ _)) fun _ =>
      .bind (.ofExcept (password_sparing _ _)) fun _ => .bind (.within ?_ _) fun _ => .pure _
  exact post_keepsTo root List.mem_cons_self Users.path (by decide) _ _ _

theorem Connector.validate_keepsTo :
    Call.KeepsTo SparesConfiguration (s.tenant.AsksUnder [["v1", "org"]])
      (validate s.logged) := by
  unfold validate
  split
  · refine .bind (.within ?_ _) fun _ => .pure _
    exact get_keepsTo root List.mem_cons_self organizationPath (by decide) _ _ _
  · exact .pure _

theorem Connector.metadata_keepsTo :
    Call.KeepsTo SparesConfiguration (s.tenant.AsksUnder [["v1", "org"]])
      (metadata s.logged) :=
  .bind (validate_keepsTo root) fun _ => .pure _

/-- No call blames the configuration, and each asks under its own paths only. -/
theorem ConnectorCall.run_keepsTo (call : ConnectorCall) :
    Call.KeepsTo SparesConfiguration (s.tenant.AsksUnder call.routes) (call.run s.logged) := by
  cases call with
  | list syncer r =>
    cases syncer with
    | users => exact .map _ (Users.list_keepsTo root r)
    | groups => exact .map _ (Groups.list_keepsTo root r)
    | roles => exact .map _ (Roles.list_keepsTo root r)
  | entitlements syncer resource => exact .pure _
  | grants syncer resource r =>
    cases syncer with
    | users => exact .map _ (.pure _)
    | groups => exact .map _ (Groups.grants_keepsTo root resource r)
    | roles => exact .map _ (Roles.grants_keepsTo root resource r)
  | get syncer id =>
    cases syncer with
    | users => exact .map _ (Users.get_keepsTo root id.resource)
    | groups => exact .map _ (Groups.get_keepsTo root id.resource)
    | roles => exact .map _ (Roles.get_keepsTo root id)
  | grant principal entitlement =>
    exact .map _ (Membership.grant_keepsTo root principal entitlement)
  | revoke held => exact .map _ (Membership.revoke_keepsTo root held)
  | create info options => exact .map _ (Accounts.create_keepsTo root info options)
  | validate => exact .map _ (Connector.validate_keepsTo root)
  | metadata => exact .map _ (Connector.metadata_keepsTo root)
  | change event => exact .map _ (.ofExcept event.change?_sparing)

end Calls

end Okta
end AccessCatalog
