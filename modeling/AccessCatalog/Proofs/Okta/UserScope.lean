import AccessCatalog.Okta.Users
import AccessCatalog.Proofs.Catalog.Attributes
import AccessCatalog.Proofs.Okta.Phases
import AccessCatalog.Proofs.Okta.Traffic
import AccessCatalog.Proofs.Paging.Frames
import AccessCatalog.Proofs.Text.Casing

/-! Which users a tenant sees. A user is in scope by an address in one of the tenant's domains, in
whatever case either is written. The listing of users has those in scope and nobody else, and a
look-up of one user, kept or fetched, agrees with it. -/
namespace AccessCatalog.Okta

variable {σ : Type}

/-! Addresses in scope. -/

/-- Whether an address ends in an at sign and a domain of the tenant, both in small letters. Blank
domains are none. -/
def Tenant.Covers (t : Tenant) (address : String) : Prop :=
  ∃ name domain, address = name ++ "@" ++ domain ∧
    ∃ configured ∈ t.emailDomains, (∃ c ∈ configured.toList, Text.isBlank c = false) ∧
      Text.lowercase domain = Text.lowercase (Text.trim configured)

def UserRecord.addressKeys : List String := ["email", "secondEmail", "login"]

/-- Whether the profile of a user has an address in scope under one of three keys. -/
def Tenant.InScope (t : Tenant) (u : UserRecord) : Prop :=
  ∃ key ∈ UserRecord.addressKeys, ∃ address,
    u.profile.get? key = some (.str address) ∧ t.Covers address

namespace Tenant

theorem mem_loweredEmailDomains {t : Tenant} {domain : String} :
    domain ∈ t.loweredEmailDomains ↔ ∃ configured ∈ t.emailDomains,
      (∃ c ∈ configured.toList, Text.isBlank c = false) ∧
        domain = Text.lowercase (Text.trim configured) := by
  have notBlank : ∀ configured : String,
      (!(Text.lowercase (Text.trim configured)).isEmpty) = true ↔
        ∃ c ∈ configured.toList, Text.isBlank c = false := by
    intro configured
    rw [Bool.not_eq_true', ← Bool.not_eq_true, String.isEmpty_iff, Text.lowercase_eq_empty,
      Text.trim_eq_empty]
    simp
  simp only [loweredEmailDomains, List.mem_filter, List.mem_map]
  constructor
  · rintro ⟨⟨configured, member, rfl⟩, filled⟩
    exact ⟨configured, member, (notBlank configured).mp filled, rfl⟩
  · rintro ⟨configured, member, filled, rfl⟩
    exact ⟨⟨configured, member, rfl⟩, (notBlank configured).mpr filled⟩

theorem covers_iff {t : Tenant} {address : String} :
    Scope.inDomains [address] t.loweredEmailDomains = true ↔ t.Covers address := by
  simp only [Scope.inDomains, List.any_eq_true, List.any_cons, List.any_nil, Bool.or_false,
    List.isSuffixOf_iff_suffix, Text.suffix_lowercase_iff]
  constructor
  · rintro ⟨lowered, inTenant, name, domain, cut, same⟩
    obtain ⟨configured, member, filled, rfl⟩ := mem_loweredEmailDomains.mp inTenant
    exact ⟨name, domain, cut, configured, member, filled, String.toList_inj.mp same⟩
  · rintro ⟨name, domain, cut, configured, member, filled, same⟩
    exact ⟨_, mem_loweredEmailDomains.mpr ⟨configured, member, filled, rfl⟩, name, domain, cut,
      congrArg String.toList same⟩

instance (t : Tenant) : DecidablePred t.Covers := fun _ => decidable_of_iff _ covers_iff

instance (t : Tenant) : DecidablePred t.InScope := fun u =>
  decidable_of_iff
    (∃ key ∈ UserRecord.addressKeys, ∃ address ∈ (u.profile.get? key).bind Json.str?,
      t.Covers address) <| by
    simp only [InScope, Option.mem_def, Json.bind_str?_eq_some]

end Tenant

/-! Records of users. -/

namespace UserRecord

theorem decode?_isKeyed {v : Json} {u : UserRecord} (read : decode? v = some u) :
    u.profile.IsKeyed := by
  obtain ⟨fields, named, read⟩ := Option.bind_eq_some_iff.mp read
  clear named
  split at read
  · rename_i id status created lastLogin profile
    obtain ⟨_, _, read⟩ := Option.bind_eq_some_iff.mp read
    obtain ⟨_, _, read⟩ := Option.bind_eq_some_iff.mp read
    obtain ⟨_, _, read⟩ := Option.bind_eq_some_iff.mp read
    obtain ⟨_, _, read⟩ := Option.bind_eq_some_iff.mp read
    obtain ⟨value, found, read⟩ := Option.bind_eq_some_iff.mp read
    cases read
    cases profile with
    | none =>
      cases found
      trivial
    | some v => exact Json.value?_isKeyed found
  · contradiction

theorem mem_candidates {u : UserRecord} (keyed : u.profile.IsKeyed) {address : String} :
    address ∈ Scope.candidates (Profile.ofJson u.profile) ↔
      u.profile.get? "email" = some (.str address) ∨
        u.profile.get? "secondEmail" = some (.str address) ∨
          u.profile.get? "login" = some (.str address) ∧ '@' ∈ address.toList := by
  simp only [Scope.candidates, Profile.text?_ofJson keyed, List.mem_append, Option.mem_toList,
    Option.filter_eq_some_iff, Json.bind_str?_eq_some, List.contains_iff_mem,
    or_assoc]

theorem inScope_iff {t : Tenant} {u : UserRecord} (keyed : u.profile.IsKeyed) :
    u.inScope t.loweredEmailDomains = true ↔ t.InScope u := by
  have some : u.inScope t.loweredEmailDomains = true ↔
      ∃ address ∈ Scope.candidates (Profile.ofJson u.profile), t.Covers address := by
    simp only [← Tenant.covers_iff, inScope, Scope.contains, Scope.inDomains, List.any_eq_true,
      List.any_cons, List.any_nil, Bool.or_false]
    constructor
    · rintro ⟨domain, inTenant, address, member, ends⟩
      exact ⟨address, member, domain, inTenant, ends⟩
    · rintro ⟨address, member, domain, inTenant, ends⟩
      exact ⟨domain, inTenant, address, member, ends⟩
  rw [some]
  constructor
  · rintro ⟨address, member, covered⟩
    rcases (mem_candidates keyed).mp member with found | found | found
    · exact ⟨"email", by decide, address, found, covered⟩
    · exact ⟨"secondEmail", by decide, address, found, covered⟩
    · exact ⟨"login", by decide, address, found.1, covered⟩
  · rintro ⟨key, member, address, found, covered⟩
    refine ⟨address, (mem_candidates keyed).mpr ?_, covered⟩
    simp only [addressKeys, List.mem_cons, List.not_mem_nil, or_false] at member
    rcases member with rfl | rfl | rfl
    · exact .inl found
    · exact .inr (.inl found)
    · -- A login is a candidate only with an at sign, which every address in scope has.
      obtain ⟨name, domain, cut, _⟩ := covered
      exact .inr (.inr ⟨found, by simp [cut]⟩)

end UserRecord

/-! The two ways to users. -/

namespace Users

theorem loweredEmailDomains_eq_nil {t : Tenant} :
    t.loweredEmailDomains = [] ↔ ∀ d ∈ t.emailDomains, ∀ c ∈ d.toList, Text.isBlank c = true := by
  rw [List.eq_nil_iff_forall_not_mem]
  constructor
  · intro none d member c inside
    cases blank : Text.isBlank c with
    | true => rfl
    | false =>
      exact absurd (Tenant.mem_loweredEmailDomains.mpr ⟨d, member, ⟨c, inside, blank⟩, rfl⟩)
        (none _)
  · intro blank domain member
    obtain ⟨d, inTenant, ⟨c, inside, filled⟩, _⟩ := Tenant.mem_loweredEmailDomains.mp member
    exact absurd (blank d inTenant c inside) (by simp [filled])

theorem unscoped (s : Setting σ) (none : s.tenant.loweredEmailDomains = []) (r : PageRequest)
    (id : String) (session : Session σ) :
    list s r session = (.ok .empty, session) ∧ get s id session = (.ok Option.none, session) := by
  constructor
  · rw [list, none]
    rfl
  · rw [get, none]
    rfl

def pageQuery (t : Tenant) (r : PageRequest) (cursor : String) : List (String × String) :=
  [("limit", Nat.repr (t.pageLimit r)), ("after", cursor), ("search", "status pr")]

theorem list_scoped (s : Setting σ) {r : PageRequest} {bag : Bag} {session : Session σ}
    (resumed : Bag.resume r.token { resourceType := "user" } = .ok bag)
    (can : s.tenant.CanAsk withoutCredentialsType path (pageQuery s.tenant r bag.cursor))
    (a : Answer (Json.list? UserRecord.decode?))
    (answered : (s.service (s.tenant.query withoutCredentialsType path
      (pageQuery s.tenant r bag.cursor)) session.service).1 = .response a.response) :
    ∃ page after, list s r session = (.ok page, after) ∧
      page.items = (a.content.filter (s.tenant.InScope ·)).map
        (·.resource s.tenant.skipSecondaryEmails) := by
  have same : a.content.filter (·.inScope s.tenant.loweredEmailDomains) =
      a.content.filter (s.tenant.InScope ·) := by
    refine List.filter_congr fun u member => ?_
    obtain ⟨document, _, read⟩ :=
      Option.bind_eq_some_iff.mp (Setting.decodeBody_eq_ok.mp a.understood)
    obtain ⟨part, record⟩ := Json.mem_of_list? read u member
    exact Bool.eq_iff_iff.mpr ((UserRecord.inScope_iff (UserRecord.decode?_isKeyed record)).trans
      decide_eq_true_iff.symm)
  by_cases none : s.tenant.loweredEmailDomains = []
  · refine ⟨_, _, (unscoped s none r "" session).1, ?_⟩
    rw [← same, none]
    simp [UserRecord.inScope, Scope.contains, Scope.inDomains, Page.empty]
  · have got := s.get_asked (Json.list? UserRecord.decode?) can session
    rw [answered, document_answer] at got
    obtain ⟨next, moved⟩ := Bag.resume_next resumed a.info.nextCursor
    have some : s.tenant.loweredEmailDomains.isEmpty = false := by simpa using none
    let items := (a.content.filter (s.tenant.InScope ·)).map
      (·.resource s.tenant.skipSecondaryEmails)
    let request := s.tenant.query withoutCredentialsType path (pageQuery s.tenant r bag.cursor)
    refine ⟨⟨items, next.token, a.info.annotations⟩,
      session.heard request (s.service request session.service), ?_, rfl⟩
    rw [list]
    dsimp only
    rw [some, if_neg Bool.false_ne_true, Call.bind_ok (Call.ofExcept_ok resumed session)]
    refine (Call.bind_ok (Call.within_ok got _)).trans ?_
    dsimp only
    rw [Call.bind_ok (Call.ofExcept_ok moved _), same]
    rfl

theorem get_scoped (s : Setting σ) {id : String} {session : Session σ} {u : UserRecord}
    (supplied : Supplied s withoutCredentialsType UserRecord.decode? (pathOf id) session u) :
    ∃ after, get s id session = (.ok (if s.tenant.InScope u then
      some (u.resource s.tenant.skipSecondaryEmails) else none), after) := by
  obtain ⟨body, understood⟩ := supplied.understood
  obtain ⟨document, _, read⟩ :=
    Option.bind_eq_some_iff.mp (Setting.decodeBody_eq_ok.mp understood)
  have within := UserRecord.inScope_iff (t := s.tenant) (UserRecord.decode?_isKeyed read)
  by_cases none : s.tenant.loweredEmailDomains = []
  · refine ⟨session, ?_⟩
    have outside : ¬s.tenant.InScope u := by
      rw [← within, none]
      simp [UserRecord.inScope, Scope.contains, Scope.inDomains]
    rw [(unscoped s none {} id session).2, if_neg outside]
  · obtain ⟨info, after, got⟩ := supplied.getKept
    have some : s.tenant.loweredEmailDomains.isEmpty = false := by simpa using none
    refine ⟨after, ?_⟩
    rw [get, some, if_neg Bool.false_ne_true, Call.bind_ok (Call.attempt_ok got)]
    simp only [within]
    rfl

/-- The listing has the users in scope, in their order, and a look-up has its user if the listing
would. If every domain is blank there is nobody, and no request. -/
theorem scope_exact (s : Setting σ) :
    (∀ (r : PageRequest) (bag : Bag) (session : Session σ)
      (a : Answer (Json.list? UserRecord.decode?)),
      Bag.resume r.token { resourceType := "user" } = .ok bag →
      s.tenant.CanAsk withoutCredentialsType path (pageQuery s.tenant r bag.cursor) →
      (s.service (s.tenant.query withoutCredentialsType path
        (pageQuery s.tenant r bag.cursor)) session.service).1 = .response a.response →
      ∃ page after, list s r session = (.ok page, after) ∧
        page.items = (a.content.filter (s.tenant.InScope ·)).map
          (·.resource s.tenant.skipSecondaryEmails)) ∧
    (∀ (id : String) (session : Session σ) (u : UserRecord),
      Supplied s withoutCredentialsType UserRecord.decode? (pathOf id) session u →
      ∃ after, get s id session = (.ok (if s.tenant.InScope u then
        some (u.resource s.tenant.skipSecondaryEmails) else none), after)) ∧
    ((∀ d ∈ s.tenant.emailDomains, ∀ c ∈ d.toList, Text.isBlank c = true) →
      ∀ (r : PageRequest) (id : String) (session : Session σ),
        list s r session = (.ok .empty, session) ∧ get s id session = (.ok none, session)) := by
  refine ⟨?_, ?_, ?_⟩
  · intro r bag session a resumed can answered
    exact list_scoped s resumed can a answered
  · intro id session u supplied
    exact get_scoped s supplied
  · intro blank r id session
    exact unscoped s (loweredEmailDomains_eq_nil.mpr blank) r id session

/-! A tenant with one domain that is not blank, and three users of whom two are in it. -/

def retailTenant (domains : List String) : Tenant := { Tenant.acme with emailDomains := domains }

theorem retailTenant_reachable (domains : List String) : (retailTenant domains).Reachable :=
  ⟨Tenant.acme_reachable.token, Tenant.acme_reachable.root⟩

def retailPage : Answer (Json.list? UserRecord.decode?) :=
  .ofResponse ⟨200, [],
      "[\x7b\"id\":\"u1\",\"profile\":\x7b\"email\":7,\"login\":\"Jo@Acme.COM\"\x7d\x7d," ++
      "\x7b\"id\":\"u2\",\"profile\":\x7b\"email\":\"al@eu.acme.com\"," ++
        "\"login\":\"acme.com\"\x7d\x7d," ++
      "\x7b\"id\":\"u3\",\"profile\":\x7b\"secondEmail\":\"@acme.com\"\x7d\x7d]"⟩
    (by decide) (by decide +kernel)

def retailUser : Answer UserRecord.decode? :=
  .ofResponse ⟨200, [], "\x7b\"id\":\"u2\",\"profile\":\x7b\"email\":\"al@eu.acme.com\"\x7d\x7d"⟩
    (by decide) (by decide +kernel)

def retailSetting (domains : List String) : Setting (List Web.Response) :=
  .scripted (retailTenant domains)

def retailStart (responses : List Web.Response) : Session (List Web.Response) :=
  Session.start Tenant.acme responses

theorem scope_exact_of_retail :
    (∃ page after, list (retailSetting [" ", " ACME.com "]) {} (retailStart [retailPage.response]) =
        (.ok page, after) ∧ page.items.map (·.id.resource) = ["u1", "u3"]) ∧
    (∃ after, get (retailSetting [" ", " ACME.com "]) "u2" (retailStart [retailUser.response]) =
        (.ok none, after)) ∧
    get (retailSetting [" "]) "u2" (retailStart []) = (.ok none, retailStart []) := by
  obtain ⟨listed, looked, _⟩ := scope_exact (retailSetting [" ", " ACME.com "])
  obtain ⟨_, _, nobody⟩ := scope_exact (retailSetting [" "])
  have reachable := retailTenant_reachable [" ", " ACME.com "]
  have isPath : Web.IsPath path.toList := ⟨_, rfl, Web.forall_of_all (by decide)⟩
  have isPathOf : Web.IsPath (pathOf "u2").toList := ⟨_, rfl, Web.forall_of_all (by decide)⟩
  refine ⟨?_, ?_, ?_⟩
  · obtain ⟨page, after, called, items⟩ := listed {} ⟨[], some { resourceType := "user" }⟩
      (retailStart [retailPage.response]) retailPage rfl
      (reachable.canAsk isPath (by decide) _) rfl
    refine ⟨page, after, called, ?_⟩
    rw [items]
    decide +kernel
  · have can : Tenant.CanAsk _ withoutCredentialsType (pathOf "u2") [] :=
      reachable.canAsk isPathOf (by decide) []
    obtain ⟨after, called⟩ := looked "u2" (retailStart [retailUser.response]) retailUser.content
      (.fetched retailUser (reachable.url isPathOf []) rfl can.2 rfl)
    have outside : ¬(retailTenant [" ", " ACME.com "]).InScope retailUser.content := by
      decide +kernel
    refine ⟨after, called.trans ?_⟩
    exact congrArg (fun found => ((Except.ok found, after) : Except Fault _ × _)) (if_neg outside)
  · have blank : ∀ c ∈ " ".toList, Text.isBlank c = true := Web.forall_of_all (by decide)
    exact (nobody (List.forall_mem_singleton.mpr blank) {} "u2" (retailStart [])).2

end Users
end AccessCatalog.Okta
