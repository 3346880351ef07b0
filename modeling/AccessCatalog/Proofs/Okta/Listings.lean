import AccessCatalog.Okta.Groups
import AccessCatalog.Okta.Users
import AccessCatalog.Proofs.Okta.Lookups
import AccessCatalog.Proofs.Web.Link

/-! Listings whose pages are linked by cursors. Whatever text a cursor is, it goes from the link of
one page through the token of the caller into the request for the next page unchanged, so that the
listing goes through all pages once and stops behind the last. -/
namespace AccessCatalog.Okta

open Web (Request Response Answers)

variable {σ : Type}

inductive Listing where
  | users
  | groups
  | holders (role : Resource)
  | customRoles

namespace Listing

/-- What a page holds as the service sends it, and what the listing makes of it. -/
def Content : Listing → Type
  | .users => List UserRecord
  | .groups => List GroupRecord
  | .holders _ => LinkedPage String
  | .customRoles => LinkedPage Role

def Item : Listing → Type
  | .holders _ => Grant
  | _ => Resource

def decode : (l : Listing) → Json → Option l.Content
  | .users => Json.list? UserRecord.decode?
  | .groups => Json.list? GroupRecord.decode?
  | .holders _ => LinkedPage.decode? "value" Roles.decodeAssignee?
  | .customRoles => LinkedPage.decode? "roles" Role.decode?

def call (s : Setting σ) : (l : Listing) → PageRequest → Call σ Fault (Page l.Item)
  | .users => Users.list s
  | .groups => Groups.list s
  | .holders role => Roles.grants s role
  | .customRoles => Roles.list s

/-- Users are listed if there are domains in scope, and custom roles if they are wanted. -/
def Enabled (t : Tenant) : Listing → Prop
  | .users => t.loweredEmailDomains ≠ []
  | .customRoles => t.syncCustomRoles = true
  | _ => True

def contentType : Listing → String
  | .users => withoutCredentialsType
  | _ => jsonType

def path : Listing → String
  | .users => Users.path
  | .groups => Groups.path
  | .holders _ => Roles.assigneesPath
  | .customRoles => Roles.customPath

def pairs (t : Tenant) (size : Nat) (cursor : String) : Listing → List (String × String)
  | .users => [("limit", Nat.repr (t.pageLimit ⟨size, ""⟩)), ("after", cursor),
      ("search", "status pr")]
  | .groups => [("limit", Nat.repr (t.pageLimit ⟨size, ""⟩)), ("after", cursor),
      ("expand", "stats")]
  | .holders _ => [("limit", Nat.repr (t.pageLimit ⟨size, ""⟩)), ("after", cursor)]
  | .customRoles => [("after", cursor)]

def request (t : Tenant) (size : Nat) (l : Listing) (cursor : String) : Request :=
  t.query l.contentType l.path (l.pairs t size cursor)

def bodyLink : (l : Listing) → l.Content → Option String
  | .users, _ => none
  | .groups, _ => none
  | .holders _, page => page.nextHref
  | .customRoles, page => page.nextHref

/-- The cursor that a page is followed by. -/
def cursor (l : Listing) (a : Answer l.decode) : String :=
  ((l.bodyLink a.content).bind fun href => Web.afterParam? href.toList).getD a.cursor

/-- The users whose flags decide what a page becomes. -/
def judged : (l : Listing) → l.Content → List String
  | .holders _, page => page.items
  | .users, _ => []
  | .groups, _ => []
  | .customRoles, _ => []

def items (t : Tenant) (flags : String → AdminFlags) : (l : Listing) → l.Content → List l.Item
  | .users, records => (records.filter (·.inScope t.loweredEmailDomains)).map
      (·.resource t.skipSecondaryEmails)
  | .groups, records => records.map GroupRecord.resource
  | .holders role, page =>
    (page.items.filter fun userId => (flags userId).grants role.id.resource).map fun userId =>
      Grant.ofAssignment role Role.assignedSlug ⟨"user", userId⟩
  | .customRoles, page => page.items.map Role.resource

/-- What comes before the first page, without a request: the standard roles. -/
def leading : (l : Listing) → List (List l.Item)
  | .customRoles => [Role.standard.map Role.resource]
  | .users => []
  | .groups => []
  | .holders _ => []

/-! Where a token stands. -/

def frame : Listing → String
  | .users => "user"
  | .groups => "group"
  | .holders _ => "user"
  | .customRoles => Roles.customPhase

def resume (t : Tenant) : Listing → String → Except Fault Bag
  | .users, token => Bag.resume token { resourceType := "user" }
  | .groups, token => Bag.resume token { resourceType := "group" }
  | .holders _, token => Bag.resume token { resourceType := "user" }
  | .customRoles, token => Roles.resume token (Roles.phases t)

theorem resume_single (t : Tenant) (l : Listing) (c : String) :
    (Bag.single l.frame c).token ≠ "" ∧
      l.resume t (Bag.single l.frame c).token = .ok (Bag.single l.frame c) := by
  obtain ⟨filled, read⟩ := Bag.ofToken_single l.frame c
  refine ⟨filled, ?_⟩
  cases l with
  | customRoles =>
    rw [resume, Roles.resume, read]
    rfl
  | users | groups | holders role =>
    rw [resume, Bag.resume, read]
    rfl

theorem path_isPath (l : Listing) : Web.IsPath l.path.toList := by
  have users : Web.IsPath Users.path.toList := ⟨_, rfl, Web.forall_of_all (by decide)⟩
  have groups : Web.IsPath Groups.path.toList := ⟨_, rfl, Web.forall_of_all (by decide)⟩
  have holders : Web.IsPath Roles.assigneesPath.toList := ⟨_, rfl, Web.forall_of_all (by decide)⟩
  have roles : Web.IsPath Roles.customPath.toList := ⟨_, rfl, Web.forall_of_all (by decide)⟩
  cases l with
  | users => exact users
  | groups => exact groups
  | holders role => exact holders
  | customRoles => exact roles

theorem contentType_plain (l : Listing) : Web.Headers.isValue l.contentType = true := by
  cases l with
  | users => decide
  | groups | holders role | customRoles =>
    have json : Web.Headers.isValue jsonType = true := by decide
    exact json

theorem request_values {t : Tenant} (reachable : t.Reachable) (size : Nat) (l : Listing)
    (c : String) : (l.request t size c).values "after" = if c = "" then [] else [c] := by
  rw [request, reachable.values l.path_isPath]
  cases l <;> by_cases start : c = "" <;> simp [pairs, start]

/-! Links from page to page. -/

/-- The one link to the next page is in the headers or in the body, and has this cursor. -/
def Leads (l : Listing) (a : Answer l.decode) (cursor : String) : Prop :=
  cursor ≠ "" ∧
    ((l.bodyLink a.content = none ∧ ∃ target, Web.NextLinks a.response.headers [target] ∧
        Web.CursorLink target cursor) ∨
      ∃ href, l.bodyLink a.content = some href ∧ Web.CursorLink href.toList cursor)

def Ends (l : Listing) (a : Answer l.decode) : Prop :=
  l.bodyLink a.content = none ∧ Web.NextLinks a.response.headers []

theorem Leads.cursor {l : Listing} {a : Answer l.decode} {c : String} (leads : l.Leads a c) :
    l.cursor a = c := by
  obtain ⟨filled, ⟨noBody, target, links, link⟩ | ⟨href, body, link⟩⟩ := leads
  · have found := Web.afterParam?_of_link link filled
    have headers : a.cursor = c := by
      rw [Answer.cursor, Answer.info, ResponseInfo.nextCursor, Web.nextCursor_of_links links]
      simp [found]
    simp [Listing.cursor, noBody, headers]
  · have found := Web.afterParam?_of_link link filled
    simp [Listing.cursor, body, found]

theorem Ends.cursor {l : Listing} {a : Answer l.decode} (ends : l.Ends a) : l.cursor a = "" := by
  obtain ⟨noBody, links⟩ := ends
  have headers : a.cursor = "" := by
    rw [Answer.cursor, Answer.info, ResponseInfo.nextCursor, Web.nextCursor_of_links links]
    rfl
  simp [Listing.cursor, noBody, headers]

/-- The pages of a listing, each but the last with the cursor that its link leads to. -/
structure Linked (l : Listing) where
  front : List (Answer l.decode × String)
  last : Answer l.decode
  leads : ∀ p ∈ front, l.Leads p.1 p.2
  ends : l.Ends last

namespace Linked

variable {l : Listing} (p : Linked l)

def cursors : List String := p.front.map (·.2)
def all : List (Answer l.decode) := p.front.map (·.1) ++ [p.last]

theorem continued : ∀ a ∈ p.front.map (·.1), l.cursor a ≠ "" := by
  intro a member
  obtain ⟨pair, inFront, rfl⟩ := List.mem_map.mp member
  have leads := p.leads pair inFront
  rw [leads.cursor]
  exact leads.1

theorem cursors_eq :
    (p.front.map (·.1)).map (fun a => [l.cursor a]) = p.cursors.map fun c => [c] := by
  rw [cursors, List.map_map, List.map_map]
  exact List.map_congr_left fun pair member => congrArg ([·]) (p.leads pair member).cursor

end Linked

end Listing

/-! One page of each listing. -/

section Pages

variable {s : Setting σ} {size : Nat} {token c : String} {session : Session σ} {service : σ}

theorem Users.list_answer (reachable : s.tenant.Reachable)
    (inScope : s.tenant.loweredEmailDomains ≠ [])
    (stands : Bag.resume token { resourceType := "user" } = .ok (Bag.single "user" c))
    (a : Answer (Json.list? UserRecord.decode?))
    (answered : s.service (Listing.users.request s.tenant size c) session.service =
      (.response a.response, service)) :
    ∃ notes, list s ⟨size, token⟩ session =
      (.ok ⟨(a.content.filter (·.inScope s.tenant.loweredEmailDomains)).map
          (·.resource s.tenant.skipSecondaryEmails),
        (if a.cursor = "" then Bag.empty else Bag.single "user" a.cursor).token, notes⟩,
        session.asked (Listing.users.request s.tenant size c) service) := by
  have got := s.get_answer reachable Listing.users.path_isPath Listing.users.contentType_plain a
    answered
  have someDomain : s.tenant.loweredEmailDomains.isEmpty = false := by
    simpa using inScope
  apply Exists.intro
  rw [list]
  dsimp only
  rw [if_neg (by simp [someDomain]), Call.bind_ok (Call.ofExcept_ok stands session)]
  refine (Call.bind_ok (Call.within_ok got _)).trans ?_
  dsimp only
  rw [Call.bind_ok (Call.ofExcept_ok (Bag.next_single _ c a.info.nextCursor) _)]
  rfl

theorem Groups.list_answer (reachable : s.tenant.Reachable)
    (stands : Bag.resume token { resourceType := "group" } = .ok (Bag.single "group" c))
    (a : Answer (Json.list? GroupRecord.decode?))
    (answered : s.service (Listing.groups.request s.tenant size c) session.service =
      (.response a.response, service)) :
    ∃ notes, list s ⟨size, token⟩ session =
      (.ok ⟨a.content.map GroupRecord.resource,
        (if a.cursor = "" then Bag.empty else Bag.single "group" a.cursor).token, notes⟩,
        session.asked (Listing.groups.request s.tenant size c) service) := by
  have got := s.get_answer reachable Listing.groups.path_isPath Listing.groups.contentType_plain a
    answered
  apply Exists.intro
  rw [list, Call.bind_ok (Call.ofExcept_ok stands session)]
  refine (Call.bind_ok (Call.within_ok got _)).trans ?_
  dsimp only
  rw [Call.bind_ok (Call.ofExcept_ok (Bag.next_single _ c a.info.nextCursor) _)]
  rfl

theorem Roles.list_answer (reachable : s.tenant.Reachable)
    (stands : resume token (phases s.tenant) = .ok (Bag.single customPhase c))
    (a : Answer (LinkedPage.decode? "roles" Role.decode?))
    (answered : s.service (Listing.customRoles.request s.tenant size c) session.service =
      (.response a.response, service)) :
    ∃ notes, list s ⟨size, token⟩ session =
      (.ok ⟨a.content.items.map Role.resource,
        (if a.content.nextCursor a.info = "" then Bag.empty
          else Bag.single customPhase (a.content.nextCursor a.info)).token, notes⟩,
        session.asked (Listing.customRoles.request s.tenant size c) service) := by
  have got := s.get_answer reachable Listing.customRoles.path_isPath
    Listing.customRoles.contentType_plain a answered
  apply Exists.intro
  rw [list, Call.bind_ok (Call.ofExcept_ok stands session)]
  have custom : (Bag.single customPhase c).resourceType = customPhase := rfl
  rw [if_neg (by rw [custom]; decide), if_pos custom]
  refine (Call.bind_ok (Call.within_ok got _)).trans ?_
  dsimp only
  rw [Call.bind_ok (Call.ofExcept_ok (Bag.next_single _ c (a.content.nextCursor a.info)) _)]
  rfl

/-- The page of standard roles comes without a request, and the custom ones come next. -/
theorem Roles.list_standard (custom : s.tenant.syncCustomRoles = true) (size : Nat)
    (session : Session σ) :
    ∃ notes, list s ⟨size, ""⟩ session =
      (.ok ⟨Role.standard.map Role.resource, (Bag.single customPhase "").token, notes⟩,
        session) := by
  have stands : resume "" (phases s.tenant) =
      .ok ⟨[{ resourceType := customPhase }], some { resourceType := standardPhase }⟩ := by
    rw [phases, if_pos custom]
    rfl
  apply Exists.intro
  rw [list, Call.bind_ok (Call.ofExcept_ok stands session)]
  rfl

/-- A page of users with some role comes first, and the look-ups of those users behind it. -/
theorem Roles.grants_answer (reachable : s.tenant.Reachable) (lookups : Lookups) (role : Resource)
    (stands : Bag.resume token { resourceType := "user" } = .ok (Bag.single "user" c))
    (a : Answer (LinkedPage.decode? "value" decodeAssignee?)) {rest : List (Request × Response)}
    (answers : Answers s.service
      (((Listing.holders role).request s.tenant size c, a.response) ::
        (firstUnknown session.knows a.content.items).map (lookUp s.tenant lookups) ++ rest)
      session.service) :
    ∃ notes after, grants s role ⟨size, token⟩ session =
        (.ok ⟨(a.content.items.filter fun u =>
            (session.flagsOf lookups u).grants role.id.resource).map fun u =>
              Grant.ofAssignment role Role.assignedSlug ⟨"user", u⟩,
          (if a.content.nextCursor a.info = "" then Bag.empty
            else Bag.single "user" (a.content.nextCursor a.info)).token, notes⟩, after) ∧
      after.sent = session.sent ++ (Listing.holders role).request s.tenant size c ::
        (firstUnknown session.knows a.content.items).map (flagsRequest s.tenant) ∧
      after.knows = (fun u => a.content.items.contains u || session.knows u) ∧
      after.flagsOf lookups = session.flagsOf lookups ∧
      Answers s.service rest after.service := by
  obtain ⟨service, answered, remaining⟩ := answers
  have got := s.get_answer reachable (Listing.holders role).path_isPath
    (Listing.holders role).contentType_plain a answered
  let between := session.asked ((Listing.holders role).request s.tenant size c) service
  obtain ⟨after, run, sent, knows, flags, remaining⟩ :=
    holders_answer reachable lookups role.id.resource a.content.items between remaining
  refine ⟨a.info.annotations, after, ?_, ?_, knows, flags, remaining⟩
  · rw [grants, Call.bind_ok (Call.ofExcept_ok stands session)]
    refine (Call.bind_ok (Call.within_ok got _)).trans ?_
    dsimp only
    rw [Call.bind_ok (Call.ofExcept_ok (Bag.next_single _ c (a.content.nextCursor a.info)) _)]
    exact Call.bind_ok run
  · rw [sent]
    exact List.append_assoc _ _ _

end Pages

namespace Listing

/-- The requests of a listing with their responses: each page, and behind it the look-ups of the
users that it makes necessary. -/
def lookUps (t : Tenant) (l : Listing) (lookups : Lookups) :
    (String → Bool) → List (Answer l.decode) → List (List (Request × Response))
  | _, [] => []
  | known, a :: rest =>
    (firstUnknown known (l.judged a.content)).map (lookUp t lookups) ::
      lookUps t l lookups (fun u => (l.judged a.content).contains u || known u) rest

def script (t : Tenant) (size : Nat) (l : Listing) (lookups : Lookups) (known : String → Bool)
    (pages : List (Answer l.decode)) : List (Request × Response) :=
  (List.zipWith List.cons (exchanges (l.request t size) l.cursor "" pages)
    (l.lookUps t lookups known pages)).flatten

/-- A listing as a phase, in which the flags of every user stay what they are. -/
def phase (s : Setting σ) (size : Nat) (l : Listing) (reachable : s.tenant.Reachable)
    (enabled : l.Enabled s.tenant) (lookups : Lookups) (flags : String → AdminFlags) :
    Phase s.service l.decode l.Item (String → Bool) where
  call := l.call s
  size := size
  request := l.request s.tenant size
  cursor := l.cursor
  items a := l.items s.tenant flags a.content
  extra known a := (firstUnknown known (l.judged a.content)).map (lookUp s.tenant lookups)
  learn known a := fun u => (l.judged a.content).contains u || known u
  Knows session known := session.knows = known ∧ session.flagsOf lookups = flags
  At token c := l.resume s.tenant token = .ok (Bag.single l.frame c)
  token c := (Bag.single l.frame c).token
  done := ""
  token_at := l.resume_single s.tenant
  step := by
    intro token c known session a rest stands knows answers
    obtain ⟨rfl, rfl⟩ := knows
    cases l with
    | users =>
      obtain ⟨page, after, called, items, next, sent, kept, remaining⟩ := page_step
        (users.call s) (fun _ answered => Users.list_answer reachable enabled stands a answered)
        answers
      exact ⟨page, after, called, items, next, sent, Session.flags_unchanged kept lookups,
        remaining⟩
    | groups =>
      obtain ⟨page, after, called, items, next, sent, kept, remaining⟩ := page_step
        (groups.call s) (fun _ answered => Groups.list_answer reachable stands a answered) answers
      exact ⟨page, after, called, items, next, sent, Session.flags_unchanged kept lookups,
        remaining⟩
    | holders role =>
      obtain ⟨notes, after, called, sent, knows, flags, remaining⟩ :=
        Roles.grants_answer reachable lookups role stands a answers
      rw [apply_ite Bag.token] at called
      refine ⟨_, after, called, rfl, rfl, ?_, ⟨knows, flags⟩, remaining⟩
      rw [sent, List.map_cons, List.map_map]
      rfl
    | customRoles =>
      obtain ⟨page, after, called, items, next, sent, kept, remaining⟩ := page_step
        (customRoles.call s) (fun _ answered => Roles.list_answer reachable stands a answered)
        answers
      exact ⟨page, after, called, items, next, sent, Session.flags_unchanged kept lookups,
        remaining⟩

theorem phase_extras (s : Setting σ) (size : Nat) (l : Listing) (reachable : s.tenant.Reachable)
    (enabled : l.Enabled s.tenant) (lookups : Lookups) (flags : String → AdminFlags)
    (known : String → Bool) (pages : List (Answer l.decode)) :
    (phase s size l reachable enabled lookups flags).extras known pages =
      l.lookUps s.tenant lookups known pages := by
  induction pages generalizing known with
  | nil => rfl
  | cons a rest ih => exact congrArg (List.cons _) (ih _)

/-- A listing starts at its first page, or with one call for what comes before that page. -/
theorem start (s : Setting σ) (size : Nat) {l : Listing} (enabled : l.Enabled s.tenant)
    (session : Session σ) :
    l.leading = [] ∧ l.resume s.tenant "" = .ok (Bag.single l.frame "") ∨
      ∃ page, l.call s ⟨size, ""⟩ session = (.ok page, session) ∧ l.leading = [page.items] ∧
        page.nextToken = (Bag.single l.frame "").token := by
  cases l with
  | users | groups | holders role => exact .inl ⟨rfl, rfl⟩
  | customRoles =>
    obtain ⟨notes, called⟩ := Roles.list_standard enabled size session
    exact .inr ⟨_, called, rfl, rfl⟩

/-- The caller that starts with the empty token and hands back each token until one is empty gets
every page once and in order. Each request for a page carries the cursor that the link of the page
before leads to, and the first one carries none. -/
theorem cursors_kept {s : Setting σ} (reachable : s.tenant.Reachable) (size : Nat) {l : Listing}
    (enabled : l.Enabled s.tenant) (pages : Linked l) (lookups : Lookups) {session : Session σ}
    (answers : Answers s.service (l.script s.tenant size lookups session.knows pages.all)
      session.service) :
    (exchanges (l.request s.tenant size) l.cursor "" pages.all).map (fun e => e.1.values "after") =
        [] :: pages.cursors.map (fun c => [c]) ∧
      ∃ outputs after, Run (l.call s) size "" session outputs "" after ∧
        outputs.map (·.items) = l.leading ++
          pages.all.map (fun a => l.items s.tenant (session.flagsOf lookups) a.content) ∧
        after.sent = session.sent ++
          (l.script s.tenant size lookups session.knows pages.all).map (·.1) := by
  constructor
  · rw [← pages.cursors_eq]
    exact exchanges_values (request_values reachable size l) pages.continued pages.last
  · let φ := phase s size l reachable enabled lookups (session.flagsOf lookups)
    have same : φ.script session.knows "" pages.all =
        l.script s.tenant size lookups session.knows pages.all := by
      rw [Phase.script, phase_extras]
      rfl
    have drained : ∀ token, φ.At token "" → ∃ outputs after,
        Run (l.call s) size token session outputs "" after ∧
        outputs.map (·.items) =
          pages.all.map (fun a => l.items s.tenant (session.flagsOf lookups) a.content) ∧
        after.sent = session.sent ++
          (l.script s.tenant size lookups session.knows pages.all).map (·.1) := by
      intro token stands
      rw [← same, ← List.append_nil (φ.script _ _ _)] at answers
      obtain ⟨outputs, after, run, items, sent, _⟩ :=
        φ.run pages.continued pages.ends.cursor stands ⟨rfl, rfl⟩ answers
      exact ⟨outputs, after, run, items, same ▸ sent⟩
    obtain ⟨noLeading, stands⟩ | ⟨page, called, leading, next⟩ := start s size enabled session
    · obtain ⟨outputs, after, run, items, sent⟩ := drained "" stands
      rw [noLeading]
      exact ⟨outputs, after, run, items, sent⟩
    · obtain ⟨filled, stands⟩ := l.resume_single s.tenant ""
      obtain ⟨outputs, after, run, items, sent⟩ := drained _ stands
      refine ⟨page :: outputs, after, .more called (next ▸ filled) (next ▸ run), ?_, sent⟩
      rw [leading, List.map_cons, items]
      rfl

end Listing

/-! The holders of a role on three pages, the first with its link in the body and the second with
its link in a header. -/

deriving instance DecidableEq for LinkedPage

abbrev HoldersAnswer := Answer (LinkedPage.decode? "value" Roles.decodeAssignee?)

def appAdmin : Resource :=
  Role.resource { type := "APP_ADMIN", label := "Application Administrator" }

def appAdminFirst : HoldersAnswer :=
  ⟨⟨200, [], "\x7b\"value\":[\x7b\"id\":\"u1\"\x7d],\"_links\":\x7b\"next\":" ++
      "\x7b\"href\":\"https://acme.okta.com/?after=c+1\"\x7d\x7d\x7d"⟩,
    ⟨["u1"], some "https://acme.okta.com/?after=c+1"⟩, by decide,
    Setting.decodeBody_ok (by decide +kernel)⟩

def appAdminSecond : HoldersAnswer :=
  ⟨⟨200, [("link", "<https://acme.okta.com/?limit=1&after=%C3%A9>; rel=\"next\"")],
      "\x7b\"value\":[]\x7d"⟩, ⟨[], none⟩, by decide, Setting.decodeBody_ok (by decide +kernel)⟩

def appAdminLast : HoldersAnswer :=
  ⟨⟨200, [], "\x7b\"value\":[\x7b\"id\":\"u2\"\x7d,\x7b\"id\":\"u1\"\x7d]\x7d"⟩,
    ⟨["u2", "u1"], none⟩, by decide, Setting.decodeBody_ok (by decide +kernel)⟩

theorem appAdminFirst_link :
    Web.CursorLink "https://acme.okta.com/?after=c+1".toList "c 1" := by
  let u : Web.Url :=
    { scheme := "https".toList, host := some (.name "acme.okta.com".toList)
      path := .segments [[]], query := some "after=c+1".toList }
  exact ⟨u, [], [], "after".toList, Web.Url.ok_of_toOption (by decide +kernel), by decide,
    by decide +kernel, Web.forall_of_all (by decide), by decide +kernel, by simp⟩

theorem appAdminSecond_link :
    Web.CursorLink "https://acme.okta.com/?limit=1&after=%C3%A9".toList "é" := by
  let u : Web.Url :=
    { scheme := "https".toList, host := some (.name "acme.okta.com".toList)
      path := .segments [[]], query := some "limit=1&after=%C3%A9".toList }
  exact ⟨u, ["limit=1".toList], [], "after".toList, Web.Url.ok_of_toOption (by decide +kernel),
    by decide, by decide +kernel, Web.forall_of_all (by decide), by decide +kernel,
    by decide +kernel⟩

def appAdminEntry : Web.PaddedLink :=
  ⟨[], ⟨"https://acme.okta.com/?limit=1&after=%C3%A9".toList, "next".toList⟩, []⟩

theorem appAdminSecond_links :
    Web.NextLinks appAdminSecond.response.headers [appAdminEntry.entry.target] := by
  refine ⟨[[appAdminEntry]], by decide +kernel, ?_, by decide +kernel⟩
  intro l member
  cases List.mem_singleton.mp member
  exact ⟨by simp [appAdminEntry], ⟨Web.forall_of_all (by decide +kernel),
    Web.forall_of_all (by decide +kernel)⟩, by simp [appAdminEntry]⟩

def appAdminPages : Listing.Linked (.holders appAdmin) where
  front := [(appAdminFirst, "c 1"), (appAdminSecond, "é")]
  last := appAdminLast
  leads := by
    intro p member
    rcases List.mem_cons.mp member with rfl | member
    · exact ⟨by decide, .inr ⟨_, rfl, appAdminFirst_link⟩⟩
    · cases List.mem_singleton.mp member
      exact ⟨by decide, .inl ⟨rfl, _, appAdminSecond_links, appAdminSecond_link⟩⟩
  ends := ⟨rfl, [], rfl, by simp, rfl⟩

def appAdminLookups : Lookups := fun _ =>
  ⟨⟨200, [], "[\x7b\"rolesFromGroup\":[\"appadmin\"]\x7d]"⟩, [{ groupRoles := ["appadmin"] }],
    by decide, Setting.decodeBody_ok (by decide +kernel)⟩

def appAdminScript : List (Request × Response) :=
  (Listing.holders appAdmin).script .acme 0 appAdminLookups (fun _ => false) appAdminPages.all

def appAdminSetting : Setting (List Response) :=
  { tenant := .acme, service := Web.scripted, now := ⟨0, 0, 0⟩, draws := fun _ => 0 }

def appAdminSession : Session (List Response) := Session.start .acme (appAdminScript.map (·.2))

theorem cursors_kept_of_appAdmin :
    Tenant.acme.Reachable ∧ (Listing.holders appAdmin).Enabled .acme ∧
      Answers appAdminSetting.service appAdminScript appAdminSession.service ∧
      ∃ outputs after, Run (Roles.grants appAdminSetting appAdmin) 0 "" appAdminSession
          outputs "" after ∧
        outputs.map (fun page => page.items.map (·.id)) =
          [["role:APP_ADMIN:assigned:user:u1"], [],
            ["role:APP_ADMIN:assigned:user:u2", "role:APP_ADMIN:assigned:user:u1"]] ∧
        after.sent.length = 5 := by
  have answers : Answers appAdminSetting.service appAdminScript appAdminSession.service :=
    Web.answers_scripted appAdminScript
  obtain ⟨_, outputs, after, run, items, sent⟩ :=
    Listing.cursors_kept (s := appAdminSetting) (l := .holders appAdmin) Tenant.acme_reachable 0
      trivial appAdminPages appAdminLookups answers
  refine ⟨Tenant.acme_reachable, trivial, answers, outputs, after, run, ?_, ?_⟩
  · have ids := congrArg (List.map (List.map fun g : Grant => g.id)) items
    refine List.map_map.symm.trans (ids.trans ?_)
    decide +kernel
  · rw [sent]
    decide +kernel

end AccessCatalog.Okta
