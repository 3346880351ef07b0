import AccessCatalog.Proofs.Okta.GrantIdentity
import AccessCatalog.Proofs.Okta.KeptBodies

/-! When the members of a group are complete. The page that ends them carries a stamp, by which the
caller knows that it has seen them all. A call decides this by what is active once the bag has moved
on. As no type has two frames, a page that leaves members to come is not stamped, whatever token the
call was made with, and neither is a page of roles. -/
namespace AccessCatalog

open Web (Answers Reply Request Response)

namespace Annotations

variable (as : Annotations) (value : String)

theorem eTag?_update : (as.update (.eTag value)).eTag? = some value := by
  obtain ⟨items⟩ := as
  unfold update eTag?
  induction items with
  | nil => rfl
  | cons a rest ih => cases a <;> first | rfl | exact ih

theorem rateLimit?_update_eTag : (as.update (.eTag value)).rateLimit? = as.rateLimit? := by
  obtain ⟨items⟩ := as
  unfold update rateLimit?
  induction items with
  | nil => rfl
  | cons a rest ih => cases a <;> first | rfl | exact ih

end Annotations

namespace Okta

variable {σ : Type}

namespace ResponseInfo

variable (info : ResponseInfo)

theorem annotations_eTag? : info.annotations.eTag? = none := by
  unfold annotations
  cases info.rateLimit? <;> rfl

theorem annotations_rateLimit? : info.annotations.rateLimit? = info.rateLimit? := by
  unfold annotations
  cases info.rateLimit? <;> rfl

end ResponseInfo

/-- Of a request that is answered, the session keeps the request and the state of the service. -/
theorem Session.heard_response (session : Session σ) {q : Request} {heard : Reply × σ}
    {r : Response} (replied : heard.1 = .response r) :
    session.heard q heard = session.asked q heard.2 := by
  rw [Session.heard, replied]
  rfl

/-- Whatever its text, a token that is resumed has no resource type twice. -/
theorem Roles.resume_distinct {token : String} {phases : List String} {bag : Bag}
    (resumed : resume token phases = .ok bag) : bag.Distinct := by
  cases read : Bag.ofToken token with
  | error fault => simp [resume, read, bind, Except.bind] at resumed
  | ok start =>
    have distinct := Bag.ofToken_distinct read
    simp only [resume, read, bind, Except.bind] at resumed
    split at resumed
    · have seeded := Bag.distinct_kept.pushAll phases.reverse start distinct
      split at resumed
      · contradiction
      · exact Except.ok.inj resumed ▸ seeded
    · exact Except.ok.inj resumed ▸ distinct

namespace Groups

variable {s : Setting σ} {group : Resource}

/-- Whether a page tells that the members are complete. -/
def Stamped (page : Page Grant) : Prop := page.annotations.eTag?.isSome = true

/-- Whether a number of members leaves none to ask for. -/
def ReportsNone (count : Option Int) : Prop := ∃ n, count = some n ∧ n ≤ 0

theorem isEmptyCount_iff {count : Option Int} : isEmptyCount count = true ↔ ReportsNone count := by
  cases count <;> simp [isEmptyCount, ReportsNone]

theorem stamp_eTag? (s : Setting σ) (bag : Bag) {notes : Annotations} (plain : notes.eTag? = none) :
    (stamp s bag notes).eTag? =
      if bag.resourceType = userPhase then none else some (s.now.text .shortest) := by
  unfold stamp
  split
  · exact plain
  · exact notes.eTag?_update _

theorem stamp_rateLimit? {bag : Bag} {notes : Annotations} :
    (stamp s bag notes).rateLimit? = notes.rateLimit? := by
  unfold stamp
  split
  · rfl
  · exact notes.rateLimit?_update_eTag _

/-! One call. -/

/-- What the page of a call tells about the members. The call stands at the first bag, and its page
at the second one. -/
structure Attests (s : Setting σ) (group : Resource) (count : Option Int) (size : Nat)
    (bag next : Bag) (page : Page Grant) (session after : Session σ) : Prop where
  stamped : Stamped page ↔ bag.resourceType = userPhase ∧ userPhase ∉ next.types
  time : ∀ value, page.annotations.eTag? = some value → value = s.now.text .shortest
  phase : bag.resourceType = userPhase ∨ bag.resourceType = rolePhase
  moved : ∃ cursor, bag.next cursor = .ok next
  /-- Members that the group does not have are not asked for, and are complete. -/
  passed : bag.resourceType = userPhase → ReportsNone count →
    after = session ∧ userPhase ∉ next.types
  /-- Members that are asked for are complete once no cursor follows. -/
  heard : bag.resourceType = userPhase → ¬ReportsNone count → ∃ (r : Response) (state : σ),
    s.service (memberRequest s.tenant group size bag.cursor) session.service =
      (.response r, state) ∧ r.Succeeds ∧
    after = session.asked (memberRequest s.tenant group size bag.cursor) state ∧
    (userPhase ∉ next.types ↔ Web.nextCursor r.headers = "") ∧
    page.annotations.rateLimit? = rateLimit? r.headers

section Calls

variable {count : Option Int} {size : Nat} {bag : Bag} {page : Page Grant}
  {session after : Session σ}

/-- A page of members is stamped just if the bag moves on with an empty cursor. -/
theorem stamped_page (s : Setting σ) {next : Bag} {cursor : String} {notes : Annotations}
    (items : List Grant) (distinct : bag.Distinct) (phase : bag.resourceType = userPhase)
    (moved : bag.next cursor = .ok next) (plain : notes.eTag? = none) :
    (userPhase ∉ next.types ↔ cursor = "") ∧
      (Stamped ⟨items, next.token, stamp s next notes⟩ ↔ cursor = "") ∧
      ∀ value, (stamp s next notes).eTag? = some value → value = s.now.text .shortest := by
  have running : bag.resourceType ≠ "" := by
    rw [phase]
    decide
  obtain ⟨gone, other⟩ := Bag.next_type distinct running moved
  rw [phase] at gone other
  have stamps := stamp_eTag? s next plain
  have stamped : Stamped ⟨items, next.token, stamp s next notes⟩ ↔
      next.resourceType ≠ userPhase := by
    rw [Stamped, stamps]
    by_cases here : next.resourceType = userPhase <;> simp [here]
  refine ⟨gone, stamped.trans other, fun value found => ?_⟩
  rw [stamps] at found
  split at found
  · cases found
  · exact (Option.some.inj found).symm

theorem memberPage_attests (distinct : bag.Distinct) (phase : bag.resourceType = userPhase)
    (called : memberPage s group count bag (s.tenant.pageLimit ⟨size, ""⟩) session =
      (.ok page, after)) :
    ∃ next, page.nextToken = next.token ∧
      Attests s group count size bag next page session after := by
  cases empty : isEmptyCount count with
  | true =>
    obtain ⟨next, moved, rfl, rfl⟩ := memberPage_over empty called
    have plain : Annotations.empty.eTag? = none := rfl
    obtain ⟨gone, stamps, time⟩ := stamped_page s [] distinct phase moved plain
    refine ⟨next, rfl, ?_, time, .inl phase, ⟨"", moved⟩, fun _ _ => ⟨rfl, gone.mpr rfl⟩, ?_⟩
    · rw [gone]
      exact stamps.trans (and_iff_right phase).symm
    · exact fun _ asked => absurd (isEmptyCount_iff.mp empty) asked
  | false =>
    obtain ⟨users, info, next, read, moved, rfl, rfl⟩ :=
      memberPage_heard empty called
    obtain ⟨gone, stamps, time⟩ := stamped_page s (users.map (memberGrant group)) distinct
      phase moved info.annotations_eTag?
    obtain ⟨r, replied, succeeds, -, rfl⟩ := document_eq_ok read
    have asked : ¬ReportsNone count := by
      rw [← isEmptyCount_iff, empty]
      exact Bool.false_ne_true
    refine ⟨next, rfl, ?_, time, .inl phase, ⟨_, moved⟩, fun _ none => absurd none asked,
      fun _ _ => ⟨r, _, Prod.ext replied rfl, succeeds, session.heard_response replied, gone, ?_⟩⟩
    · rw [gone]
      exact stamps.trans (and_iff_right phase).symm
    · exact stamp_rateLimit?.trans (ResponseInfo.annotations_rateLimit? _)

theorem rolePage_attests (phase : bag.resourceType = rolePhase)
    (called : rolePage s group count bag (s.tenant.pageLimit ⟨size, ""⟩) session =
      (.ok page, after)) :
    ∃ next, page.nextToken = next.token ∧
      Attests s group count size bag next page session after := by
  have other : bag.resourceType ≠ userPhase := by
    rw [phase]
    decide
  have plain : ∃ next, page.nextToken = next.token ∧ page.annotations.eTag? = none ∧
      ∃ cursor, bag.next cursor = .ok next := by
    rcases rolePage_heard called with ⟨_, info, next, -, moved, rfl⟩ |
      ⟨_, next, -, -, moved, rfl⟩
    · exact ⟨next, rfl, info.annotations_eTag?, _, moved⟩
    · exact ⟨next, rfl, rfl, _, moved⟩
  obtain ⟨next, behind, none, moved⟩ := plain
  refine ⟨next, behind, ⟨?_, ?_, .inr phase, moved, fun here => absurd here other,
    fun here => absurd here other⟩⟩
  · simp [Stamped, none, other]
  · simp [none]

theorem grants_attests {token : String}
    (called : grants s group ⟨size, token⟩ session = (.ok page, after)) :
    ∃ profile bag next, group.groupProfile = .ok profile ∧ Roles.resume token phases = .ok bag ∧
      page.nextToken = next.token ∧ Bag.ofToken page.nextToken = .ok next ∧
      Attests s group (profile.int? GroupRecord.usersCountKey) size bag next page session after := by
  obtain ⟨bag, profile, resumed, isGroup, inPhase⟩ := grants_phase called
  have distinct := Roles.resume_distinct resumed
  have attested : ∃ next, page.nextToken = next.token ∧
      Attests s group (profile.int? GroupRecord.usersCountKey) size bag next page session after := by
    rcases inPhase with ⟨phase, inPhase⟩ | ⟨phase, inPhase⟩
    · exact memberPage_attests distinct phase inPhase
    · exact rolePage_attests phase inPhase
  obtain ⟨next, behind, attests⟩ := attested
  obtain ⟨_, moved⟩ := attests.moved
  have read := Bag.ofToken_token (Bag.next_distinct distinct moved) (Bag.next_compact moved)
  exact ⟨profile, bag, next, isGroup, resumed, behind, behind ▸ read, attests⟩

end Calls

/-! A run. -/

/-- The pages of a run, each with the token that it was asked for by. -/
def withTokens : String → List (Page Grant) → List (String × Page Grant)
  | _, [] => []
  | token, page :: pages => (token, page) :: withTokens page.nextToken pages

/-- Whether a token stands in a phase of a group. -/
def StandsAt (phase token : String) : Prop :=
  ∃ bag, Roles.resume token phases = .ok bag ∧ bag.resourceType = phase

section Runs

variable {size : Nat} {token : String} {pages : List (Page Grant)}
  {page : Page Grant} {session after : Session σ}

/-- A call for roles leads to further ones or ends the listing. -/
theorem grants_atRoles {c : String} (stands : Roles.resume token phases = .ok (atRoles c))
    (called : grants s group ⟨size, token⟩ session = (.ok page, after)) :
    ¬Stamped page ∧ (page.nextToken ≠ "" →
      ∃ d, Roles.resume page.nextToken phases = .ok (atRoles d)) := by
  obtain ⟨_, bag, next, -, resumed, behind, -, attests⟩ := grants_attests called
  cases stands.symm.trans resumed
  have other : (atRoles c).resourceType ≠ userPhase := by
    change rolePhase ≠ userPhase
    decide
  refine ⟨fun stamped => other (attests.stamped.mp stamped).1, fun goesOn => ?_⟩
  obtain ⟨d, moved⟩ := attests.moved
  cases (next_atRoles c d).symm.trans moved
  split at behind
  · exact absurd behind goesOn
  · exact ⟨d, behind ▸ (resume_atRoles d).2⟩

/-- A call for members leads to further ones, or is stamped and leads to the roles. -/
theorem grants_atMembers {c : String} (stands : Roles.resume token phases = .ok (atMembers c))
    (called : grants s group ⟨size, token⟩ session = (.ok page, after)) :
    page.nextToken ≠ "" ∧
      ((¬Stamped page ∧ ∃ d, Roles.resume page.nextToken phases = .ok (atMembers d)) ∨
        Stamped page ∧ Roles.resume page.nextToken phases = .ok (atRoles "")) := by
  obtain ⟨_, bag, next, -, resumed, behind, -, attests⟩ := grants_attests called
  cases stands.symm.trans resumed
  have here : (atMembers c).resourceType = userPhase := rfl
  obtain ⟨d, moved⟩ := attests.moved
  cases (next_atMembers c d).symm.trans moved
  rw [behind]
  have stamped := attests.stamped
  by_cases ended : d = ""
  · rw [if_pos ended] at stamped ⊢
    obtain ⟨filled, stands⟩ := resume_atRoles ""
    have gone : userPhase ∉ (atRoles "").types := by decide
    exact ⟨filled, .inr ⟨stamped.mpr ⟨here, gone⟩, stands⟩⟩
  · rw [if_neg ended] at stamped ⊢
    obtain ⟨filled, stands⟩ := resume_atMembers d
    have left : userPhase ∈ (atMembers d).types := List.mem_cons_of_mem _ List.mem_cons_self
    exact ⟨filled, .inl ⟨fun complete => (stamped.mp complete).2 left, d, stands⟩⟩

theorem roles_unstamped {final : String}
    (run : Run (grants s group) size token session pages final after) {c : String}
    (stands : Roles.resume token phases = .ok (atRoles c)) :
    ∀ p ∈ withTokens token pages, StandsAt rolePhase p.1 ∧ ¬Stamped p.2 := by
  induction run generalizing c with
  | last called =>
    have plain := (grants_atRoles stands called).1
    exact List.forall_mem_singleton.mpr ⟨⟨_, stands, rfl⟩, plain⟩
  | more called goesOn _ ih =>
    obtain ⟨plain, next⟩ := grants_atRoles stands called
    obtain ⟨d, stands'⟩ := next goesOn
    exact List.forall_mem_cons.mpr ⟨⟨⟨_, stands, rfl⟩, plain⟩, ih stands'⟩

/-- A run that starts with the members and goes to the end stamps the last page of them alone. -/
theorem members_stamped {final : String}
    (run : Run (grants s group) size token session pages final after) (ended : final = "")
    {c : String} (stands : Roles.resume token phases = .ok (atMembers c)) :
    ∃ front last back, withTokens token pages = front ++ last :: back ∧
      (∀ p ∈ front, StandsAt userPhase p.1 ∧ ¬Stamped p.2) ∧
      (StandsAt userPhase last.1 ∧ Stamped last.2) ∧
      ∀ p ∈ back, StandsAt rolePhase p.1 ∧ ¬Stamped p.2 := by
  -- The calls stay among the members until a page is stamped; what is left is a run of roles.
  induction run generalizing c with
  | last called => exact absurd ended (grants_atMembers stands called).1
  | @more token _ _ _ _ page pages called _ rest ih =>
    rcases (grants_atMembers stands called).2 with ⟨plain, d, next⟩ | ⟨stamped, next⟩
    · obtain ⟨front, last, back, all, before, complete, behind⟩ := ih ended next
      refine ⟨(token, page) :: front, last, back, congrArg _ all, ?_, complete, behind⟩
      exact List.forall_mem_cons.mpr ⟨⟨⟨_, stands, rfl⟩, plain⟩, before⟩
    · exact ⟨[], (token, page), withTokens page.nextToken pages, rfl, by simp,
        ⟨⟨_, stands, rfl⟩, stamped⟩, roles_unstamped rest next⟩

end Runs

/-- A page of the grants of a group is stamped just if its call stood at the members and moved past
them: no cursor followed, or the group has none. The token it was called with may be any that is
accepted. A run from the first token to the last stamps one page, the last of the members. Stamped
or not, a page of members has the request budget that it was answered with. -/
theorem grants_stamped (s : Setting σ) (group : Resource) (size : Nat) :
    (∀ (token : String) (page : Page Grant) (session after : Session σ),
      grants s group ⟨size, token⟩ session = (.ok page, after) →
      ∃ profile bag next, group.groupProfile = .ok profile ∧
        Roles.resume token phases = .ok bag ∧ Bag.ofToken page.nextToken = .ok next ∧
        Attests s group (profile.int? GroupRecord.usersCountKey) size bag next page session
          after) ∧
    ∀ (pages : List (Page Grant)) (session after : Session σ),
      Run (grants s group) size "" session pages "" after →
      ∃ front last back, withTokens "" pages = front ++ last :: back ∧
        (∀ p ∈ front, StandsAt userPhase p.1 ∧ ¬Stamped p.2) ∧
        (StandsAt userPhase last.1 ∧ Stamped last.2) ∧
        ∀ p ∈ back, StandsAt rolePhase p.1 ∧ ¬Stamped p.2 := by
  refine ⟨fun token page session after called => ?_, fun pages session after run =>
    members_stamped run rfl resume_start⟩
  obtain ⟨profile, bag, next, isGroup, resumed, -, read, attests⟩ := grants_attests called
  exact ⟨profile, bag, next, isGroup, resumed, read, attests⟩

/-- The last of the members, and how many requests are left. -/
def lastOfEngineers : Response :=
  ⟨200, [("x-rate-limit-limit", "600"), ("x-rate-limit-remaining", "599"),
    ("x-rate-limit-reset", "1700000000")], "[\x7b\"id\":\"u3\"\x7d]"⟩

/-- A token without a frame for the roles, as no call gives one, is stamped by the same rule. -/
theorem grants_stamped_of_engineers :
    (∃ page after,
      grants (.scripted .acme) engineers ⟨0, (Bag.single userPhase "c1").token⟩
        (Session.start .acme [lastOfEngineers]) = (.ok page, after) ∧
      page.nextToken = "" ∧ Stamped page ∧
      page.annotations.rateLimit?.map (·.remaining) = some 599) ∧
    ∃ pages after, Run (grants engineersSetting engineers) 0 "" engineersSession pages "" after ∧
      pages.length = 3 ∧
      ∃ front last back, withTokens "" pages = front ++ last :: back ∧
        (∀ p ∈ front, StandsAt userPhase p.1 ∧ ¬Stamped p.2) ∧
        (StandsAt userPhase last.1 ∧ Stamped last.2) ∧
        ∀ p ∈ back, StandsAt rolePhase p.1 ∧ ¬Stamped p.2 := by
  constructor
  · have ends : (grants (.scripted .acme) engineers ⟨0, (Bag.single userPhase "c1").token⟩
        (Session.start .acme [lastOfEngineers])).1.toOption.map (·.nextToken) = some "" := by
      decide +kernel
    obtain ⟨page, after, called, ended⟩ := Call.ok_of_toOption ends
    obtain ⟨profile, bag, next, isGroup, resumed, read, attests⟩ :=
      (grants_stamped (.scripted .acme) engineers 0).1 _ _ _ _ called
    rw [ended] at read
    cases read
    have start : Roles.resume (Bag.single userPhase "c1").token phases =
        .ok (Bag.single userPhase "c1") := by
      rw [Roles.resume, (Bag.ofToken_single userPhase "c1").2]
      rfl
    cases start.symm.trans resumed
    cases isGroup
    have asked : ¬ReportsNone (engineersProfile.int? GroupRecord.usersCountKey) := by
      have two : engineersProfile.int? GroupRecord.usersCountKey = some 2 := by decide +kernel
      rw [two, ← isEmptyCount_iff]
      decide
    obtain ⟨r, state, answered, -, -, -, budget⟩ := attests.heard rfl asked
    cases answered
    refine ⟨page, after, called, ended, attests.stamped.mpr ⟨rfl, List.not_mem_nil⟩, ?_⟩
    rw [budget]
    decide +kernel
  · have isGroup : engineers.traits = .group engineersProfile := rfl
    have hint : engineersProfile.int? GroupRecord.usersCountKey = some 2 := by decide +kernel
    have answers : Answers engineersSetting.service engineersScript engineersSession.service :=
      Web.answers_scripted engineersScript
    rw [engineersScript, ← hint] at answers
    obtain ⟨first, between, toRoles, items, -, remaining⟩ :=
      members_run (s := engineersSetting) Tenant.acme_reachable isGroup engineersMembers answers
    obtain ⟨second, after, toEnd, itemsBehind, -⟩ :=
      roles_run (s := engineersSetting) Tenant.acme_reachable isGroup engineersRoles remaining
    have run := toRoles.append (resume_atRoles "").1 toEnd
    refine ⟨_, after, run, ?_, (grants_stamped engineersSetting engineers 0).2 _ _ _ run⟩
    have count := congrArg List.length items
    have countBehind := congrArg List.length itemsBehind
    rw [hint] at count
    rw [List.length_map] at count countBehind
    rw [List.length_append, count, countBehind]
    rfl

end Groups
end Okta
end AccessCatalog
