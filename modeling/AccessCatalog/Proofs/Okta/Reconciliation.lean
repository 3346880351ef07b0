import AccessCatalog.Proofs.Okta.UserFlags

/-! Calls that need the flags of users, in any order. What they keep of each other is the flags that
look-ups found: a user is looked up until a look-up is accepted, and never again. Where the accepted
answers for a user agree, a page of grants does not depend on the calls before it. -/
namespace AccessCatalog.Okta

open Web (Url Request Reply Response Service Log)

variable {σ τ : Type}

/-! Calls in any order. -/

inductive RoleCall where
  | flags (userId : String)
  | grants (role : Resource) (r : PageRequest)

namespace RoleCall

def run (s : Setting σ) (c : RoleCall) (session : Session σ) : Except Fault Unit × Session σ :=
  match c with
  | flags userId => (Roles.flags s userId session).map (·.map fun _ => ()) id
  | grants role r => (Roles.grants s role r session).map (·.map fun _ => ()) id

/-- The pages that a call reads, and the users it needs the flags of. -/
inductive Reads (t : Tenant) : RoleCall → Log → List String → Prop where
  | flags (userId : String) : Reads t (.flags userId) [] [userId]
  | grants {role : Resource} {r : PageRequest} {bag : Bag} {reply : Reply}
      {page : LinkedPage String} {info : ResponseInfo} :
    Bag.resume r.token { resourceType := "user" } = .ok bag →
      assigneesIn reply = .ok (page, info) →
      Reads t (.grants role r) [(assigneesRequest t (t.pageLimit r) bag.cursor, reply)] page.items

/-- One call reads at most its page, then makes the look-ups of the users it needs. -/
theorem run_lookedUp (s : Setting σ) (c : RoleCall) (session : Session (σ × Log)) :
    ∃ pages users asked,
      LookedUp s.tenant users session.flags asked (c.run s.logged session).1
        (c.run s.logged session).2.flags ∧
      (c.run s.logged session).2.service.2 =
        session.service.2 ++ (pages ++ lookUpLog s.tenant asked) ∧
      (∀ e ∈ pages, ∀ u, e.1 ≠ flagsRequest s.tenant u) ∧
      ((c.run s.logged session).1 = .ok () → c.Reads s.tenant pages users) := by
  cases c with
  | flags u =>
    obtain ⟨asked, outcome, after, called, looked, log⟩ := Roles.flags_lookedUp s u session
    have ran : (flags u).run s.logged session = (outcome, after) := by
      rw [run, called]
      cases outcome <;> rfl
    rw [ran]
    exact ⟨[], [u], asked, looked, log, by simp, fun _ => .flags u⟩
  | grants role r =>
    have stopped : ∀ {fault : Fault} {after : Session (σ × Log)},
        Roles.grants s.logged role r session = (.error fault, after) →
        (grants role r).run s.logged session = (.error fault, after) := by
      intro fault after called
      rw [run, called]
      rfl
    cases resumed : Bag.resume r.token { resourceType := "user" } with
    | error fault =>
      rw [stopped (Roles.grants_unreadable s.logged role session resumed)]
      exact ⟨[], [], [], .stopped, (List.append_nil _).symm, by simp, fun h => nomatch h⟩
    | ok bag =>
      by_cases can : Roles.CanList s.tenant (s.tenant.pageLimit r) bag.cursor
      · -- The page is asked for first. It is no look-up, and changes nothing that is known.
        let request := assigneesRequest s.tenant (s.tenant.pageLimit r) bag.cursor
        let reply := (s.service request session.service.1).1
        let heard := session.heard request (s.logged.service request session.service)
        have other : ∀ e ∈ [(request, reply)], ∀ u, e.1 ≠ flagsRequest s.tenant u := by
          intro e member
          rw [List.mem_singleton.mp member]
          exact assigneesRequest_ne can.1
        cases read : assigneesIn reply with
        | error failure =>
          rw [stopped (Roles.grants_unanswered s.logged role session resumed can read)]
          exact ⟨[(request, reply)], [], [], .stopped, rfl, other, fun h => nomatch h⟩
        | ok answer =>
          obtain ⟨page, info⟩ := answer
          obtain ⟨next, moved⟩ := Bag.resume_next resumed (page.nextCursor info)
          obtain ⟨asked, outcome, after, found, looked, log⟩ :=
            Roles.holders_lookedUp s role.id.resource page.items heard
          have called := Roles.grants_answered s.logged role session resumed can read moved found
          have ran : (grants role r).run s.logged session = (outcome, after) := by
            rw [run, called]
            cases outcome <;> rfl
          rw [ran]
          refine ⟨[(request, reply)], page.items, asked, looked, ?_, other, fun _ =>
            .grants resumed read⟩
          exact log.trans (List.append_assoc _ _ _)
      · obtain ⟨fault, refused⟩ := Roles.grants_unasked s.logged role session resumed can
        rw [stopped refused]
        exact ⟨[], [], [], .stopped, (List.append_nil _).symm, by simp, fun h => nomatch h⟩

end RoleCall

/-- What is known agrees with what was heard: an accepted look-up is known and was the last one for
its user, and nothing else is known. -/
structure Settled (t : Tenant) (session : Session (σ × Log)) : Prop where
  known : ∀ u reply f, (flagsRequest t u, reply) ∈ session.service.2 → flagsIn u reply = .ok f →
    session.flags.get? u = some f
  once : session.service.2.Pairwise fun a b =>
    ∀ u f, a.1 = flagsRequest t u → flagsIn u a.2 = .ok f → b.1 ≠ flagsRequest t u
  heard : ∀ u f, session.flags.get? u = some f → CanLookUp t u ∧
    ∃ reply, (flagsRequest t u, reply) ∈ session.service.2 ∧ flagsIn u reply = .ok f

namespace Settled

variable {t : Tenant} {session after : Session (σ × Log)}

theorem fresh (unknown : session.flags = {}) (silent : session.service.2 = []) :
    Settled t session where
  known := by simp [silent]
  once := by rw [silent]; exact .nil
  heard := by
    intro u f known
    rw [unknown] at known
    cases known

theorem mem_lookUpLog {u : String} {reply : Reply} {asked : List (String × Reply)}
    (member : (flagsRequest t u, reply) ∈ lookUpLog t asked) : (u, reply) ∈ asked := by
  obtain ⟨⟨v, heard⟩, inside, same⟩ := List.mem_map.mp member
  obtain ⟨request, rfl⟩ := Prod.mk.inj same
  rwa [← flagsRequest_inj request]

theorem step (settled : Settled t session) {pages : Log} {users : List String}
    {asked : List (String × Reply)} {outcome : Except Fault Unit}
    (looked : LookedUp t users session.flags asked outcome after.flags)
    (log : after.service.2 = session.service.2 ++ (pages ++ lookUpLog t asked))
    (other : ∀ e ∈ pages, ∀ u, e.1 ≠ flagsRequest t u) : Settled t after where
  known := by
    intro u reply f member flags
    rw [log] at member
    rcases List.mem_append.mp member with old | new
    · exact looked.kept (settled.known u reply f old flags)
    · rcases List.mem_append.mp new with inPages | inLog
      · exact absurd rfl (other _ inPages u)
      · exact looked.accepted (mem_lookUpLog inLog) flags
  once := by
    rw [log]
    refine List.pairwise_append.mpr ⟨settled.once, ?_, ?_⟩
    · refine List.pairwise_append.mpr ⟨?_, ?_, ?_⟩
      · exact List.pairwise_of_forall_mem_list fun a inPages b _ u f same =>
          absurd same (other a inPages u)
      · refine List.pairwise_map.mpr (looked.once.imp ?_)
        intro a b once u f same flags again
        have user := flagsRequest_inj same
        subst user
        exact once f flags (flagsRequest_inj again)
      · exact fun a inPages b _ u f same => absurd same (other a inPages u)
    · -- What was accepted before is known by now, so that no look-up of this call is of its user.
      rintro ⟨request, reply⟩ old b new u f rfl flags again
      rcases List.mem_append.mp new with inPages | inLog
      · exact other b inPages u again
      · obtain ⟨x, inside, rfl⟩ := List.mem_map.mp inLog
        exact looked.not_asked (settled.known u reply f old flags) x inside (flagsRequest_inj again)
  heard := by
    intro u f known
    rcases looked.source known with before | ⟨can, reply, member, flags⟩
    · obtain ⟨can, reply, member, flags⟩ := settled.heard u f before
      exact ⟨can, reply, log ▸ List.mem_append_left _ member, flags⟩
    · refine ⟨can, reply, ?_, flags⟩
      rw [log]
      exact List.mem_append_right _ (List.mem_append_right _ (List.mem_map.mpr ⟨_, member, rfl⟩))

theorem run {s : Setting σ} (settled : Settled s.tenant session) (c : RoleCall) :
    Settled s.tenant (c.run s.logged session).2 := by
  obtain ⟨pages, users, asked, looked, log, other, _⟩ := c.run_lookedUp s session
  exact settled.step looked log other

end Settled

def runAll (s : Setting σ) (calls : List RoleCall) (session : Session σ) : Session σ :=
  calls.foldl (fun session c => (c.run s session).2) session

theorem Settled.runAll {s : Setting σ} {session : Session (σ × Log)}
    (settled : Settled s.tenant session) (calls : List RoleCall) :
    Settled s.tenant (runAll s.logged calls session) := by
  induction calls generalizing session with
  | nil => exact settled
  | cons c calls ih => exact ih (settled.run c)

namespace Roles

theorem flags_asks {s : Setting σ} {u : String} {session : Session (σ × Log)}
    (unknown : session.flags.get? u = none) (can : CanLookUp s.tenant u) :
    ∃ reply, (flags s.logged u session).2.service.2 =
      session.service.2 ++ [(flagsRequest s.tenant u, reply)] := by
  rw [flags_asked (s := s.logged) unknown can]
  exact ⟨_, rfl⟩

/-- Where the accepted answers agree, the page is the one that a setting with the same tenant and
page of users makes of those answers from nothing known. -/
theorem grants_settled {s : Setting σ} {role : Resource} {r : PageRequest} {page : Page Grant}
    {session after : Session (σ × Log)} {flagsOf : String → AdminFlags}
    (called : grants s.logged role r session = (.ok page, after))
    (settled : Settled s.tenant after)
    (agree : ∀ u reply f, (flagsRequest s.tenant u, reply) ∈ after.service.2 →
      flagsIn u reply = .ok f → f = flagsOf u)
    {s' : Setting τ} {session' : Session τ} (tenant : s'.tenant = s.tenant)
    (unknown : session'.flags = {})
    (sameUsers : ∀ bag, Bag.resume r.token { resourceType := "user" } = .ok bag →
      (s'.service (assigneesRequest s.tenant (s.tenant.pageLimit r) bag.cursor)
          session'.service).1 =
        (s.service (assigneesRequest s.tenant (s.tenant.pageLimit r) bag.cursor)
          session.service.1).1)
    (answers : ∀ u state,
      flagsIn u (s'.service (flagsRequest s.tenant u) state).1 = .ok (flagsOf u)) :
    (grants s' role r session').1 = .ok page := by
  obtain ⟨bag, users, info, next, resumed, can, read, moved, known, rfl⟩ := grants_page called
  have same : users.items.filter (fun u => (after.flags.of u).grants role.id.resource) =
      users.items.filter fun u => (flagsOf u).grants role.id.resource := by
    refine List.filter_congr fun u member => ?_
    obtain ⟨f, inCache⟩ := known u member
    obtain ⟨_, reply, inLog, found⟩ := settled.heard u f inCache
    rw [FlagCache.of, inCache, Option.getD_some, agree u reply f inLog found]
  have canLookUp : ∀ u ∈ users.items, CanLookUp s'.tenant u := by
    intro u member
    obtain ⟨f, inCache⟩ := known u member
    exact tenant ▸ (settled.heard u f inCache).1
  rw [← tenant] at can read sameUsers answers
  rw [← sameUsers bag resumed] at read
  let heard := session'.heard (assigneesRequest s'.tenant (s'.tenant.pageLimit r) bag.cursor)
    (s'.service (assigneesRequest s'.tenant (s'.tenant.pageLimit r) bag.cursor) session'.service)
  have none : ∀ v f, heard.flags.get? v = some f → f = flagsOf v := by
    intro v f inCache
    rw [show heard.flags = {} from unknown] at inCache
    cases inCache
  obtain ⟨last, found⟩ := holders_constant answers role.id.resource canLookUp none
  rw [grants_answered s' role session' resumed can read moved found, same]
  rfl

end Roles

/-- Over all sequences of calls of a new connector. An accepted look-up of a user was the last one
and decides what every later call sees. A look-up that fails ends its call with its fault and leaves
no more than an empty cell, so that the user stays unknown and is looked up by the next call; a call
that succeeds has looked up all users it needs. And a page of grants depends on nothing but the page
of users and the accepted answers. -/
theorem flags_reconciled (s : Setting σ) (calls : List RoleCall) {session : Session (σ × Log)}
    (unknown : session.flags = {}) (silent : session.service.2 = []) :
    (∀ front u reply back f, (runAll s.logged calls session).service.2 =
        front ++ (flagsRequest s.tenant u, reply) :: back → flagsIn u reply = .ok f →
      (∀ e ∈ back, e.1 ≠ flagsRequest s.tenant u) ∧
        Roles.flags s.logged u (runAll s.logged calls session) =
          (.ok f, runAll s.logged calls session)) ∧
    (∀ c : RoleCall, ∃ outcome after pages users asked,
      c.run s.logged (runAll s.logged calls session) = (outcome, after) ∧
      after.service.2 = (runAll s.logged calls session).service.2 ++
        (pages ++ lookUpLog s.tenant asked) ∧
      (∀ e ∈ pages, ∀ u, e.1 ≠ flagsRequest s.tenant u) ∧
      (outcome = .ok () → c.Reads s.tenant pages users ∧
        ∀ u ∈ users, (runAll s.logged calls session).flags.get? u = none →
          ∃ reply f, (u, reply) ∈ asked ∧ flagsIn u reply = .ok f) ∧
      ∀ front u reply back fault, asked = front ++ (u, reply) :: back →
        flagsIn u reply = .error fault →
        back = [] ∧ outcome = .error fault ∧
          after.flags = ((runAll s.logged calls session).flags.learned front).opened u ∧
          after.flags.size = ((runAll s.logged calls session).flags.learned front).size ∧
          (∀ v, after.flags.get? v = ((runAll s.logged calls session).flags.learned front).get? v) ∧
          (runAll s.logged calls session).flags.get? u = none ∧ after.flags.get? u = none ∧
          ∃ again, (Roles.flags s.logged u after).2.service.2 =
            after.service.2 ++ [(flagsRequest s.tenant u, again)]) ∧
    (∀ (role : Resource) (r : PageRequest) (page : Page Grant) (after : Session (σ × Log))
      (flagsOf : String → AdminFlags),
      Roles.grants s.logged role r (runAll s.logged calls session) = (.ok page, after) →
      (∀ u reply f, (flagsRequest s.tenant u, reply) ∈ after.service.2 →
        flagsIn u reply = .ok f → f = flagsOf u) →
      ∀ (τ : Type) (s' : Setting τ) (session' : Session τ), s'.tenant = s.tenant →
        session'.flags = {} →
        (∀ bag, Bag.resume r.token { resourceType := "user" } = .ok bag →
          (s'.service (assigneesRequest s.tenant (s.tenant.pageLimit r) bag.cursor)
              session'.service).1 =
            (s.service (assigneesRequest s.tenant (s.tenant.pageLimit r) bag.cursor)
              (runAll s.logged calls session).service.1).1) →
        (∀ u state, flagsIn u (s'.service (flagsRequest s.tenant u) state).1 = .ok (flagsOf u)) →
        (Roles.grants s' role r session').1 = .ok page) := by
  have settled : Settled s.tenant (runAll s.logged calls session) :=
    (Settled.fresh unknown silent).runAll calls
  refine ⟨?_, ?_, ?_⟩
  · intro front u reply back f log accepted
    have known : (runAll s.logged calls session).flags.get? u = some f :=
      settled.known u reply f (log ▸ List.mem_append_right _ List.mem_cons_self) accepted
    have once := settled.once
    rw [log] at once
    have behind := (List.pairwise_cons.mp (List.pairwise_append.mp once).2.1).1
    exact ⟨fun e member => behind e member u f rfl accepted, Roles.flags_known known⟩
  · intro c
    obtain ⟨pages, users, asked, looked, log, other, reads⟩ :=
      c.run_lookedUp s (runAll s.logged calls session)
    refine ⟨_, _, pages, users, asked, rfl, log, other, fun ended => ⟨reads ended, ?_⟩, ?_⟩
    · intro u member unasked
      obtain ⟨f, known⟩ := looked.complete ended u member
      rcases looked.source known with before | ⟨_, reply, inAsked, found⟩
      · rw [unasked] at before
        cases before
      · exact ⟨reply, f, inAsked, found⟩
    · intro front u reply back fault split refused
      obtain ⟨last, ends, can, learned, still⟩ := looked.failing split refused
      have before : (runAll s.logged calls session).flags.get? u = none := by
        cases kept : (runAll s.logged calls session).flags.get? u with
        | none => rfl
        | some f => rw [looked.kept kept] at still; cases still
      refine ⟨last, ends, learned, ?_, fun v => ?_, before, still, Roles.flags_asks still can⟩
      · exact (congrArg FlagCache.size learned).trans (FlagCache.size_opened _ u)
      · exact (congrArg (·.get? v) learned).trans (FlagCache.get?_opened _ u v)
  · intro role r page after flagsOf called agree τ s' session' tenant nothing sameUsers answers
    have behind := settled.run (.grants role r)
    rw [RoleCall.run, called] at behind
    exact Roles.grants_settled called behind agree tenant nothing sameUsers answers

/-! A user whose look-up fails once, is then accepted, and after that holds a role. -/

def unnamedFlags : AdminFlags := { individualRoles := ["SuperAdmin"] }

def flagsAnswer : Answer (Json.list? AdminFlags.decode?) :=
  .ofResponse ⟨200, [], "[\x7b\"rolesFromIndividualAssignments\":[\"SuperAdmin\"]\x7d]"⟩
    (by decide) (by decide +kernel)

def assigneesAnswer : Response := ⟨200, [], "\x7b\"value\":[\x7b\"id\":\"u1\"\x7d]\x7d"⟩

def superAdmin : Resource :=
  ({ type := "SUPER_ADMIN", label := "Super Administrator" } : Role).resource

def failingOnce : Setting (List Response × Log) := (Setting.scripted .acme).logged

def failingOnceStart : Session (List Response × Log) :=
  Session.start Tenant.acme ([⟨500, [], ""⟩, flagsAnswer.response, assigneesAnswer], [])

def steady : Setting Unit :=
  { tenant := Tenant.acme, now := ⟨0, 0, 0⟩, draws := fun _ => 0
    service := fun r _ =>
      (.response (if r.url.path = (Tenant.acme.address Roles.administratorsPath).path then
        flagsAnswer.response else assigneesAnswer), ()) }

theorem flagsIn_flagsAnswer (u : String) :
    flagsIn u (.response flagsAnswer.response) = .ok unnamedFlags := by
  have records : flagsAnswer.content = [unnamedFlags] := by decide +kernel
  have chosen : AdminFlags.select u [unnamedFlags] = unnamedFlags := by
    by_cases unnamed : "" = u <;> simp [AdminFlags.select, unnamedFlags, unnamed]
  rw [flagsIn, document_answer flagsAnswer, records]
  exact congrArg Except.ok chosen

theorem refusedIn {u : String} {reply : Reply} {failure : Failure} {f : AdminFlags}
    (failed : document (Json.list? AdminFlags.decode?) reply = .error failure)
    (notDenied : failure.isAccessDenied = false) : flagsIn u reply ≠ .ok f := by
  rw [flagsIn, failed]
  dsimp only
  rw [notDenied]
  exact fun same => nomatch same

theorem steady_lookUp (u : String) (state : Unit) :
    flagsIn u (steady.service (flagsRequest Tenant.acme u) state).1 = .ok unnamedFlags := by
  have path : (flagsRequest Tenant.acme u).url.path =
      (Tenant.acme.address Roles.administratorsPath).path := by
    unfold flagsRequest Tenant.query Tenant.request Url.appendPairs
    dsimp only
    split <;> rfl
  rw [steady]
  dsimp only
  rw [if_pos path]
  exact flagsIn_flagsAnswer u

theorem flags_reconciled_of_failing_once :
    let now := runAll failingOnce [.flags "u1", .flags "u1"] failingOnceStart
    Roles.flags failingOnce "u1" now = (.ok unnamedFlags, now) ∧
      ∃ page, (Roles.grants failingOnce superAdmin {} now).1 = .ok page ∧
        (Roles.grants steady superAdmin {} (Session.start Tenant.acme ())).1 = .ok page := by
  intro now
  have unknown : failingOnceStart.flags = {} := rfl
  obtain ⟨lookUps, _, pages⟩ := flags_reconciled (Setting.scripted .acme)
    [.flags "u1", .flags "u1"] unknown rfl
  have log : now.service.2 = [(flagsRequest Tenant.acme "u1", .response ⟨500, [], ""⟩),
      (flagsRequest Tenant.acme "u1", .response flagsAnswer.response)] := by decide +kernel
  have ends : (Roles.grants failingOnce superAdmin {} now).1.isOk = true := by decide +kernel
  have longer : (Roles.grants failingOnce superAdmin {} now).2.service.2 =
      now.service.2 ++ [(assigneesRequest Tenant.acme 200 "", .response assigneesAnswer)] := by
    decide +kernel
  refine ⟨?_, ?_⟩
  · exact (lookUps [(flagsRequest Tenant.acme "u1", .response ⟨500, [], ""⟩)] "u1"
      (.response flagsAnswer.response) [] unnamedFlags log (flagsIn_flagsAnswer "u1")).2
  · cases called : Roles.grants failingOnce superAdmin {} now with
    | mk result after =>
      rw [called] at ends longer
      cases result with
      | error fault => cases ends
      | ok page =>
        refine ⟨page, rfl, pages superAdmin {} page after (fun _ => unnamedFlags) called ?_ Unit
          steady (Session.start Tenant.acme ()) rfl rfl ?_ steady_lookUp⟩
        · intro u reply f member found
          rw [longer, log] at member
          simp only [List.cons_append, List.nil_append, List.mem_cons, Prod.mk.injEq,
            List.not_mem_nil, or_false] at member
          rcases member with ⟨_, rfl⟩ | ⟨_, rfl⟩ | ⟨_, rfl⟩
          · exact absurd found (refusedIn rfl (by decide))
          · exact Except.ok.inj (found.symm.trans (flagsIn_flagsAnswer u))
          · exact absurd found (refusedIn rfl (by decide))
        · intro bag resumed
          cases resumed
          decide +kernel

end AccessCatalog.Okta
