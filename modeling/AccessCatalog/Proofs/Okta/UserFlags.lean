import AccessCatalog.Proofs.Okta.LookupRequests
import AccessCatalog.Proofs.Paging.Frames

/-! The look-ups of one call. Users whose flags are known are passed over, the others are looked up
one after another until a look-up fails, and what was found stays known. A page of grants is made of
a page of users and of what is known of them in the end. -/
namespace AccessCatalog.Okta

open Web (Url Method Request Reply Response Service Log)

variable {σ τ : Type}

/-- The flags that a reply to the look-up of a user gives. A user whose flags may not be seen has
none; any other failure gives no flags. -/
def flagsIn (userId : String) (reply : Reply) : Except Fault AdminFlags :=
  match document (Json.list? AdminFlags.decode?) reply with
  | .ok (records, _) => .ok (AdminFlags.select userId records)
  | .error e =>
    if e.isAccessDenied then .ok { userId }
    else .error (e.context ("list administrator flags for user " ++ userId))

def assigneesIn (reply : Reply) : Except Failure (LinkedPage String × ResponseInfo) :=
  document (LinkedPage.decode? "value" Roles.decodeAssignee?) reply

abbrev CanLookUp (t : Tenant) (userId : String) : Prop :=
  t.CanAsk jsonType Roles.administratorsPath [("userId", userId)]

namespace Roles

variable {s : Setting σ} {userId : String} {session : Session σ}

theorem fetchFlags_asked (can : CanLookUp s.tenant userId) (session : Session σ) :
    fetchFlags s userId session =
      (flagsIn userId (s.service (flagsRequest s.tenant userId) session.service).1,
        session.heard (flagsRequest s.tenant userId)
          (s.service (flagsRequest s.tenant userId) session.service)) := by
  have got := s.get_asked (Json.list? AdminFlags.decode?) can session
  rw [fetchFlags, flagsRequest]
  refine (Call.bind_ok (Call.attempt_eq got)).trans ?_
  unfold flagsIn
  cases document (Json.list? AdminFlags.decode?)
      (s.service (s.tenant.query jsonType administratorsPath [("userId", userId)])
        session.service).1 with
  | ok read => rfl
  | error e =>
    dsimp only
    cases e.isAccessDenied <;> rfl

theorem fetchFlags_unasked (cannot : ¬CanLookUp s.tenant userId) :
    ∃ fault, ∀ session : Session σ, fetchFlags s userId session = (.error fault, session) := by
  obtain ⟨failure, unclassified, refused⟩ :=
    s.get_unasked (Json.list? AdminFlags.decode?) cannot
  refine ⟨failure.context ("list administrator flags for user " ++ userId), fun session => ?_⟩
  have open_ : failure.isAccessDenied = false := by simp [Failure.isAccessDenied, unclassified]
  rw [fetchFlags]
  refine (Call.bind_ok (Call.attempt_eq (refused session))).trans ?_
  dsimp only
  rw [open_]
  rfl

/-- What one call for the flags of a user does: it takes those that are known, or makes the one
look-up, of which it keeps what is found. -/
theorem flags_asked (unknown : session.flags.get? userId = none)
    (can : CanLookUp s.tenant userId) :
    flags s userId session =
      (flagsIn userId (s.service (flagsRequest s.tenant userId) session.service).1,
        { session.heard (flagsRequest s.tenant userId)
            (s.service (flagsRequest s.tenant userId) session.service) with
          flags := session.flags.keep userId
            (flagsIn userId (s.service (flagsRequest s.tenant userId) session.service).1) }) := by
  have fetched := fetchFlags_asked can (session.needing userId)
  have still : (session.needing userId).service = session.service := rfl
  rw [still] at fetched
  rw [flags, Call.bind_ok (knownFlags_unknown unknown)]
  dsimp only
  cases found : flagsIn userId (s.service (flagsRequest s.tenant userId) session.service).1 with
  | error fault =>
    rw [found] at fetched
    rw [Call.bind_error fetched]
    rfl
  | ok f =>
    rw [found] at fetched
    rw [Call.bind_ok fetched, FlagCache.keep, ← FlagCache.insert_opened]
    rfl

theorem flags_unasked (unknown : session.flags.get? userId = none)
    (cannot : ¬CanLookUp s.tenant userId) :
    ∃ fault, flags s userId session = (.error fault, session.needing userId) := by
  obtain ⟨fault, refused⟩ := fetchFlags_unasked cannot
  refine ⟨fault, ?_⟩
  rw [flags, Call.bind_ok (knownFlags_unknown unknown)]
  exact Call.bind_error (refused (session.needing userId))

end Roles

/-! The look-ups of one call. -/

def FlagCache.learned (c : FlagCache) (asked : List (String × Reply)) : FlagCache :=
  asked.foldl (fun known x => known.keep x.1 (flagsIn x.1 x.2)) c

def lookUpLog (t : Tenant) (asked : List (String × Reply)) : Log :=
  asked.map fun x => (flagsRequest t x.1, x.2)

/-- The look-ups that a list of users makes, with how they end and what they leave known. Those that
are known are passed over, and the first that fails, or cannot be asked for, ends it with a cell
that is empty; a call may also stop of itself. -/
inductive LookedUp (t : Tenant) : List String → FlagCache → List (String × Reply) →
    Except Fault Unit → FlagCache → Prop where
  | done {c : FlagCache} : LookedUp t [] c [] (.ok ()) c
  | stopped {users : List String} {c : FlagCache} {fault : Fault} :
    LookedUp t users c [] (.error fault) c
  | known {u : String} {users : List String} {c c' : FlagCache} {f : AdminFlags}
      {asked : List (String × Reply)} {outcome : Except Fault Unit} :
    c.get? u = some f → LookedUp t users c asked outcome c' →
      LookedUp t (u :: users) c asked outcome c'
  | unasked {u : String} {users : List String} {c : FlagCache} {fault : Fault} :
    c.get? u = none → LookedUp t (u :: users) c [] (.error fault) (c.opened u)
  | failed {u : String} {users : List String} {c : FlagCache} {reply : Reply} {fault : Fault} :
    c.get? u = none → CanLookUp t u → flagsIn u reply = .error fault →
      LookedUp t (u :: users) c [(u, reply)] (.error fault) (c.opened u)
  | found {u : String} {users : List String} {c c' : FlagCache} {reply : Reply} {f : AdminFlags}
      {asked : List (String × Reply)} {outcome : Except Fault Unit} :
    c.get? u = none → CanLookUp t u → flagsIn u reply = .ok f →
      LookedUp t users (c.insert u f) asked outcome c' →
      LookedUp t (u :: users) c ((u, reply) :: asked) outcome c'

namespace LookedUp

variable {t : Tenant} {users : List String} {c c' : FlagCache} {asked : List (String × Reply)}
  {outcome : Except Fault Unit}

theorem kept (looked : LookedUp t users c asked outcome c') {u : String} {f : AdminFlags}
    (known : c.get? u = some f) : c'.get? u = some f := by
  induction looked with
  | done | stopped => exact known
  | unasked | failed => rw [FlagCache.get?_opened, known]
  | known _ _ ih => exact ih known
  | @found v _ _ _ _ _ _ _ unknown _ _ _ ih =>
    refine ih ?_
    have other : u ≠ v := by
      rintro rfl
      rw [unknown] at known
      contradiction
    rw [FlagCache.get?_insert, if_neg other, known]

theorem not_asked (looked : LookedUp t users c asked outcome c') {u : String} {f : AdminFlags}
    (known : c.get? u = some f) : ∀ x ∈ asked, x.1 ≠ u := by
  induction looked with
  | done | stopped | unasked => simp
  | known _ _ ih => exact ih known
  | failed unknown _ _ =>
    rintro x member rfl
    rw [List.mem_singleton.mp member, unknown] at known
    contradiction
  | @found v _ _ _ _ _ _ _ unknown _ _ _ ih =>
    have other : v ≠ u := by
      rintro rfl
      rw [unknown] at known
      contradiction
    intro x member
    rcases List.mem_cons.mp member with rfl | behind
    · exact other
    · refine ih ?_ x behind
      rw [FlagCache.get?_insert, if_neg other.symm, known]

theorem accepted (looked : LookedUp t users c asked outcome c') {u : String} {reply : Reply}
    {f : AdminFlags} (member : (u, reply) ∈ asked) (flags : flagsIn u reply = .ok f) :
    c'.get? u = some f := by
  induction looked with
  | done | stopped | unasked => simp at member
  | known _ _ ih => exact ih member
  | failed _ _ refused =>
    cases List.mem_singleton.mp member
    rw [refused] at flags
    contradiction
  | found _ _ here looked ih =>
    rcases List.mem_cons.mp member with same | behind
    · cases same
      cases here.symm.trans flags
      exact looked.kept (FlagCache.get?_insert_self _ _ _)
    · exact ih behind

theorem once (looked : LookedUp t users c asked outcome c') :
    asked.Pairwise fun a b => ∀ f, flagsIn a.1 a.2 = .ok f → b.1 ≠ a.1 := by
  induction looked with
  | done | stopped | unasked => exact .nil
  | known _ _ ih => exact ih
  | failed => exact List.pairwise_singleton _ _
  | found _ _ _ looked ih =>
    refine List.pairwise_cons.mpr ⟨fun b behind _ _ => ?_, ih⟩
    exact looked.not_asked (FlagCache.get?_insert_self _ _ _) b behind

theorem source (looked : LookedUp t users c asked outcome c') {u : String} {f : AdminFlags}
    (known : c'.get? u = some f) : c.get? u = some f ∨
      CanLookUp t u ∧ ∃ reply, (u, reply) ∈ asked ∧ flagsIn u reply = .ok f := by
  induction looked with
  | done | stopped => exact .inl known
  | unasked | failed => exact .inl (FlagCache.get?_opened _ _ _ ▸ known)
  | known _ _ ih => exact ih known
  | @found v _ _ _ reply g _ _ _ can here _ ih =>
    rcases ih known with before | ⟨canAsk, reply, member, flags⟩
    · rw [FlagCache.get?_insert] at before
      split at before
      · rename_i same
        cases before
        subst same
        exact .inr ⟨can, reply, List.mem_cons_self, here⟩
      · exact .inl before
    · exact .inr ⟨canAsk, reply, List.mem_cons_of_mem _ member, flags⟩

/-- A look-up that fails is the last one, and the call ends with its fault. The user stays unknown,
with an empty cell, and what is known is what the look-ups before it left. -/
theorem failing (looked : LookedUp t users c asked outcome c') {front back : List (String × Reply)}
    {u : String} {reply : Reply} {fault : Fault} (split : asked = front ++ (u, reply) :: back)
    (refused : flagsIn u reply = .error fault) :
    back = [] ∧ outcome = .error fault ∧ CanLookUp t u ∧ c' = (c.learned front).opened u ∧
      c'.get? u = none := by
  induction looked generalizing front with
  | done | stopped | unasked => simp at split
  | known _ _ ih => exact ih split
  | failed unknown can failed =>
    cases front with
    | nil =>
      cases split
      cases failed.symm.trans refused
      exact ⟨rfl, rfl, can, rfl, (FlagCache.get?_opened _ _ _).trans unknown⟩
    | cons x front => simp at split
  | found _ _ here _ ih =>
    cases front with
    | nil =>
      cases split
      cases here.symm.trans refused
    | cons x front =>
      obtain ⟨rfl, behind⟩ := List.cons.inj split
      obtain ⟨last, ends, can, known, unknown⟩ := ih behind
      refine ⟨last, ends, can, ?_, unknown⟩
      rw [known, FlagCache.learned, FlagCache.learned, List.foldl_cons, here]
      rfl

theorem append (looked : LookedUp t users c asked outcome c') (ended : outcome = .ok ())
    {users' : List String} {c'' : FlagCache} {asked' : List (String × Reply)}
    {outcome' : Except Fault Unit} (others : LookedUp t users' c' asked' outcome' c'') :
    LookedUp t (users ++ users') c (asked ++ asked') outcome' c'' := by
  induction looked with
  | done => exact others
  | stopped | unasked | failed => cases ended
  | known here _ ih => exact .known here (ih ended others)
  | found unknown can here _ ih => exact .found unknown can here (ih ended others)

theorem append_failed (looked : LookedUp t users c asked outcome c') {fault : Fault}
    (failed : outcome = .error fault) (users' : List String) :
    LookedUp t (users ++ users') c asked outcome c' := by
  induction looked with
  | done => cases failed
  | stopped => exact .stopped
  | unasked unknown => exact .unasked unknown
  | known here _ ih => exact .known here (ih failed)
  | failed unknown can refused => exact .failed unknown can refused
  | found unknown can here _ ih => exact .found unknown can here (ih failed)

theorem complete (looked : LookedUp t users c asked outcome c') (ended : outcome = .ok ()) :
    ∀ u ∈ users, ∃ f, c'.get? u = some f := by
  induction looked with
  | done => simp
  | stopped | unasked | failed => cases ended
  | known here looked ih =>
    intro u member
    rcases List.mem_cons.mp member with rfl | behind
    · exact ⟨_, looked.kept here⟩
    · exact ih ended u behind
  | found _ _ here looked ih =>
    intro u member
    rcases List.mem_cons.mp member with rfl | behind
    · exact ⟨_, looked.kept (FlagCache.get?_insert_self _ _ _)⟩
    · exact ih ended u behind

end LookedUp

/-! The look-ups of one page. -/

def FlagCache.of (c : FlagCache) (userId : String) : AdminFlags := (c.get? userId).getD { userId }

namespace Roles

theorem flags_lookedUp (s : Setting σ) (u : String) (session : Session (σ × Log)) :
    ∃ asked outcome after,
      flags s.logged u session = (outcome.map fun _ => after.flags.of u, after) ∧
      LookedUp s.tenant [u] session.flags asked outcome after.flags ∧
      after.service.2 = session.service.2 ++ lookUpLog s.tenant asked := by
  cases kept : session.flags.get? u with
  | some f =>
    refine ⟨[], .ok (), session, ?_, .known kept .done, (List.append_nil _).symm⟩
    rw [flags_known kept, FlagCache.of, kept]
    rfl
  | none =>
    by_cases can : CanLookUp s.tenant u
    · let reply := (s.service (flagsRequest s.tenant u) session.service.1).1
      let heard := session.heard (flagsRequest s.tenant u)
        (s.logged.service (flagsRequest s.tenant u) session.service)
      have called : flags s.logged u session = (flagsIn u reply,
          { heard with flags := session.flags.keep u (flagsIn u reply) }) :=
        flags_asked kept can
      cases found : flagsIn u reply with
      | error fault =>
        rw [found] at called
        exact ⟨[(u, reply)], .error fault, _, called, .failed kept can found, rfl⟩
      | ok f =>
        rw [found] at called
        have known := FlagCache.get?_insert_self session.flags u f
        refine ⟨[(u, reply)], .ok (), { heard with flags := session.flags.insert u f },
          called.trans ?_, .found kept can found .done, rfl⟩
        simp only [Except.map, FlagCache.of, FlagCache.keep, known, Option.getD_some]
    · obtain ⟨fault, refused⟩ := flags_unasked (s := s.logged) kept can
      exact ⟨[], .error fault, session.needing u, refused, .unasked kept, (List.append_nil _).symm⟩

/-- Going through users makes look-ups as they do, and finds who of them has the role. -/
theorem holders_lookedUp (s : Setting σ) (roleId : String) (users : List String)
    (session : Session (σ × Log)) :
    ∃ asked outcome after,
      holders s.logged roleId users session =
        (outcome.map fun _ => users.filter fun u => (after.flags.of u).grants roleId, after) ∧
      LookedUp s.tenant users session.flags asked outcome after.flags ∧
      after.service.2 = session.service.2 ++ lookUpLog s.tenant asked := by
  induction users generalizing session with
  | nil => exact ⟨[], .ok (), session, rfl, .done, (List.append_nil _).symm⟩
  | cons u users ih =>
    obtain ⟨asked, outcome, between, called, looked, log⟩ := flags_lookedUp s u session
    cases outcome with
    | error fault =>
      refine ⟨asked, .error fault, between, ?_, looked.append_failed rfl users, log⟩
      rw [holders, Call.bind_error called]
      rfl
    | ok _ =>
      obtain ⟨asked', outcome, after, others, looked', log'⟩ := ih between
      refine ⟨asked ++ asked', outcome, after, ?_, looked.append rfl looked', ?_⟩
      · -- What is found for this user is still known when the others are through.
        obtain ⟨f, known⟩ := looked.complete rfl u (List.mem_singleton_self u)
        have same : after.flags.of u = between.flags.of u := by
          rw [FlagCache.of, FlagCache.of, looked'.kept known, known]
        rw [holders, Call.bind_ok called]
        cases outcome with
        | error fault => exact Call.bind_error others
        | ok _ =>
          rw [Call.bind_ok others, ← same]
          simp only [Except.map, List.filter_cons]
          rfl
      · rw [log', log, List.append_assoc, lookUpLog, lookUpLog, lookUpLog, List.map_append]

/-! The page stage of a call for grants. -/

def grantPage (role : Resource) (users : List String) (next : Bag) (info : ResponseInfo) :
    Page Grant :=
  ⟨users.map fun userId => Grant.ofAssignment role Role.assignedSlug ⟨"user", userId⟩,
    next.token, info.annotations⟩

abbrev CanList (t : Tenant) (limit : Nat) (cursor : String) : Prop :=
  t.CanAsk jsonType assigneesPath [("limit", Nat.repr limit), ("after", cursor)]

section Page

variable (s : Setting σ) (role : Resource) {r : PageRequest} {bag : Bag} (session : Session σ)

theorem grants_unreadable {fault : Fault}
    (unreadable : Bag.resume r.token { resourceType := "user" } = .error fault) :
    grants s role r session = (.error fault, session) := by
  rw [grants]
  refine Call.bind_error ?_
  rw [unreadable]
  rfl

theorem grants_unasked (resumed : Bag.resume r.token { resourceType := "user" } = .ok bag)
    (cannot : ¬CanList s.tenant (s.tenant.pageLimit r) bag.cursor) :
    ∃ fault, grants s role r session = (.error fault, session) := by
  obtain ⟨failure, _, refused⟩ :=
    s.get_unasked (LinkedPage.decode? "value" decodeAssignee?) cannot
  refine ⟨failure.context "list users with role assignments", ?_⟩
  rw [grants, Call.bind_ok (Call.ofExcept_ok resumed session)]
  exact Call.bind_error (Call.within_error (refused session) _)

variable (resumed : Bag.resume r.token { resourceType := "user" } = .ok bag)
  (can : CanList s.tenant (s.tenant.pageLimit r) bag.cursor)

include resumed can

theorem grants_unanswered {failure : Failure}
    (unread : assigneesIn (s.service (assigneesRequest s.tenant (s.tenant.pageLimit r) bag.cursor)
      session.service).1 = .error failure) :
    grants s role r session = (.error (failure.context "list users with role assignments"),
      session.heard (assigneesRequest s.tenant (s.tenant.pageLimit r) bag.cursor)
        (s.service (assigneesRequest s.tenant (s.tenant.pageLimit r) bag.cursor)
          session.service)) := by
  have got := s.get_asked (LinkedPage.decode? "value" decodeAssignee?) can session
  rw [grants, Call.bind_ok (Call.ofExcept_ok resumed session)]
  refine Call.bind_error (Call.within_error (got.trans ?_) _)
  exact congrArg (·, _) unread

theorem grants_answered {page : LinkedPage String} {info : ResponseInfo} {next : Bag}
    (read : assigneesIn (s.service (assigneesRequest s.tenant (s.tenant.pageLimit r) bag.cursor)
      session.service).1 = .ok (page, info))
    (moved : bag.next (page.nextCursor info) = .ok next)
    {users : Except Fault (List String)} {after : Session σ}
    (found : holders s role.id.resource page.items
      (session.heard (assigneesRequest s.tenant (s.tenant.pageLimit r) bag.cursor)
        (s.service (assigneesRequest s.tenant (s.tenant.pageLimit r) bag.cursor)
          session.service)) = (users, after)) :
    grants s role r session = (users.map fun users => grantPage role users next info, after) := by
  have got := s.get_asked (LinkedPage.decode? "value" decodeAssignee?) can session
  rw [grants, Call.bind_ok (Call.ofExcept_ok resumed session)]
  refine (Call.bind_ok (Call.within_ok (got.trans (congrArg (·, _) read)) _)).trans ?_
  dsimp only
  rw [Call.bind_ok (Call.ofExcept_ok moved _)]
  cases users with
  | error fault => exact Call.bind_error found
  | ok users => exact Call.bind_ok found

end Page

end Roles

/-! Pages from flags that do not change. -/

namespace Roles

section Constant

variable {s : Setting τ} {flagsOf : String → AdminFlags}
  (answers : ∀ u state, flagsIn u (s.service (flagsRequest s.tenant u) state).1 = .ok (flagsOf u))

include answers

theorem flags_constant {u : String} (can : CanLookUp s.tenant u) {session : Session τ}
    (agrees : ∀ v f, session.flags.get? v = some f → f = flagsOf v) :
    ∃ after, flags s u session = (.ok (flagsOf u), after) ∧
      ∀ v f, after.flags.get? v = some f → f = flagsOf v := by
  cases kept : session.flags.get? u with
  | some f => exact ⟨session, agrees u f kept ▸ flags_known kept, agrees⟩
  | none =>
    have called := flags_asked kept can
    rw [answers] at called
    refine ⟨_, called, fun v f known => ?_⟩
    dsimp only [FlagCache.keep] at known
    rw [FlagCache.get?_insert] at known
    split at known
    · rename_i same
      rw [same]
      exact (Option.some.inj known).symm
    · exact agrees v f known

theorem holders_constant (roleId : String) {users : List String}
    (can : ∀ u ∈ users, CanLookUp s.tenant u) {session : Session τ}
    (agrees : ∀ v f, session.flags.get? v = some f → f = flagsOf v) :
    ∃ after, holders s roleId users session =
      (.ok (users.filter fun u => (flagsOf u).grants roleId), after) := by
  induction users generalizing session with
  | nil => exact ⟨session, rfl⟩
  | cons u users ih =>
    obtain ⟨between, called, agrees'⟩ :=
      flags_constant answers (can u List.mem_cons_self) agrees
    obtain ⟨after, others⟩ := ih (fun v member => can v (List.mem_cons_of_mem _ member)) agrees'
    refine ⟨after, ?_⟩
    rw [holders, Call.bind_ok called, Call.bind_ok others, List.filter_cons]
    rfl

end Constant

/-- A page of grants is made of the page of users, and of flags that are known when it is done. -/
theorem grants_page {s : Setting σ} {role : Resource} {r : PageRequest} {page : Page Grant}
    {session after : Session (σ × Log)}
    (called : grants s.logged role r session = (.ok page, after)) :
    ∃ bag users info next,
      Bag.resume r.token { resourceType := "user" } = .ok bag ∧
      CanList s.tenant (s.tenant.pageLimit r) bag.cursor ∧
      assigneesIn (s.service (assigneesRequest s.tenant (s.tenant.pageLimit r) bag.cursor)
        session.service.1).1 = .ok (users, info) ∧
      bag.next (users.nextCursor info) = .ok next ∧
      (∀ u ∈ users.items, ∃ f, after.flags.get? u = some f) ∧
      page = grantPage role (users.items.filter fun u => (after.flags.of u).grants role.id.resource)
        next info := by
  cases resumed : Bag.resume r.token { resourceType := "user" } with
  | error fault =>
    rw [grants_unreadable s.logged role session resumed] at called
    cases called
  | ok bag =>
    by_cases can : CanList s.tenant (s.tenant.pageLimit r) bag.cursor
    · let request := assigneesRequest s.tenant (s.tenant.pageLimit r) bag.cursor
      cases read : assigneesIn (s.service request session.service.1).1 with
      | error failure =>
        rw [grants_unanswered s.logged role session resumed can read] at called
        cases called
      | ok answer =>
        obtain ⟨users, info⟩ := answer
        obtain ⟨next, moved⟩ := Bag.resume_next resumed (users.nextCursor info)
        obtain ⟨asked, outcome, last, found, looked, _⟩ :=
          holders_lookedUp s role.id.resource users.items
            (session.heard request (s.logged.service request session.service))
        rw [grants_answered s.logged role session resumed can read moved found] at called
        cases outcome with
        | error fault => cases called
        | ok _ =>
          cases called
          exact ⟨bag, users, info, next, rfl, can, read, moved, looked.complete rfl, rfl⟩
    · obtain ⟨fault, refused⟩ := grants_unasked s.logged role session resumed can
      rw [refused] at called
      cases called

end Roles
end AccessCatalog.Okta
