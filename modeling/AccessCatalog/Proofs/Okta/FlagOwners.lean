import AccessCatalog.Proofs.Okta.Reconciliation

/-! Whose flags decide over a grant. Those taken for a user are a record of the answer to the
look-up of that user. They are not always theirs: if no record names the user, the first one is
taken, whomever it names. -/
namespace AccessCatalog.Okta

open Web (Reply Response Log)

variable {σ : Type}

namespace AdminFlags

/-- Whether a record is of this user, or does not say of whom it is. -/
def MayBeOf (f : AdminFlags) (userId : String) : Prop := f.userId = userId ∨ f.userId = ""

/-- Whether records hold the flags of a user where they are looked for: some record names the user,
or the first one names nobody, or there is none. -/
def Fit (records : List AdminFlags) (userId : String) : Prop :=
  records = [] ∨ (∃ f ∈ records, f.userId = userId) ∨ ∃ f, records.head? = some f ∧ f.userId = ""

theorem select_mem (userId : String) (records : List AdminFlags) :
    select userId records = { userId } ∨ select userId records ∈ records := by
  unfold select
  cases named : records.find? fun f => f.userId = userId with
  | some f => exact .inr (List.mem_of_find?_eq_some named)
  | none =>
    cases records with
    | nil => exact .inl rfl
    | cons f rest => exact .inr List.mem_cons_self

theorem select_mayBeOf {userId : String} {records : List AdminFlags} :
    (select userId records).MayBeOf userId ↔ Fit records userId := by
  unfold select
  cases named : records.find? fun f => f.userId = userId with
  | some f =>
    have same : f.userId = userId := by simpa using List.find?_some named
    exact ⟨fun _ => .inr (.inl ⟨f, List.mem_of_find?_eq_some named, same⟩), fun _ => .inl same⟩
  | none =>
    have other : ∀ f ∈ records, f.userId ≠ userId := by simpa using named
    cases records with
    | nil => exact ⟨fun _ => .inl rfl, fun _ => .inl rfl⟩
    | cons first rest =>
      -- No record names the user, so that the first one is taken.
      constructor
      · rintro (same | unnamed)
        · exact .inr (.inl ⟨first, List.mem_cons_self, same⟩)
        · exact .inr (.inr ⟨first, rfl, unnamed⟩)
      · rintro (none | ⟨f, member, same⟩ | ⟨f, isFirst, unnamed⟩)
        · cases none
        · exact absurd same (other f member)
        · cases isFirst
          exact .inr unnamed

end AdminFlags

open AdminFlags (Fit)

theorem flagsIn_mayBeOf {userId : String} {reply : Reply} {f : AdminFlags}
    (fit : ∀ records info, document (Json.list? AdminFlags.decode?) reply = .ok (records, info) →
      Fit records userId) (found : flagsIn userId reply = .ok f) : f.MayBeOf userId := by
  unfold flagsIn at found
  split at found
  · rename_i records info read
    cases found
    exact AdminFlags.select_mayBeOf.mpr (fit records info read)
  · split at found
    · cases found
      exact .inl rfl
    · cases found

namespace Roles

theorem grants_decided {s : Setting σ} {role : Resource} {r : PageRequest} {page : Page Grant}
    {session after : Session (σ × Log)}
    (called : grants s.logged role r session = (.ok page, after)) :
    ∀ g ∈ page.items, ∃ f, after.flags.get? g.principal.resource = some f ∧
      f.grants role.id.resource = true := by
  obtain ⟨bag, users, info, next, _, _, _, _, known, rfl⟩ := grants_page called
  intro g member
  obtain ⟨u, inPage, rfl⟩ := List.mem_map.mp member
  obtain ⟨isUser, decided⟩ := List.mem_filter.mp inPage
  obtain ⟨f, inCache⟩ := known u isUser
  refine ⟨f, inCache, ?_⟩
  rwa [FlagCache.of, inCache] at decided

end Roles

/-- A look-up answered in the 200s gives and keeps empty flags or a record of the answer, which may
be of the user just if the records fit. So where all of them do, the flags behind every grant, after
whatever calls, may be of its user. -/
theorem flags_owned (s : Setting σ) :
    (∀ (u : String) (session : Session σ) (a : Answer (Json.list? AdminFlags.decode?)),
      session.flags.get? u = none → CanLookUp s.tenant u →
      (s.service (flagsRequest s.tenant u) session.service).1 = .response a.response →
      ∃ f after, Roles.flags s u session = (.ok f, after) ∧ after.flags.get? u = some f ∧
        (f = { userId := u } ∨ f ∈ a.content) ∧ (f.MayBeOf u ↔ Fit a.content u)) ∧
    (∀ (calls : List RoleCall) (session : Session (σ × Log)), session.flags = {} →
      session.service.2 = [] →
      ∀ (role : Resource) (r : PageRequest) (page : Page Grant) (after : Session (σ × Log)),
      Roles.grants s.logged role r (runAll s.logged calls session) = (.ok page, after) →
      (∀ u reply records info, (flagsRequest s.tenant u, reply) ∈ after.service.2 →
        document (Json.list? AdminFlags.decode?) reply = .ok (records, info) → Fit records u) →
      ∀ g ∈ page.items, ∃ f, after.flags.get? g.principal.resource = some f ∧
        f.grants role.id.resource = true ∧ f.MayBeOf g.principal.resource) := by
  constructor
  · intro u session a unknown can answered
    have called := Roles.flags_asked unknown can
    have found : flagsIn u (s.service (flagsRequest s.tenant u) session.service).1 =
        .ok (AdminFlags.select u a.content) := by
      rw [flagsIn, answered, document_answer]
    rw [found] at called
    exact ⟨_, _, called, FlagCache.get?_insert_self _ u _,
      AdminFlags.select_mem u a.content, AdminFlags.select_mayBeOf⟩
  · intro calls session unknown silent role r page after called fit g member
    obtain ⟨f, inCache, decided⟩ := Roles.grants_decided called g member
    have before : Settled s.tenant (runAll s.logged calls session) :=
      (Settled.fresh unknown silent).runAll calls
    have settled := before.run (.grants role r)
    rw [RoleCall.run, called] at settled
    obtain ⟨_, reply, inLog, found⟩ := settled.heard _ f inCache
    exact ⟨f, inCache, decided, flagsIn_mayBeOf (fun records info => fit _ reply records info inLog)
      found⟩

/-! One page with one user, whose look-up is answered with the record of another user or with one
that names nobody. -/

def recordOf (userId : String) : Response :=
  ⟨200, [], "[\x7b\"userId\":\"" ++ userId ++
    "\",\"rolesFromIndividualAssignments\":[\"SuperAdmin\"]\x7d]"⟩

def oneUser : Setting (List Response × Log) := (Setting.scripted .acme).logged

def oneUserStart (userId : String) : Session (List Response × Log) :=
  Session.start Tenant.acme ([assigneesAnswer, recordOf userId], [])

def unnamedRecord : Answer (Json.list? AdminFlags.decode?) :=
  .ofResponse (recordOf "") (by decide) (by decide +kernel)

theorem flags_owned_of_unnamed :
    ∃ page after, Roles.grants oneUser superAdmin {} (oneUserStart "") = (.ok page, after) ∧
      page.items.map (·.principal) = [⟨"user", "u1"⟩] ∧
      ∀ g ∈ page.items, ∃ f, after.flags.get? g.principal.resource = some f ∧
        f.grants superAdmin.id.resource = true ∧ f.MayBeOf g.principal.resource := by
  have ends : (Roles.grants oneUser superAdmin {} (oneUserStart "")).1.toOption.map
      (fun page => page.items.map (·.principal)) = some [⟨"user", "u1"⟩] := by decide +kernel
  have log : (Roles.grants oneUser superAdmin {} (oneUserStart "")).2.service.2 =
      [(assigneesRequest Tenant.acme 200 "", .response assigneesAnswer),
        (flagsRequest Tenant.acme "u1", .response (recordOf ""))] := by decide +kernel
  cases called : Roles.grants oneUser superAdmin {} (oneUserStart "") with
  | mk result after =>
    rw [called] at ends log
    cases result with
    | error fault => cases ends
    | ok page =>
      obtain ⟨_, owned⟩ := flags_owned (Setting.scripted .acme)
      refine ⟨page, after, rfl, Option.some.inj ends,
        owned [] (oneUserStart "") rfl rfl superAdmin {} page after called ?_⟩
      intro u reply records info member read
      rw [log] at member
      simp only [List.mem_cons, Prod.mk.injEq, List.not_mem_nil, or_false] at member
      rcases member with ⟨_, rfl⟩ | ⟨_, rfl⟩
      · cases read
      · have content : unnamedRecord.content = [unnamedFlags] := by decide +kernel
        have same := (document_answer unnamedRecord).symm.trans read
        rw [content] at same
        cases same
        exact .inr (.inr ⟨unnamedFlags, rfl, rfl⟩)

theorem grant_from_other_record :
    ((Roles.grants oneUser superAdmin {} (oneUserStart "u2")).1.toOption.map
      fun page => page.items.map (·.principal)) = some [⟨"user", "u1"⟩] ∧
    (Roles.grants oneUser superAdmin {} (oneUserStart "u2")).2.flags.get? "u1" =
      some { userId := "u2", individualRoles := ["SuperAdmin"] } := by
  decide +kernel

end AccessCatalog.Okta
