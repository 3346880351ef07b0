import AccessCatalog.Proofs.Okta.FailurePolicy
import AccessCatalog.Proofs.Okta.TokenSecrecy

/-! Answers of a service that is throttled or fails itself. Every call of the connector reports such
an answer, with its status and the budget that its headers state, as a fault that may pass; unless
the body has one of the codes that stand for a class of their own, which count before the status. -/
namespace AccessCatalog.Okta

open Web (Request Reply Response Log)

variable {σ α β : Type}

/-! The answers. -/

/-- Whether the service is throttled, or failed of itself. -/
def Strained (r : Response) : Prop := r.status = 429 ∨ 500 ≤ r.status

def errorCode (r : Response) : String := (ApiError.parse r.status r.body).code

/-- Whether the body has a code that stands for a class whatever the status is. -/
def Coded (r : Response) : Prop := ErrorClass.ofCode (errorCode r) ≠ .unclassified

instance (r : Response) : Decidable (Strained r) :=
  inferInstanceAs (Decidable (r.status = 429 ∨ 500 ≤ r.status))

instance (r : Response) : Decidable (Coded r) :=
  inferInstanceAs (Decidable (ErrorClass.ofCode (errorCode r) ≠ .unclassified))

/-- A fault that hands on what an answer reports, and that a repetition of the call may mend. -/
structure Reports (r : Response) (fault : Fault) : Prop where
  answer : ∃ operation, fault = .serviceError operation r.status (errorCode r)
    (ApiError.parse r.status r.body).summary (rateLimit? r.headers)
  passing : fault.isPermanent = false

section Classes

variable {r : Response}

theorem Strained.not_succeeds (strained : Strained r) : ¬ r.Succeeds := by
  rintro ⟨low, high⟩
  rcases strained with throttled | failed <;> omega

theorem Strained.classify (strained : Strained r) :
    ErrorClass.classify r.status (errorCode r) = ErrorClass.ofCode (errorCode r) := by
  have notDenied : r.status ≠ 403 := by rcases strained with throttled | failed <;> omega
  have notMissing : r.status ≠ 404 := by rcases strained with throttled | failed <;> omega
  rw [ErrorClass.classify]
  cases ErrorClass.ofCode (errorCode r) with
  | notFound => rfl
  | accessDenied => rfl
  | unclassified => rw [if_neg notDenied, if_neg notMissing]

theorem Strained.unclassified (strained : Strained r) (plain : ¬ Coded r) :
    classOf (.response r) = .unclassified := by
  rw [← classify_eq strained.not_succeeds]
  exact strained.classify.trans (Decidable.not_not.mp plain)

theorem Strained.reports (strained : Strained r) (plain : ¬ Coded r) (operation : String) :
    Reports r (faultOf operation (.response r)) := by
  have fault : faultOf operation (.response r) = .serviceError operation r.status (errorCode r)
      (ApiError.parse r.status r.body).summary (rateLimit? r.headers) := by
    rw [faultOf, if_neg strained.not_succeeds, strained.unclassified plain]
    rfl
  refine ⟨⟨operation, fault⟩, ?_⟩
  rw [fault, Fault.isPermanent]
  rcases strained with throttled | failed
  · simp [throttled]
  · simp [failed]

end Classes

/-! Calls that report them. -/

/-- Whether a call ends with a report of every answer of this kind that it was given. -/
def Candid (c : Call (σ × Log) Fault α) : Prop :=
  ∀ session, ∃ asked : Log, (c session).2.service.2 = session.service.2 ++ asked ∧
    ∀ request r, (request, .response r) ∈ asked → Strained r → ¬ Coded r →
      ∃ fault, (c session).1 = .error fault ∧ Reports r fault

namespace Candid

theorem quiet {c : Call (σ × Log) Fault α} (quiet : c.Quiet) : Candid c := fun session =>
  ⟨[], by rw [(quiet session).1, List.append_nil], by simp⟩

/-- A policy that spares a class of its own takes away no report. -/
theorem follows {s : Setting σ} {c : Call (σ × Log) Fault α} {p : Policy α}
    (follows : Follows s c p)
    (spares : ∀ spared ∈ p.spares, spared.1 ≠ .unclassified) : Candid c := by
  intro session
  obtain ⟨asked, log, _, failing⟩ := follows session
  refine ⟨asked, log, fun request r member strained plain => ?_⟩
  have fails : Fails p.takes (.response r) := fun succeeds =>
    absurd succeeds strained.not_succeeds
  have outcome : p.outcome (.response r) = .error (faultOf p.operation (.response r)) := by
    unfold Policy.outcome
    split
    · rfl
    · rename_i spared a found
      have other : classOf (.response r) ≠ spared := by
        rw [strained.unclassified plain]
        exact (spares (spared, a) found).symm
      rw [if_neg other]
  obtain ⟨ended, _⟩ := failing _ member fails
  exact ⟨_, ended.trans outcome, strained.reports plain _⟩

theorem map (f : α → β) {c : Call (σ × Log) Fault α} (candid : Candid c) : Candid (f <$> c) := by
  intro session
  obtain ⟨asked, log, reported⟩ := candid session
  rw [Call.map_eq]
  refine ⟨asked, log, fun request r member strained plain => ?_⟩
  obtain ⟨fault, ended, reports⟩ := reported request r member strained plain
  exact ⟨fault, by rw [ended]; rfl, reports⟩

theorem ofExcept {r : Except Fault β} {rest : β → Call (σ × Log) Fault α}
    (candid : ∀ b, r = .ok b → Candid (rest b)) : Candid (Call.ofExcept r >>= rest) := by
  cases r with
  | error fault => exact quiet fun _ => ⟨rfl, rfl⟩
  | ok b => exact candid b rfl

end Candid

/-! Each call. -/

variable (s : Setting σ)

theorem Groups.grants_candid (group : Resource) (r : PageRequest) :
    Candid (grants s.logged group r) := by
  refine .ofExcept fun bag _ => .ofExcept fun profile _ => ?_
  dsimp only
  split
  · exact .follows (memberPage_follows s _ _) (by simp)
  · split
    · rename_i phase
      exact .follows (rolePage_follows s phase _ _) (by simp)
    · exact .quiet (.throw _)

/-- A strained answer is no page, and it is no look-up of flags that may not be seen. -/
theorem Roles.grants_candid (role : Resource) (r : PageRequest) :
    Candid (grants s.logged role r) := by
  intro session
  obtain ⟨page, lookups, log, _, pageFails, lookUpFails⟩ := grants_failing s role r session
  refine ⟨_, log, fun request r member strained plain => ?_⟩
  have fails : ∀ takes, Fails takes (.response r) := fun _ succeeds =>
    absurd succeeds strained.not_succeeds
  rcases List.mem_append.mp member with asPage | asLookUp
  · obtain ⟨_, ended⟩ := pageFails _ asPage (fails _)
    exact ⟨_, ended, strained.reports plain _⟩
  · obtain ⟨⟨userId, reply⟩, asked, same⟩ := List.mem_map.mp asLookUp
    obtain ⟨-, rfl⟩ := Prod.mk.inj same
    obtain ⟨front, back, cut⟩ := List.append_of_mem asked
    have ended := lookUpFails front userId _ back cut (fails _)
    have seen : ErrorClass.unclassified ≠ .accessDenied := by decide
    rw [strained.unclassified plain, if_neg seen] at ended
    exact ⟨_, ended.2, strained.reports plain _⟩

theorem Roles.flags_candid (userId : String) : Candid (flags s.logged userId) :=
  .follows (flags_follows s userId) (by simp)

theorem ConnectorCall.run_candid (call : ConnectorCall) : Candid (call.run s.logged) := by
  cases call with
  | list syncer r =>
    cases syncer with
    | users => exact .map _ (.follows (Users.list_follows s r) (by simp))
    | groups => exact .map _ (.follows (Groups.list_follows s r) (by simp))
    | roles => exact .map _ (.follows (Roles.list_follows s r) (by simp))
  | entitlements syncer resource => exact .quiet (.pure _)
  | grants syncer resource r =>
    cases syncer with
    | users => exact .map _ (.quiet (.pure _))
    | groups => exact .map _ (Groups.grants_candid s resource r)
    | roles => exact .map _ (Roles.grants_candid s resource r)
  | get syncer id =>
    cases syncer with
    | users => exact .map _ (.follows (Users.get_follows s id.resource) (by simp))
    | groups => exact .map _ (.follows (Groups.get_follows s id.resource) (by simp))
    | roles => exact .map _ (.follows (Roles.get_follows s id) (by simp))
  | grant principal entitlement =>
    exact .map _ (.follows (Membership.grant_follows s principal entitlement) (by simp))
  | revoke held => exact .map _ (.follows (Membership.revoke_follows s held) (by simp))
  | create info options =>
    exact .map _ (.follows (Accounts.create_follows s info options) (by simp))
  | validate => exact .map _ (.follows (Connector.validate_follows s) (by simp))
  | metadata => exact .map _ (.follows (Connector.metadata_follows s) (by simp))
  | change event => exact .map _ (.quiet (.ofExcept _))

/-- Every call of the connector, and every look-up of flags, reports an answer of a throttled or
failing service that has none of the codes with a class of their own. With one of them the answer
is of that class, whatever its status is. -/
theorem strain_reported (s : Setting σ) :
    (∀ call : ConnectorCall, Candid (call.run s.logged)) ∧
    (∀ userId, Candid (Roles.flags s.logged userId)) ∧
    ∀ r : Response, Strained r → ErrorClass.classify r.status (errorCode r) =
        if errorCode r = "E0000007" ∨ errorCode r = "E0000008" then .notFound
        else if errorCode r = "E0000006" then .accessDenied
        else .unclassified :=
  ⟨ConnectorCall.run_candid s, Roles.flags_candid s, fun _ strained => strained.classify⟩

/-! A throttled look-up of a group, and one whose answer has the code for what is not found. -/

def budget : Web.Headers :=
  [("x-rate-limit-limit", "600"), ("x-rate-limit-remaining", "0"),
    ("x-rate-limit-reset", "1700000000")]

def throttled (code : String) : Response :=
  ⟨429, budget, "\x7b\"errorCode\":\"" ++ code ++ "\"\x7d"⟩

def throttledStart (code : String) : Session (List Response × Log) :=
  Session.start .acme ([throttled code], [])

def lookUpEngineers : ConnectorCall := .get .groups Groups.engineers.id

theorem strain_reported_of_engineers : Strained (throttled "E0000047") ∧
    ¬ Coded (throttled "E0000047") ∧
    ∃ fault, (lookUpEngineers.run (Setting.scripted .acme).logged (throttledStart "E0000047")).1 =
      .error fault ∧ Reports (throttled "E0000047") fault := by
  have strained : Strained (throttled "E0000047") := by decide
  have plain : ¬ Coded (throttled "E0000047") := by decide +kernel
  obtain ⟨candid, _⟩ := strain_reported (Setting.scripted .acme)
  obtain ⟨asked, log, reported⟩ := candid lookUpEngineers (throttledStart "E0000047")
  have heard : (lookUpEngineers.run (Setting.scripted .acme).logged
      (throttledStart "E0000047")).2.service.2.map (·.2) = [.response (throttled "E0000047")] := by
    decide +kernel
  rw [log] at heard
  obtain ⟨⟨request, reply⟩, member, same⟩ :=
    List.mem_map.mp (heard.symm ▸ List.mem_singleton_self _)
  dsimp only at same
  subst same
  exact ⟨strained, plain, reported request _ member strained plain⟩

theorem coded_strain_spared : Strained (throttled "E0000007") ∧
    (rateLimit? (throttled "E0000007").headers).isSome = true ∧
    ((Groups.get (Setting.scripted .acme).logged "00g1" (throttledStart "E0000007")).1.toOption.map
      Option.isNone) = some true ∧
    (Groups.get (Setting.scripted .acme).logged "00g1" (throttledStart "E0000007")).2.service.2.map
      (·.2) = [.response (throttled "E0000007")] :=
  ⟨by decide, by decide +kernel, by decide +kernel, by decide +kernel⟩

end AccessCatalog.Okta
