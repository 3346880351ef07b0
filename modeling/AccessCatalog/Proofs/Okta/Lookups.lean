import AccessCatalog.Proofs.Okta.Phases

/-! Look-ups of administrator flags behind a page of users. Only users whose flags are not known
are asked for, each once, and what is found stays known, so that the flags of a user are the same
from the first page to the last. -/
namespace AccessCatalog.Okta

open Web (Request Response Answers)

variable {σ : Type}

/-- What the service answers to the look-up of each user. -/
abbrev Lookups := String → Answer (Json.list? AdminFlags.decode?)

def flagsRequest (t : Tenant) (userId : String) : Request :=
  t.query jsonType Roles.administratorsPath [("userId", userId)]

def lookUp (t : Tenant) (lookups : Lookups) (userId : String) : Request × Response :=
  (flagsRequest t userId, (lookups userId).response)

/-- The users of a list that are not known, each once and in order. -/
def firstUnknown (known : String → Bool) : List String → List String
  | [] => []
  | u :: rest =>
    if known u then firstUnknown known rest
    else u :: firstUnknown (fun v => v == u || known v) rest

namespace Session

def knows (session : Session σ) (userId : String) : Bool := (session.flags.get? userId).isSome

/-- The flags of a user: those that are known, or those that a look-up will find. -/
def flagsOf (session : Session σ) (lookups : Lookups) (userId : String) : AdminFlags :=
  (session.flags.get? userId).getD (AdminFlags.select userId (lookups userId).content)

def found (session : Session σ) (lookups : Lookups) (userId : String) : Session σ :=
  { session with
    flags := session.flags.insert userId (AdminFlags.select userId (lookups userId).content) }

/-- The session once the flags of a user were needed, who has a cell for them. -/
def needing (session : Session σ) (userId : String) : Session σ :=
  { session with flags := session.flags.opened userId }

theorem flags_unchanged {session after : Session σ} (kept : after.flags = session.flags)
    (lookups : Lookups) :
    after.knows = session.knows ∧ after.flagsOf lookups = session.flagsOf lookups := by
  constructor
  · funext u
    rw [knows, kept]
    rfl
  · funext u
    rw [flagsOf, kept]
    rfl

theorem knows_found (session : Session σ) (lookups : Lookups) (userId : String) :
    (session.found lookups userId).knows = fun v => v == userId || session.knows v := by
  funext v
  by_cases same : v = userId <;>
    simp [knows, found, FlagCache.get?_insert, same]

/-- To find what a look-up was going to find changes the flags of nobody. -/
theorem flagsOf_found {session : Session σ} {lookups : Lookups} {userId : String}
    (unknown : session.flags.get? userId = none) :
    (session.found lookups userId).flagsOf lookups = session.flagsOf lookups := by
  funext v
  by_cases same : v = userId
  · subst same
    simp [flagsOf, unknown]
    simp [found, FlagCache.get?_insert]
  · simp [flagsOf, found, FlagCache.get?_insert, same]

end Session

namespace Roles

theorem administratorsPath_isPath : Web.IsPath administratorsPath.toList :=
  ⟨_, rfl, Web.forall_of_all (by decide)⟩

section Step

variable {s : Setting σ} {lookups : Lookups} {session : Session σ}

theorem flags_known {userId : String} {known : AdminFlags}
    (kept : session.flags.get? userId = some known) :
    flags s userId session = (.ok known, session) := by
  have look : (knownFlags userId : Call σ Fault _) session = (.ok (some known), session) := by
    rw [knownFlags, kept, FlagCache.opened_of_known kept]
  rw [flags, Call.bind_ok look]
  rfl

theorem knownFlags_unknown {userId : String} (unknown : session.flags.get? userId = none) :
    (knownFlags userId : Call σ Fault _) session = (.ok none, session.needing userId) := by
  rw [knownFlags, unknown]
  rfl

theorem fetchFlags_answered (reachable : s.tenant.Reachable) {userId : String} {service : σ}
    (answered : s.service (flagsRequest s.tenant userId) session.service =
      (.response (lookups userId).response, service)) :
    fetchFlags s userId session = (.ok (AdminFlags.select userId (lookups userId).content),
      session.asked (flagsRequest s.tenant userId) service) := by
  have got := s.get_answer reachable administratorsPath_isPath (by decide) (lookups userId) answered
  rw [fetchFlags]
  exact Call.bind_ok (Call.attempt_ok got)

theorem flags_unknown (reachable : s.tenant.Reachable) {userId : String} {service : σ}
    (unknown : session.flags.get? userId = none)
    (answered : s.service (flagsRequest s.tenant userId) session.service =
      (.response (lookups userId).response, service)) :
    flags s userId session =
      (.ok (AdminFlags.select userId (lookups userId).content),
        (session.asked (flagsRequest s.tenant userId) service).found lookups userId) := by
  have fetched : fetchFlags s userId (session.needing userId) =
      (.ok (AdminFlags.select userId (lookups userId).content),
        (session.needing userId).asked (flagsRequest s.tenant userId) service) :=
    fetchFlags_answered reachable answered
  rw [flags, Call.bind_ok (knownFlags_unknown unknown)]
  refine (Call.bind_ok fetched).trans ?_
  rw [Session.found, ← FlagCache.insert_opened]
  rfl

end Step

/-- Going through a page of users asks for those that are not known, and finds who has the role. -/
theorem holders_answer {s : Setting σ} (reachable : s.tenant.Reachable) (lookups : Lookups)
    (roleId : String) (users : List String) (session : Session σ)
    {rest : List (Request × Response)}
    (answers : Answers s.service
      ((firstUnknown session.knows users).map (lookUp s.tenant lookups) ++ rest) session.service) :
    ∃ after, holders s roleId users session =
        (.ok (users.filter fun u => (session.flagsOf lookups u).grants roleId), after) ∧
      after.sent = session.sent ++ (firstUnknown session.knows users).map (flagsRequest s.tenant) ∧
      after.knows = (fun v => users.contains v || session.knows v) ∧
      after.flagsOf lookups = session.flagsOf lookups ∧
      Answers s.service rest after.service := by
  -- No look-up changes the flags that are found, so the tail may be judged by those at the start.
  induction users generalizing session with
  | nil => exact ⟨session, rfl, (List.append_nil _).symm, rfl, rfl, answers⟩
  | cons u users ih =>
    cases kept : session.flags.get? u with
    | some known =>
      have knownHere : session.knows u = true := by simp [Session.knows, kept]
      have same : session.flagsOf lookups u = known := by simp [Session.flagsOf, kept]
      have passed : firstUnknown session.knows (u :: users) = firstUnknown session.knows users := by
        simp [firstUnknown, knownHere]
      rw [passed] at answers ⊢
      obtain ⟨after, run, sent, knows, flags, remaining⟩ := ih session answers
      refine ⟨after, ?_, sent, ?_, flags, remaining⟩
      · rw [holders, Call.bind_ok (flags_known kept), Call.bind_ok run, List.filter_cons, same]
        cases known.grants roleId <;> rfl
      · rw [knows]
        funext v
        by_cases here : v = u <;> simp [here, knownHere]
    | none =>
      have unknownHere : session.knows u = false := by simp [Session.knows, kept]
      have asked : firstUnknown session.knows (u :: users) =
          u :: firstUnknown (fun v => v == u || session.knows v) users := by
        simp [firstUnknown, unknownHere]
      rw [asked] at answers ⊢
      obtain ⟨service, answered, remaining⟩ := answers
      let between := (session.asked (flagsRequest s.tenant u) service).found lookups u
      have knowsBetween : between.knows = fun v => v == u || session.knows v :=
        Session.knows_found _ lookups u
      have flagsBetween : between.flagsOf lookups = session.flagsOf lookups :=
        Session.flagsOf_found kept
      rw [← knowsBetween] at remaining ⊢
      obtain ⟨after, run, sent, knows, flags, remaining⟩ := ih between remaining
      rw [flagsBetween] at run flags
      have same : session.flagsOf lookups u = AdminFlags.select u (lookups u).content := by
        simp [Session.flagsOf, kept]
      refine ⟨after, ?_, ?_, ?_, flags, remaining⟩
      · rw [holders, Call.bind_ok (flags_unknown reachable kept answered), Call.bind_ok run,
          List.filter_cons, same]
        cases (AdminFlags.select u (lookups u).content).grants roleId <;> rfl
      · rw [sent, List.map_cons]
        exact List.append_assoc _ _ _
      · rw [knows, knowsBetween]
        funext v
        by_cases here : v = u
        · simp [here]
        · have other : (v == u) = false := beq_eq_false_iff_ne.mpr here
          simp [here, other]

end Roles
end AccessCatalog.Okta
