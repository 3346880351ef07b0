import AccessCatalog.Proofs.Okta.KeptBodies

/-! What a call makes of a reply that is no answer. Such a reply has a class, by its code or else by
its status, and is a fault of the operation. A call reports the fault, unless it spares the class;
then it gives a fixed value instead. -/
namespace AccessCatalog.Okta

open Web (Url Method Request Reply Response Service Log)

variable {σ α β : Type}

/-! Replies that are no answers. -/

/-- The class of a reply. The code counts before the status, and only a response outside the 200s
has either. -/
def classOf : Reply → ErrorClass
  | .response r =>
    let code := (ApiError.parse r.status r.body).code
    if r.Succeeds then .unclassified
    else if code = "E0000007" ∨ code = "E0000008" then .notFound
    else if code = "E0000006" then .accessDenied
    else if r.status = 403 then .accessDenied
    else if r.status = 404 then .notFound
    else .unclassified
  | .dropped | .unreachable => .unclassified

/-- The fault of an operation that a reply failed. -/
def faultOf (operation : String) (reply : Reply) : Fault :=
  match reply with
  | .dropped => .network operation "connection closed"
  | .unreachable => .network operation "no connection"
  | .response r =>
    if r.Succeeds then .serialization (operation ++ ": " ++ Failure.jsonDetail)
    else
      let error := ApiError.parse r.status r.body
      match classOf reply with
      | .notFound => .notFound operation
      | .accessDenied => .accessDenied operation
      | .unclassified =>
        .serviceError operation r.status error.code error.summary (rateLimit? r.headers)

/-- Whether a reply fails a call that takes bodies of this kind. -/
def Fails (takes : String → Bool) : Reply → Prop
  | .response r => r.Succeeds → takes r.body = false
  | .dropped | .unreachable => True

def readsAs (decode : Json → Option α) (body : String) : Bool :=
  (Setting.decodeBody decode body).isOk

def anyBody (_ : String) : Bool := true

/-- Whether a failure is what a reply comes to, for every operation. -/
structure Failure.Of (e : Failure) (reply : Reply) : Prop where
  sameClass : e.errorClass = classOf reply
  fault : ∀ operation, e.context operation = faultOf operation reply

theorem classify_eq {r : Response} (fails : ¬r.Succeeds) :
    ErrorClass.classify r.status (ApiError.parse r.status r.body).code =
      classOf (.response r) := by
  simp only [classOf, if_neg fails, ErrorClass.classify, ErrorClass.ofCode]
  by_cases missing : (ApiError.parse r.status r.body).code = "E0000007" ∨
      (ApiError.parse r.status r.body).code = "E0000008"
  · rw [if_pos missing, if_pos missing]
  · rw [if_neg missing, if_neg missing]
    by_cases denied : (ApiError.parse r.status r.body).code = "E0000006"
    · rw [if_pos denied, if_pos denied]
    · rw [if_neg denied, if_neg denied]

theorem Failure.of_dropped : Failure.Of (.http "connection closed") .dropped :=
  ⟨rfl, fun _ => rfl⟩

theorem Failure.of_unreachable : Failure.Of (.http "no connection") .unreachable :=
  ⟨rfl, fun _ => rfl⟩

theorem Failure.of_json {r : Response} (succeeds : r.Succeeds) :
    Failure.Of .json (.response r) where
  sameClass := by
    rw [classOf, if_pos succeeds]
    rfl
  fault operation := by
    rw [faultOf, if_pos succeeds]
    rfl

theorem Failure.of_api {r : Response} (fails : ¬r.Succeeds) :
    Failure.Of (.api r.status (ApiError.parse r.status r.body) (rateLimit? r.headers))
      (.response r) where
  sameClass := classify_eq fails
  fault operation := by
    have same := classify_eq fails
    cases decided : classOf (.response r) <;>
      simp only [Failure.context, faultOf, if_neg fails, same, decided]

theorem accepted_fails {r : Response} (fails : ¬r.Succeeds) : accepted r =
    .error (.api r.status (ApiError.parse r.status r.body) (rateLimit? r.headers)) :=
  if_neg fails

section Replies

variable {reply : Reply} {e : Failure}

theorem Failure.of_accepted (failed : (received reply).bind accepted = .error e) :
    e.Of reply := by
  cases reply with
  | dropped =>
    cases failed
    exact of_dropped
  | unreachable =>
    cases failed
    exact of_unreachable
  | response r =>
    by_cases succeeds : r.Succeeds
    · cases (accepted_succeeds succeeds).symm.trans failed
    · cases (accepted_fails succeeds).symm.trans failed
      exact of_api succeeds

theorem accepted_ok {answer : String × ResponseInfo}
    (ok : (received reply).bind accepted = .ok answer) : ¬Fails anyBody reply := by
  cases reply with
  | dropped | unreachable => cases ok
  | response r =>
    by_cases succeeds : r.Succeeds
    · exact fun fails => Bool.noConfusion (fails succeeds)
    · cases (accepted_fails succeeds).symm.trans ok

variable {decode : Json → Option α}

theorem Failure.of_document (failed : document decode reply = .error e) : e.Of reply := by
  cases reply with
  | dropped =>
    cases failed
    exact of_dropped
  | unreachable =>
    cases failed
    exact of_unreachable
  | response r =>
    by_cases succeeds : r.Succeeds
    · rw [document_succeeds decode succeeds] at failed
      unfold Setting.decodeBody at failed
      split at failed
      · cases failed
      · cases failed
        exact of_json succeeds
    · cases (document_fails decode succeeds).symm.trans failed
      exact of_api succeeds

theorem document_ok {answer : α × ResponseInfo} (ok : document decode reply = .ok answer) :
    ¬Fails (readsAs decode) reply := by
  obtain ⟨r, rfl, succeeds, read, -⟩ := document_eq_ok ok
  intro fails
  have unread := fails succeeds
  rw [readsAs, read] at unread
  cases unread

theorem document_error (failed : document decode reply = .error e) :
    Fails (readsAs decode) reply := by
  cases reply with
  | dropped | unreachable => trivial
  | response r =>
    intro succeeds
    rw [document_succeeds decode succeeds] at failed
    rw [readsAs]
    cases read : Setting.decodeBody decode r.body with
    | error _ => rfl
    | ok a =>
      rw [read] at failed
      cases failed

theorem document_failed (fails : Fails (readsAs decode) reply) :
    ∃ e, document decode reply = .error e ∧ e.Of reply := by
  cases read : document decode reply with
  | error e => exact ⟨e, rfl, Failure.of_document read⟩
  | ok answer => exact absurd fails (document_ok read)

theorem bodyUnderstood_failed (fails : Fails (readsAs decode) reply) :
    bodyUnderstood decode reply = none := by
  cases understood : bodyUnderstood decode reply with
  | none => rfl
  | some body =>
    obtain ⟨response, rfl, succeeds, read, _⟩ := bodyUnderstood_eq_some.mp understood
    exact Bool.noConfusion (read.symm.trans (fails succeeds))

end Replies

/-! Policies. -/

/-- How an operation takes replies: what it calls itself, which bodies it understands, and the class
of failed replies that it spares, with what it gives for them. -/
structure Policy (α : Type) where
  operation : String
  takes : String → Bool
  spares : Option (ErrorClass × α) := none

/-- What a failed reply comes to. -/
def Policy.outcome (p : Policy α) (reply : Reply) : Except Fault α :=
  match p.spares with
  | none => .error (faultOf p.operation reply)
  | some (spared, a) =>
    if classOf reply = spared then .ok a else .error (faultOf p.operation reply)

/-- Whether a call asked once at most and, if the reply failed it, gave what the policy says and
left the kept bodies as they were: from then on each is given out as it would have been. -/
def Handles (s : Setting σ) (p : Policy α) (session : Session (σ × Log))
    (ran : Except Fault α × Session (σ × Log)) : Prop :=
  ∃ asked : Log, ran.2.service.2 = session.service.2 ++ asked ∧ asked.length ≤ 1 ∧
    ∀ exchange ∈ asked, Fails p.takes exchange.2 →
      ran.1 = p.outcome exchange.2 ∧
        ∀ later, s.clock session.readings ≤ later → ∀ url,
          ran.2.keptUnder later url = session.keptUnder later url

/-- Whether a call leaves the service and the kept bodies alone. -/
def Call.Quiet {ε : Type} (c : Call σ ε α) : Prop :=
  ∀ session, (c session).2.service = session.service ∧ (c session).2.bodies = session.bodies

namespace Call.Quiet

variable {ε : Type}

theorem pure (a : α) : Quiet (pure a : Call σ ε α) := fun _ => ⟨rfl, rfl⟩

theorem throw (e : ε) : Quiet (throw e : Call σ ε α) := fun _ => ⟨rfl, rfl⟩

theorem ofExcept (r : Except ε α) : Quiet (ofExcept r : Call σ ε α) := fun _ => ⟨rfl, rfl⟩

theorem bind {c : Call σ ε α} {f : α → Call σ ε β} (first : c.Quiet) (rest : ∀ a, (f a).Quiet) :
    (c >>= f).Quiet := by
  intro session
  cases called : c session with
  | mk result after =>
    obtain ⟨service, bodies⟩ := first session
    rw [called] at service bodies
    cases result with
    | error e =>
      rw [bind_error called]
      exact ⟨service, bodies⟩
    | ok a =>
      obtain ⟨service', bodies'⟩ := rest a after
      rw [bind_ok called]
      exact ⟨service'.trans service, bodies'.trans bodies⟩

end Call.Quiet

/-- Whether a call asks for one document, unless it cannot ask. -/
def Fetches (s : Setting σ) (decode : Json → Option β)
    (c : Call σ Failure (β × ResponseInfo)) : Prop :=
  ∀ session, (∃ e, c session = (.error e, session)) ∨
    ∃ r, c session = (document decode (s.service r session.service).1,
      session.heard r (s.service r session.service))

namespace Setting

variable (s : Setting σ) (decode : Json → Option β)

theorem get_fetches (contentType path : String) (pairs : List (String × String)) :
    Fetches s decode (s.get contentType decode path pairs) := by
  intro session
  by_cases can : s.tenant.CanAsk contentType path pairs
  · exact .inr ⟨_, s.get_asked decode can session⟩
  · obtain ⟨e, _, refused⟩ := s.get_unasked decode can
    exact .inl ⟨e, refused session⟩

theorem post_fetches (path : String) (pairs : List (String × String)) (body : Json) :
    Fetches s decode (s.post decode path pairs body) := by
  intro session
  cases found : s.tenant.url path pairs with
  | error e =>
    refine .inl ⟨e, ?_⟩
    rw [post]
    refine Call.bind_error ?_
    rw [Call.ofExcept, found]
  | ok url =>
    by_cases sendable : Sendable (s.tenant.request .post url jsonType (some body))
    · exact .inr ⟨_, s.post_asked decode found sendable session⟩
    · rw [post, Call.bind_ok (Call.ofExcept_ok found session)]
      exact .inl ⟨_, Call.bind_error (s.send_unsendable sendable session)⟩

end Setting

namespace Handles

variable {s : Setting σ} {p : Policy α} {session : Session (σ × Log)}

theorem quiet {ran : Except Fault α × Session (σ × Log)}
    (same : ran.2.service = session.service) : Handles s p session ran :=
  ⟨[], by rw [same, List.append_nil], by simp, by simp⟩

theorem asked (r : Request) {ran : Except Fault α × Session (σ × Log)}
    (heard : ran.2.service = (s.logged.service r session.service).2)
    (failed : Fails p.takes (s.logged.service r session.service).1 →
      ran.1 = p.outcome (s.logged.service r session.service).1 ∧
        ∀ later, s.clock session.readings ≤ later → ∀ url,
          ran.2.keptUnder later url = session.keptUnder later url) : Handles s p session ran := by
  refine ⟨[(r, (s.logged.service r session.service).1)], ?_, by simp, ?_⟩
  · rw [heard]
    rfl
  · intro exchange member
    rw [List.mem_singleton.mp member]
    exact failed

/-- What a call works out before it asks may fail it, but not the policy. -/
theorem ofExcept {r : Except Fault β} {rest : β → Call (σ × Log) Fault α}
    (handles : ∀ b, r = .ok b → Handles s p session (rest b session)) :
    Handles s p session ((Call.ofExcept r >>= rest) session) := by
  cases r with
  | error fault =>
    rw [Call.bind_error (c := Call.ofExcept (.error fault)) rfl]
    exact quiet rfl
  | ok b =>
    rw [Call.bind_ok (Call.ofExcept_ok rfl session)]
    exact handles b rfl

end Handles

namespace Fetches

variable {s : Setting σ} {decode : Json → Option β}
  {c : Call (σ × Log) Failure (β × ResponseInfo)} {session : Session (σ × Log)}

/-- A call that hands every failure on. -/
theorem within (fetches : Fetches s.logged decode c) (operation : String)
    {rest : β × ResponseInfo → Call (σ × Log) Fault α} (quiet : ∀ a, (rest a).Quiet) :
    Handles s ⟨operation, readsAs decode, none⟩ session
      ((c.within operation >>= rest) session) := by
  rcases fetches session with ⟨e, refused⟩ | ⟨r, called⟩
  · rw [Call.bind_error (Call.within_error refused operation)]
    exact .quiet rfl
  · cases read : document decode (s.logged.service r session.service).1 with
    | error e =>
      rw [read] at called
      rw [Call.bind_error (Call.within_error called operation)]
      refine .asked r rfl fun _ => ⟨?_, fun _ _ _ => rfl⟩
      exact congrArg Except.error ((Failure.of_document read).fault operation)
    | ok a =>
      rw [read] at called
      rw [Call.bind_ok (Call.within_ok called operation)]
      exact .asked r (quiet a _).1 fun failed => absurd failed (document_ok read)

/-- A call that spares one class of failures. -/
theorem attempt (fetches : Fetches s.logged decode c) {operation : String} {spared : ErrorClass}
    {a : α} {rest : Except Failure (β × ResponseInfo) → Call (σ × Log) Fault α}
    (quiet : ∀ result, (rest result).Quiet)
    (recovers : ∀ e session, (rest (.error e) session).1 =
      if e.errorClass = spared then .ok a else .error (e.context operation)) :
    Handles s ⟨operation, readsAs decode, some (spared, a)⟩ session
      ((c.attempt >>= rest) session) := by
  rcases fetches session with ⟨e, refused⟩ | ⟨r, called⟩
  · rw [Call.bind_ok (Call.attempt_eq refused)]
    exact .quiet (quiet _ _).1
  · rw [Call.bind_ok (Call.attempt_eq called)]
    refine .asked r (quiet _ _).1 fun failed => ⟨?_, fun later _ url => ?_⟩
    · obtain ⟨e, failure, of⟩ := document_failed failed
      rw [failure, recovers, of.sameClass, of.fault]
      rfl
    · rw [Session.keptUnder, (quiet _ _).2]
      rfl

end Fetches

/-! Look-ups and changes. -/

section Entities

variable {s : Setting σ} {session : Session (σ × Log)}

/-- A look-up spares what is not found. -/
theorem Inquiry.run_handles (i : Inquiry β) :
    Handles s ⟨i.title, readsAs i.decode, some (.notFound, none)⟩ session
      (i.run s.logged session) := by
  unfold Inquiry.run
  cases found : s.logged.tenant.url i.path [] with
  | error e =>
    rw [s.logged.getKept_unaddressed found]
    exact .quiet rfl
  | ok url =>
    cases kept : session.keptUnder (s.logged.time session) url with
    | some body =>
      rw [s.logged.getKept_kept i.decode found kept]
      exact .quiet (session.looked_service _ url)
    | none =>
      by_cases sendable : Sendable (s.logged.tenant.query i.contentType i.path [])
      · rw [s.logged.getKept_asked i.decode found kept sendable]
        refine .asked (s.logged.tenant.query i.contentType i.path []) ?_ fun failed => ?_
        · dsimp only
          rw [Session.keeping_service]
          rfl
        · obtain ⟨e, failure, of⟩ := document_failed failed
          dsimp only
          rw [failure, bodyUnderstood_failed failed, Inquiry.conclude, Failure.isNotFound,
            of.sameClass, of.fault]
          refine ⟨?_, fun later order other => Session.keptUnder_looked url other kept order⟩
          simp only [Policy.outcome, decide_eq_true_eq]
      · rw [s.logged.getKept_unsendable i.decode found kept sendable]
        exact .quiet (session.looked_service _ url)

theorem Membership.change_handles (method : Method) (groupId userId operation : String) :
    Handles s ⟨operation, anyBody, none⟩ session
      (change s.logged method groupId userId operation session) := by
  cases found : s.logged.tenant.url (Groups.membershipPath groupId userId) [] with
  | error e =>
    rw [change_failed s.logged (s.logged.perform_unaddressed found method session)]
    exact .quiet rfl
  | ok url =>
    by_cases sendable : Sendable (s.logged.tenant.request method url jsonType none)
    · have performed := s.logged.perform_asked found sendable session
      cases answered : (received (s.logged.service (s.logged.tenant.request method url jsonType
          none) session.service).1).bind accepted with
      | error e =>
        rw [answered] at performed
        rw [change_failed s.logged performed]
        refine .asked (s.logged.tenant.request method url jsonType none) rfl fun _ =>
          ⟨?_, fun _ _ _ => rfl⟩
        exact congrArg Except.error ((Failure.of_accepted answered).fault operation)
      | ok answer =>
        rw [answered] at performed
        rw [change_done s.logged performed]
        refine .asked (s.logged.tenant.request method url jsonType none) ?_ fun failed =>
          absurd failed (accepted_ok answered)
        dsimp only
        rw [Session.dropping_service]
        rfl
    · rw [change_failed s.logged (s.logged.perform_unsendable found sendable session)]
      exact .quiet rfl

end Entities

end AccessCatalog.Okta
