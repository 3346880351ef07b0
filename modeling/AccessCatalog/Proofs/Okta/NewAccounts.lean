import AccessCatalog.Okta.Accounts
import AccessCatalog.Proofs.Catalog.Attributes
import AccessCatalog.Proofs.Okta.Addressing
import AccessCatalog.Proofs.Okta.Failures
import Mathlib.Data.List.GetD

/-! New accounts. The profile, the flag and the length of the password are looked at before anything
is sent, so that an account that is refused leaves nothing behind. Any other one is asked for by one
request, and the password in the request is the one that the caller gets. -/
namespace AccessCatalog

/-! Passwords. -/

namespace Password

theorem ofDraws_short {requested : Nat} (short : requested < 8) (draws : Nat → Nat) :
    ∃ message, ofDraws draws requested = .error (.validation message) := by
  have refused : length requested = .error (.validation ("random password length must be at least " ++
      Nat.repr minLength ++ ", got " ++ Nat.repr requested)) := if_pos short
  rw [ofDraws, refused]
  exact ⟨_, rfl⟩

/-- Every password that is made has eight characters of the alphabet, however many were wanted. -/
theorem ofDraws_enough {requested : Nat} (enough : ¬requested < 8) (draws : Nat → Nat) :
    ∃ p, ofDraws draws requested = .ok p ∧ p.length = 8 ∧ ∀ c ∈ p.toList, c ∈ alphabet := by
  have eight : length requested = .ok 8 := by
    have eightOf : min requested 8 = 8 := Nat.min_eq_right (Nat.le_of_not_lt enough)
    exact (if_neg enough).trans (congrArg _ eightOf)
  rw [ofDraws, eight]
  refine ⟨_, rfl, ?_, fun c member => ?_⟩
  · simp
  · rw [String.toList_ofList] at member
    obtain ⟨i, -, rfl⟩ := List.mem_map.mp member
    have inAlphabet : draws i % alphabet.length < alphabet.length := Nat.mod_lt _ (by decide)
    rw [List.getD_eq_getElem _ _ inAlphabet]
    exact List.getElem_mem inAlphabet

end Password

namespace Okta

open Web (Url Reply Request Response)

variable {σ α : Type}

theorem Failure.context_ne_validation (e : Failure) (operation message : String) :
    e.context operation ≠ .validation message := by
  cases e with
  | api status error budget =>
    cases decided : ErrorClass.classify status error.code <;> simp [context, decided]
  | _ => simp [context]

namespace Accounts

/-! What is refused. -/

/-- What an account needs, in the order in which it is looked for. -/
def neededKeys : List String := ["first_name", "last_name", "email"]

def missing? (info : AccountInfo) : Option String :=
  neededKeys.find? fun key => (info.profile.get? key).isNone

theorem missing?_eq_none {info : AccountInfo} :
    missing? info = none ↔ ∀ key ∈ neededKeys, ∃ v, info.profile.get? key = some v := by
  simp [missing?, List.find?_eq_none, ← Option.isSome_iff_exists, Option.isSome_iff_ne_none]

def spellings : Bool → List String
  | true => ["1", "t", "T", "true", "TRUE", "True"]
  | false => ["0", "f", "F", "false", "FALSE", "False"]

/-- What a profile can say on whether the password has to be changed. -/
inductive FlagIs (info : AccountInfo) : Bool → Prop where
  | absent : info.profile.get? passwordChangeKey = none → FlagIs info false
  | null : info.profile.get? passwordChangeKey = some .null → FlagIs info false
  | bool {b : Bool} : info.profile.get? passwordChangeKey = some (.bool b) → FlagIs info b
  | text {b : Bool} {s : String} : info.profile.get? passwordChangeKey = some (.text s) →
    s ∈ spellings b → FlagIs info b

inductive Refused (info : AccountInfo) : CredentialOptions → Prop where
  | missing {options : CredentialOptions} {key : String} :
    missing? info = some key → Refused info options
  | flag {length : Nat} : (∀ b, ¬FlagIs info b) → Refused info (.randomPassword length)
  | short {length : Nat} : length < 8 → Refused info (.randomPassword length)

theorem truth?_eq_some {s : String} {b : Bool} : truth? s = some b ↔ s ∈ spellings b := by
  have apart : ∀ s ∈ spellings false, s ∉ spellings true := by decide
  unfold truth?
  split
  · rename_i yes
    have isTrue : s ∈ spellings true := List.contains_iff_mem.mp yes
    cases b with
    | true => exact iff_of_true rfl isTrue
    | false => exact iff_of_false (by simp) fun isFalse => apart s isFalse isTrue
  · rename_i notTrue
    split
    · rename_i no
      have isFalse : s ∈ spellings false := List.contains_iff_mem.mp no
      cases b with
      | true => exact iff_of_false (by simp) (apart s isFalse)
      | false => exact iff_of_true rfl isFalse
    · rename_i notFalse
      cases b with
      | true => exact iff_of_false (by simp) (mt List.contains_iff_mem.mpr notTrue)
      | false => exact iff_of_false (by simp) (mt List.contains_iff_mem.mpr notFalse)

theorem passwordChangeRequired_eq_ok {info : AccountInfo} {b : Bool} :
    passwordChangeRequired info = .ok b ↔ FlagIs info b := by
  constructor
  · intro required
    unfold passwordChangeRequired at required
    split at required
    · rename_i found
      cases required
      exact .absent found
    · rename_i found
      cases required
      exact .null found
    · rename_i found
      cases required
      exact .bool found
    · rename_i s found
      split at required
      · rename_i read
        cases required
        exact .text found (truth?_eq_some.mp read)
      · cases required
    · cases required
  · intro flag
    unfold passwordChangeRequired
    cases flag with
    | absent found | null found | bool found => rw [found]
    | text found spelled =>
      rw [found]
      dsimp only
      rw [truth?_eq_some.mpr spelled]

theorem FlagIs.unique {info : AccountInfo} {b c : Bool} (flag : FlagIs info b)
    (other : FlagIs info c) : b = c :=
  Except.ok.inj ((passwordChangeRequired_eq_ok.mpr flag).symm.trans
    (passwordChangeRequired_eq_ok.mpr other))

theorem passwordChangeRequired_error {info : AccountInfo} {fault : Fault}
    (refused : passwordChangeRequired info = .error fault) :
    ∃ message, fault = .validation message := by
  unfold passwordChangeRequired at refused
  split at refused
  · cases refused
  · cases refused
  · cases refused
  · split at refused <;> cases refused
    exact ⟨_, rfl⟩
  · cases refused
    exact ⟨_, rfl⟩

/-! What is asked for. -/

theorem newProfile_missing {info : AccountInfo} {key : String} (missing : missing? info = some key) :
    newProfile info = .error (.validation ("missing " ++ key ++ " in account info")) := by
  unfold newProfile
  dsimp only
  simp only [missing?, neededKeys, List.find?] at missing
  cases first : info.profile.get? "first_name" with
  | none =>
    rw [first] at missing
    cases missing
    rfl
  | some v =>
    rw [first] at missing
    cases last : info.profile.get? "last_name" with
    | none =>
      rw [last] at missing
      cases missing
      rfl
    | some w =>
      rw [last] at missing
      cases email : info.profile.get? "email" with
      | none =>
        rw [email] at missing
        cases missing
        rfl
      | some x =>
        rw [email] at missing
        cases missing

theorem newProfile_given {info : AccountInfo} (complete : ∀ key, missing? info ≠ some key) :
    ∃ first last email, info.profile.get? "first_name" = some first ∧
      info.profile.get? "last_name" = some last ∧ info.profile.get? "email" = some email ∧
      newProfile info = .ok (.obj [("email", email.toJson), ("firstName", first.toJson),
        ("lastName", last.toJson), ("login", ((info.profile.get? "login").getD email).toJson)]) := by
  have present := missing?_eq_none.mp (Option.eq_none_iff_forall_ne_some.mpr complete)
  obtain ⟨first, firstIs⟩ := present "first_name" (by decide)
  obtain ⟨last, lastIs⟩ := present "last_name" (by decide)
  obtain ⟨email, emailIs⟩ := present "email" (by decide)
  refine ⟨first, last, email, firstIs, lastIs, emailIs, ?_⟩
  unfold newProfile
  dsimp only
  rw [firstIs, lastIs, emailIs]
  cases info.profile.get? "login" <;> rfl

theorem query_unread {info : AccountInfo} (unread : ∀ b, ¬FlagIs info b) (length : Nat) :
    ∃ message, query info (.randomPassword length) = .error (.validation message) := by
  cases required : passwordChangeRequired info with
  | ok b => exact absurd (passwordChangeRequired_eq_ok.mp required) (unread b)
  | error fault =>
    obtain ⟨message, rfl⟩ := passwordChangeRequired_error required
    refine ⟨message, ?_⟩
    rw [query, required]
    rfl

theorem query_read {info : AccountInfo} {b : Bool} (flag : FlagIs info b) (length : Nat) :
    query info (.randomPassword length) =
      .ok (if b then [("nextLogin", "changePassword"), ("activate", "true")] else []) := by
  rw [query, passwordChangeRequired_eq_ok.mpr flag]
  cases b <;> rfl

section Fails

variable {faults : Fault → Prop}

theorem query_fails {info : AccountInfo} (flag : FailsAs faults (passwordChangeRequired info))
    (options : CredentialOptions) : FailsAs faults (query info options) := by
  cases options with
  | noPassword => exact .ok _
  | randomPassword length =>
    refine .bind flag fun required => ?_
    split <;> exact .ok _

theorem password_fails {draws : Nat → Nat}
    (drawn : ∀ requested, FailsAs faults (Password.ofDraws draws requested))
    (options : CredentialOptions) : FailsAs faults (password draws options) := by
  cases options with
  | noPassword => exact .ok _
  | randomPassword length => exact .map _ (drawn length)

end Fails

/-- What is asked for in place of an account that is not refused. -/
structure Agreed (info : AccountInfo) (options : CredentialOptions) (password : Option String)
    (pairs : List (String × String)) (document : Json) : Prop where
  generated : password.isSome = true ↔ ∃ length, options = .randomPassword length
  drawn : ∀ p, password = some p → p.length = 8 ∧ ∀ c ∈ p.toList, c ∈ Password.alphabet
  changed : password.isSome = true → FlagIs info true →
    pairs = [("nextLogin", "changePassword"), ("activate", "true")]
  unchanged : ¬(password.isSome = true ∧ FlagIs info true) → pairs = []
  document : ∃ first last email, info.profile.get? "first_name" = some first ∧
    info.profile.get? "last_name" = some last ∧ info.profile.get? "email" = some email ∧
    document = .obj ((password.map fun p => ("credentials",
        Json.obj [("password", .obj [("value", .str p)])])).toList ++
      [("profile", .obj [("email", email.toJson), ("firstName", first.toJson),
        ("lastName", last.toJson), ("login", ((info.profile.get? "login").getD email).toJson)])])

/-- What is made of the input before anything is sent. -/
def prepared (draws : Nat → Nat) (info : AccountInfo) (options : CredentialOptions) :
    Except Fault (Option String × List (String × String) × Json) := do
  let profile ← newProfile info
  let pairs ← query info options
  let password ← password draws options
  .ok (password, pairs, body profile password)

section Prepared

variable {info : AccountInfo} {options : CredentialOptions} (draws : Nat → Nat)

theorem prepared_missing {key : String} (missing : missing? info = some key) :
    prepared draws info options =
      .error (.validation ("missing " ++ key ++ " in account info")) := by
  rw [prepared, newProfile_missing missing]
  rfl

theorem prepared_refused (refused : Refused info options)
    (complete : ∀ key, missing? info ≠ some key) :
    ∃ message, prepared draws info options = .error (.validation message) := by
  obtain ⟨_, _, _, -, -, -, given⟩ := newProfile_given complete
  rw [prepared, given]
  cases refused with
  | missing missing => exact absurd missing (complete _)
  | @flag length unread =>
    obtain ⟨message, refused⟩ := query_unread unread length
    rw [refused]
    exact ⟨message, rfl⟩
  | @short length short =>
    -- The flag is read before the length, and may be refused already.
    by_cases readable : ∃ b, FlagIs info b
    · obtain ⟨b, flag⟩ := readable
      obtain ⟨message, refused⟩ := Password.ofDraws_short short draws
      rw [query_read flag, password, refused]
      exact ⟨message, rfl⟩
    · obtain ⟨message, refused⟩ := query_unread (not_exists.mp readable) length
      rw [refused]
      exact ⟨message, rfl⟩

theorem prepared_agreed (taken : ¬Refused info options) :
    ∃ password pairs document, prepared draws info options = .ok (password, pairs, document) ∧
      Agreed info options password pairs document := by
  have complete : ∀ key, missing? info ≠ some key := fun key missing => taken (.missing missing)
  obtain ⟨first, last, email, firstIs, lastIs, emailIs, given⟩ := newProfile_given complete
  rw [prepared, given]
  cases options with
  | noPassword =>
    exact ⟨none, [], _, rfl, by simp, by simp, by simp, fun _ => rfl, first, last, email, firstIs,
      lastIs, emailIs, rfl⟩
  | randomPassword length =>
    have readable : ∃ b, FlagIs info b :=
      Classical.byContradiction fun unread => taken (.flag (not_exists.mp unread))
    obtain ⟨b, flag⟩ := readable
    obtain ⟨p, made, eight, inAlphabet⟩ :=
      Password.ofDraws_enough (fun short => taken (.short short)) draws
    rw [query_read flag, password, made]
    refine ⟨some p, _, _, rfl, ?_, ?_, ?_, ?_, first, last, email, firstIs, lastIs, emailIs, rfl⟩
    · simp
    · intro _ same
      cases same
      exact ⟨eight, inAlphabet⟩
    · intro _ must
      rw [flag.unique must]
      rfl
    · intro mustNot
      cases b with
      | true => exact absurd ⟨rfl, flag⟩ mustNot
      | false => rfl

end Prepared

/-! What is sent, and what comes of it. -/

/-- What a reply to the request for an account comes to. -/
inductive Outcome (skip : Bool) (password : Option String) :
    Reply → Except Fault NewAccount → Prop where
  | created {r : Response} {user : UserRecord} : r.Succeeds →
    Setting.decodeBody UserRecord.decode? r.body = .ok user →
    Outcome skip password (.response r)
      (.ok ⟨user.resource skip, (password.map (Secret.mk "password")).toList⟩)
  | failed {reply : Reply} : Fails (readsAs UserRecord.decode?) reply →
    Outcome skip password reply (.error (faultOf "create user" reply))

/-- The call for an account that is not refused. -/
def placed (s : Setting σ) (password : Option String) (pairs : List (String × String))
    (document : Json) : Call σ Fault NewAccount := do
  let (user, _) ← (s.post UserRecord.decode? Users.path pairs document).within "create user"
  pure ⟨user.resource s.tenant.skipSecondaryEmails,
    (password.map fun p => Secret.mk passwordName p).toList⟩

section Calls

variable (s : Setting σ) {info : AccountInfo} {options : CredentialOptions}
  {password : Option String} {pairs : List (String × String)} {document : Json}

theorem create_eq (session : Session σ) :
    create s info options session = match prepared s.draws info options with
      | .ok (password, pairs, document) => placed s password pairs document session
      | .error fault => (.error fault, session) := by
  unfold create prepared
  cases newProfile info with
  | error fault => rfl
  | ok profile =>
    rw [Call.ofExcept_bind rfl]
    cases query info options with
    | error fault => rfl
    | ok pairs =>
      rw [Call.ofExcept_bind rfl]
      cases Accounts.password s.draws options with
      | error fault => rfl
      | ok password =>
        rw [Call.ofExcept_bind rfl]
        rfl

theorem placed_ne_validation (session : Session σ) (message : String) :
    (placed s password pairs document session).1 ≠ .error (.validation message) := by
  cases posted : s.post UserRecord.decode? Users.path pairs document session with
  | mk result after =>
    cases result with
    | error e =>
      have ended : placed s password pairs document session =
          (.error (e.context "create user"), after) :=
        Call.bind_error (Call.within_error posted _)
      rw [ended]
      exact fun same => e.context_ne_validation _ message (Except.error.inj same)
    | ok answer =>
      have ended : ∃ account, placed s password pairs document session = (.ok account, after) :=
        ⟨_, Call.bind_ok (Call.within_ok posted _)⟩
      obtain ⟨account, ended⟩ := ended
      rw [ended]
      exact nofun

theorem placed_asked {url : Url} (found : s.tenant.url Users.path pairs = .ok url)
    (sendable : Sendable (s.tenant.request .post url jsonType (some document)))
    (session : Session σ) :
    ∃ result, Outcome s.tenant.skipSecondaryEmails password
        (s.service (s.tenant.request .post url jsonType (some document)) session.service).1
        result ∧
      placed s password pairs document session =
        (result, session.heard (s.tenant.request .post url jsonType (some document))
          (s.service (s.tenant.request .post url jsonType (some document)) session.service)) := by
  have posted := s.post_asked UserRecord.decode? found sendable session
  cases read : Okta.document UserRecord.decode?
      (s.service (s.tenant.request .post url jsonType (some document)) session.service).1 with
  | error e =>
    rw [read] at posted
    refine ⟨_, ?_, Call.bind_error (Call.within_error posted _)⟩
    rw [(Failure.of_document read).fault]
    exact .failed (document_error read)
  | ok answer =>
    obtain ⟨user, info⟩ := answer
    rw [read] at posted
    obtain ⟨r, replied, succeeds, body, -⟩ := document_eq_ok read
    refine ⟨_, ?_, Call.bind_ok (Call.within_ok posted _)⟩
    rw [replied]
    exact .created succeeds body

end Calls

theorem Agreed.filled {info : AccountInfo} {options : CredentialOptions}
    {password : Option String} {pairs : List (String × String)} {document : Json}
    (agreed : Agreed info options password pairs document) :
    (pairs.filter fun p => !p.2.isEmpty) = pairs := by
  by_cases must : password.isSome = true ∧ FlagIs info true
  · rw [agreed.changed must.1 must.2]
    decide
  · rw [agreed.unchanged must]
    rfl

theorem path_isPath : Web.IsPath Users.path.toList := ⟨_, rfl, Web.forall_of_all (by decide)⟩

/-- Whether a request asks for an account with this document and these pairs. -/
structure AsksFor (t : Tenant) (pairs : List (String × String)) (document : Json) (r : Request) :
    Prop where
  method : r.method = .post
  url : ∃ base, Url.parse none (t.apiBaseUrl ++ "/api/v1/users").toList = .ok base ∧
    r.url = base.appendPairs pairs
  query : r.url.queryPairs = pairs
  path : t.AtSite → r.url.path = .segments ["api".toList, "v1".toList, "users".toList]
  body : r.body = some (String.ofList document.write)

theorem address_path {t : Tenant} (reachable : t.Reachable) (site : t.AtSite) :
    (t.address Users.path).path = .segments ["api".toList, "v1".toList, "users".toList] := by
  obtain ⟨read, web, -⟩ := reachable.address path_isPath
  have names : Users.path.toList = Url.namesPath ["api", "v1", "users"] := by decide
  rw [String.toList_append, names] at read
  have path := (Url.IsSite.segments_of_names site read web).2
  have noDots : Url.NoDots ["api", "v1", "users"] := by
    unfold Url.NoDots
    decide
  obtain ⟨api, v1, users, -⟩ := Endpoint.segmentOf_words
  rw [path, noDots.follow]
  simp only [List.map, api, v1, users, List.nil_append]

theorem asksFor_request {t : Tenant} (reachable : t.Reachable) {pairs : List (String × String)}
    (filled : (pairs.filter fun p => !p.2.isEmpty) = pairs) (document : Json) :
    AsksFor t pairs document
      (t.request .post ((t.address Users.path).appendPairs pairs) jsonType (some document)) where
  method := rfl
  url := ⟨_, (reachable.address path_isPath).1, rfl⟩
  query := by
    have queryPairs := reachable.queryPairs path_isPath jsonType pairs
    rw [Tenant.query, filled] at queryPairs
    exact queryPairs
  path site := by
    exact (Url.appendPairs_path _ _).trans (address_path reachable site)
  body := rfl

theorem request_sendable {t : Tenant} (reachable : t.Reachable) {pairs : List (String × String)}
    (filled : (pairs.filter fun p => !p.2.isEmpty) = pairs) (document : Json) :
    Sendable (t.request .post ((t.address Users.path).appendPairs pairs) jsonType
      (some document)) := by
  have get := reachable.sendable path_isPath contentTypes_plain.2 pairs
  rw [Tenant.query, filled] at get
  exact get

/-- An account whose profile lacks what is needed, or whose password cannot be made as it is asked
for, is refused before anything is sent. For any other one there is one request, which holds what was
given, and the password that is sent is the secret that comes back with the user. -/
theorem create_agreed (s : Setting σ) (info : AccountInfo) (options : CredentialOptions) :
    (Refused info options → ∃ message,
      (∀ key, missing? info = some key → message = "missing " ++ key ++ " in account info") ∧
      ∀ session, create s info options session = (.error (.validation message), session)) ∧
    (¬Refused info options →
      (∀ session message, (create s info options session).1 ≠ .error (.validation message)) ∧
      ∃ password pairs document, Agreed info options password pairs document ∧
        (s.tenant.Reachable → ∃ request, AsksFor s.tenant pairs document request ∧
          ∀ session, ∃ result,
            Outcome s.tenant.skipSecondaryEmails password (s.service request session.service).1
              result ∧
            create s info options session =
              (result, session.heard request (s.service request session.service)))) := by
  constructor
  · intro refused
    by_cases missing : ∃ key, missing? info = some key
    · obtain ⟨key, missing⟩ := missing
      refine ⟨"missing " ++ key ++ " in account info", fun other same => ?_, fun session => ?_⟩
      · cases missing.symm.trans same
        rfl
      · rw [create_eq, prepared_missing s.draws missing]
    · have complete := not_exists.mp missing
      obtain ⟨message, refused⟩ := prepared_refused s.draws refused complete
      refine ⟨message, fun key same => absurd same (complete key), fun session => ?_⟩
      rw [create_eq, refused]
  · intro taken
    obtain ⟨password, pairs, document, ready, agreed⟩ := prepared_agreed s.draws taken
    have same : ∀ session, create s info options session =
        placed s password pairs document session := fun session => by rw [create_eq, ready]
    refine ⟨fun session message => ?_, password, pairs, document, agreed, fun reachable =>
      ⟨_, asksFor_request reachable agreed.filled document, fun session => ?_⟩⟩
    · rw [same]
      exact placed_ne_validation s session message
    · have found := reachable.url path_isPath pairs
      rw [agreed.filled] at found
      rw [same]
      exact placed_asked s found (request_sendable reachable agreed.filled document) session

/-! An account with a password that has to be changed, and one without a last name. -/

def jane : AccountInfo where
  profile := (((Profile.empty.set "first_name" (.text "Jane")).set "last_name" (.text "Doe")).set
    "email" (.text "jane@acme.com")).set passwordChangeKey (.text "t")

def nameless : AccountInfo where
  profile := Profile.empty.set "first_name" (.text "Jane")

def janeCreated : Response :=
  ⟨200, [], "\x7b\"id\":\"00unew\",\"status\":\"STAGED\"\x7d"⟩

theorem create_agreed_of_jane :
    Refused nameless .noPassword ∧
    (∀ session, create (.scripted .acme) nameless .noPassword session =
      (.error (.validation "missing last_name in account info"), session)) ∧
    ¬Refused jane (.randomPassword 20) ∧ Tenant.acme.Reachable ∧
    ∃ p account after,
      create (.scripted .acme) jane (.randomPassword 20) (Session.start .acme [janeCreated]) =
        (.ok account, after) ∧
      account.secrets = [⟨"password", p⟩] ∧ p.length = 8 ∧
      after.sent.map (fun r => (r.method, r.url.queryPairs)) =
        [(.post, [("nextLogin", "changePassword"), ("activate", "true")])] := by
  have noLastName : missing? nameless = some "last_name" := by
    simp [missing?, neededKeys, nameless]
  have refused : Refused nameless .noPassword := .missing noLastName
  have flag : FlagIs jane true := .text (s := "t") (by simp [jane]) (by decide)
  have taken : ¬Refused jane (.randomPassword 20) := by
    intro refused
    cases refused with
    | missing missing => simp [missing?, neededKeys, jane, passwordChangeKey] at missing
    | flag unread => exact unread true flag
    | short short => exact absurd short (by decide)
  refine ⟨refused, ?_, taken, Tenant.acme_reachable, ?_⟩
  · obtain ⟨message, named, unasked⟩ :=
      (create_agreed (.scripted .acme) nameless .noPassword).1 refused
    rw [named "last_name" noLastName] at unasked
    exact unasked
  · obtain ⟨-, password, pairs, document, agreed, asked⟩ :=
      (create_agreed (.scripted .acme) jane (.randomPassword 20)).2 taken
    obtain ⟨p, rfl⟩ := Option.isSome_iff_exists.mp (agreed.generated.mpr ⟨20, rfl⟩)
    obtain ⟨request, asks, sent⟩ := asked Tenant.acme_reachable
    obtain ⟨result, outcome, called⟩ := sent (Session.start .acme [janeCreated])
    cases outcome with
    | created _ _ =>
      refine ⟨p, _, _, called, rfl, (agreed.drawn p rfl).1, ?_⟩
      have query := asks.query.trans (agreed.changed rfl flag)
      simp [Session.heard, Session.start, Setting.scripted, Web.scripted, asks.method, query]
    | failed fails =>
      have read : readsAs UserRecord.decode? janeCreated.body = true := by decide +kernel
      have succeeds : janeCreated.Succeeds := by decide
      exact absurd (fails succeeds) (by simp [read])

end Accounts
end Okta
end AccessCatalog
