import AccessCatalog.Proofs.Json.Records
import AccessCatalog.Proofs.Okta.NewAccounts

/-! Attributes that are null. The flag of a new account counts as not set when it is null, and so does
everything that is not looked at. A name, an address or a login that is null counts as given, so that
an account is the same with and without its nulls only where none of these is read as one. -/
namespace AccessCatalog

namespace Keyed

theorem get?_filter {α : Type} {entries : List (String × α)} (ordered : Ordered entries)
    (keep : String × α → Bool) (key : String) :
    get? key (entries.filter keep) = (get? key entries).filter fun v => keep (key, v) := by
  refine Option.ext fun v => ?_
  have kept : Ordered (entries.filter keep) := ordered.filter _
  rw [← kept.mem_iff (e := (key, v)), List.mem_filter, ordered.mem_iff, Option.filter_eq_some_iff]

end Keyed

/-- The profile without the entries that are null under a key that is to be dropped. -/
def Profile.dropNulls (dropped : String → Bool) (p : Profile) : Profile :=
  ⟨p.entries.filter fun e => !(e.2.isNull && dropped e.1), p.ordered.filter _⟩

theorem Profile.get?_dropNulls (dropped : String → Bool) (p : Profile) (key : String) :
    (p.dropNulls dropped).get? key =
      (p.get? key).filter fun v => !(v.isNull && dropped key) :=
  Keyed.get?_filter p.ordered _ key

namespace Okta.Accounts

variable {σ : Type}

/-- The account without the attributes that are null under a key that is to be dropped. -/
def dropNulls (dropped : String → Bool) (info : AccountInfo) : AccountInfo :=
  ⟨info.profile.dropNulls dropped⟩

def withoutNulls (info : AccountInfo) : AccountInfo := dropNulls (fun _ => true) info

/-- The keys of what is passed on. -/
def passedKeys : List String := neededKeys ++ ["login"]

/-! What an account comes to depends on what is passed on and on the flag. -/

theorem newProfile_congr {a b : AccountInfo}
    (same : ∀ key ∈ passedKeys, a.profile.get? key = b.profile.get? key) :
    newProfile a = newProfile b := by
  unfold newProfile
  dsimp only
  rw [same "first_name" (by decide), same "last_name" (by decide), same "email" (by decide),
    same "login" (by decide)]

theorem create_congr (s : Setting σ) {a b : AccountInfo} (profile : newProfile a = newProfile b)
    (flag : passwordChangeRequired a = passwordChangeRequired b) (options : CredentialOptions)
    (session : Session σ) : create s a options session = create s b options session := by
  have pairs : query a options = query b options := by
    cases options with
    | noPassword => rfl
    | randomPassword length => rw [query, query, flag]
  rw [create_eq, create_eq, prepared, prepared, profile, pairs]

/-! Without nulls. -/

section DropNulls

variable (dropped : String → Bool) (info : AccountInfo)

theorem get?_dropNulls (key : String) :
    (dropNulls dropped info).profile.get? key =
      (info.profile.get? key).filter fun v => !(v.isNull && dropped key) :=
  info.profile.get?_dropNulls dropped key

theorem get?_dropNulls_of_seen {key : String}
    (seen : dropped key = true → info.profile.get? key ≠ some .null) :
    (dropNulls dropped info).profile.get? key = info.profile.get? key := by
  rw [get?_dropNulls]
  cases found : info.profile.get? key with
  | none => rfl
  | some v =>
    cases v with
    | null =>
      have kept : dropped key = false := by simpa [found] using seen
      simp [kept]
    | _ => rfl

/-- The flag is off when it is null, as it is without it. -/
theorem passwordChangeRequired_dropNulls :
    passwordChangeRequired (dropNulls dropped info) = passwordChangeRequired info := by
  unfold passwordChangeRequired
  rw [get?_dropNulls]
  cases info.profile.get? passwordChangeKey with
  | none => rfl
  | some v =>
    cases v with
    | null => cases dropped passwordChangeKey <;> rfl
    | _ => rfl

end DropNulls

theorem present_of_withoutNulls {info : AccountInfo} {key : String} {v : ProfileValue}
    (found : (withoutNulls info).profile.get? key = some v) :
    info.profile.get? key = some v ∧ v.isNull = false := by
  rw [withoutNulls, get?_dropNulls] at found
  simpa using Option.filter_eq_some_iff.mp found

/-! Null names and addresses. -/

theorem missing_message_injective {key other : String} (needed : key ∈ neededKeys)
    (otherNeeded : other ∈ neededKeys)
    (same : "missing " ++ key ++ " in account info" = "missing " ++ other ++ " in account info") :
    key = other := by
  have apart : ∀ k ∈ neededKeys, ∀ l ∈ neededKeys,
      "missing " ++ k ++ " in account info" = "missing " ++ l ++ " in account info" → k = l := by
    decide
  exact apart key needed other otherNeeded same

/-- Whether a fault is not that something needed is missing. -/
def NotMissing (key : String) (fault : Fault) : Prop :=
  fault ≠ .validation ("missing " ++ key ++ " in account info")

/-- What is wrong with a flag or a length is never said as what is missing. -/
theorem notMissing_of_start {message : String} (letter : Char) (other : letter ≠ 'm')
    (starts : message.toList.head? = some letter) (key : String) :
    NotMissing key (.validation message) := by
  intro same
  cases Fault.validation.inj same
  simp at starts
  exact other starts.symm

theorem passwordChangeRequired_notMissing (info : AccountInfo) (key : String) :
    FailsAs (NotMissing key) (passwordChangeRequired info) := by
  unfold passwordChangeRequired
  split
  · exact .ok _
  · exact .ok _
  · exact .ok _
  · split
    · exact .ok _
    · exact .error (notMissing_of_start 'i' (by decide) (by simp) key)
  · exact .error (notMissing_of_start 'p' (by decide) (by simp [passwordChangeKey]) key)

theorem ofDraws_notMissing (draws : Nat → Nat) (key : String) (requested : Nat) :
    FailsAs (NotMissing key) (Password.ofDraws draws requested) := by
  refine .bind ?_ fun _ => .ok _
  unfold Password.length
  split
  · exact .error (notMissing_of_start 'r' (by decide) (by simp) key)
  · exact .ok _

/-- Where everything that is needed is there, null or not, nothing is said to be missing. -/
theorem create_notMissing (s : Setting σ) {info : AccountInfo} (complete : missing? info = none)
    (options : CredentialOptions) (session : Session σ) (key : String) :
    FailsAs (NotMissing key) (create s info options session).1 := by
  obtain ⟨_, _, _, -, -, -, given⟩ :=
    newProfile_given (Option.eq_none_iff_forall_ne_some.mp complete)
  have queried := query_fails (passwordChangeRequired_notMissing info key) options
  have drawn := password_fails (ofDraws_notMissing s.draws key) options
  rw [create_eq, prepared, given]
  cases asked : query info options with
  | error fault => exact .error (queried fault asked)
  | ok pairs =>
    cases made : password s.draws options with
    | error fault => exact .error (drawn fault made)
    | ok p =>
      rintro _ placed rfl
      exact placed_ne_validation s session _ placed

/-- Nulls under other keys than those of what is passed on count as absent. So do all of them where
the same is missing with the nulls and without, and no null is passed on as the login. What is missing
only without the nulls is never said to be missing. -/
theorem nulls_unset (s : Setting σ) (info : AccountInfo) (options : CredentialOptions)
    (session : Session σ) :
    create s (dropNulls (fun key => !passedKeys.contains key) info) options session =
      create s info options session ∧
    (missing? (withoutNulls info) = missing? info →
      (missing? info = none → info.profile.get? "login" ≠ some .null) →
      create s (withoutNulls info) options session = create s info options session) ∧
    ∀ key, missing? (withoutNulls info) = some key → missing? info ≠ some key →
      create s (withoutNulls info) options session =
        (.error (.validation ("missing " ++ key ++ " in account info")), session) ∧
      (create s info options session).1 ≠
        .error (.validation ("missing " ++ key ++ " in account info")) := by
  refine ⟨?_, fun sameMissing login => ?_, fun key missing differs => ⟨?_, ?_⟩⟩
  · refine create_congr s (newProfile_congr fun key passed => ?_)
      (passwordChangeRequired_dropNulls _ info) options session
    exact get?_dropNulls_of_seen _ info fun gone => by simp [passed] at gone
  · cases missing : missing? info with
    | some key =>
      rw [create_eq, create_eq, prepared_missing s.draws missing,
        prepared_missing s.draws (sameMissing.trans missing)]
    | none =>
      refine create_congr s (newProfile_congr fun key passed => ?_)
        (passwordChangeRequired_dropNulls _ info) options session
      refine get?_dropNulls_of_seen _ info fun _ => ?_
      rcases List.mem_append.mp passed with needed | isLogin
      · obtain ⟨v, found⟩ := missing?_eq_none.mp (sameMissing.trans missing) key needed
        obtain ⟨given, notNull⟩ := present_of_withoutNulls found
        rw [given]
        rintro ⟨⟩
        cases notNull
      · rw [List.mem_singleton.mp isLogin]
        exact login missing
  · rw [create_eq, prepared_missing s.draws missing]
  · cases other : missing? info with
    | none => exact fun same => create_notMissing s other options session key _ same rfl
    | some found =>
      rw [create_eq, prepared_missing s.draws other]
      intro same
      have sameKey := missing_message_injective (List.mem_of_find?_eq_some other)
        (List.mem_of_find?_eq_some missing) (Fault.validation.inj (Except.error.inj same))
      exact differs (other.trans (congrArg some sameKey))

/-! Accounts with nulls: one where they count as absent, and one where they are passed on. -/

def unset : AccountInfo where
  profile := (((Profile.empty.set "first_name" (.text "Jane")).set "last_name" (.text "Doe")).set
    "email" (.text "jane@acme.com")).set passwordChangeKey .null

def nulled : AccountInfo where
  profile := (((Profile.empty.set "first_name" .null).set "last_name" (.text "Doe")).set
    "email" (.text "jane@acme.com")).set "login" .null

theorem nulled_missing :
    missing? nulled = none ∧ missing? (withoutNulls nulled) = some "first_name" := by
  constructor
  · simp [missing?, neededKeys, nulled]
  · simp [missing?, neededKeys, withoutNulls, get?_dropNulls, nulled, ProfileValue.isNull]

theorem nulls_unset_of_unset (session : Session (List Web.Response)) :
    create (.scripted .acme) (withoutNulls unset) (.randomPassword 8) session =
      create (.scripted .acme) unset (.randomPassword 8) session ∧
    create (.scripted .acme) (withoutNulls nulled) .noPassword session =
      (.error (.validation "missing first_name in account info"), session) := by
  obtain ⟨-, same, -⟩ := nulls_unset (.scripted .acme) unset (.randomPassword 8) session
  obtain ⟨-, -, apart⟩ := nulls_unset (.scripted .acme) nulled .noPassword session
  refine ⟨same ?_ ?_, (apart "first_name" nulled_missing.2 (by simp [nulled_missing.1])).1⟩
  · simp [missing?, neededKeys, withoutNulls, get?_dropNulls, unset, ProfileValue.isNull,
      passwordChangeKey]
  · simp [unset, passwordChangeKey]

/-- What is sent for the account whose first name and login are null. -/
def nulledDocument : Json :=
  .obj [("profile", .obj [("email", .str "jane@acme.com"), ("firstName", .null),
    ("lastName", .str "Doe"), ("login", .null)])]

theorem prepared_nulled (draws : Nat → Nat) :
    prepared draws nulled .noPassword = .ok (none, [], nulledDocument) := by
  have profile : newProfile nulled = .ok (.obj [("email", .str "jane@acme.com"),
      ("firstName", .null), ("lastName", .str "Doe"), ("login", .null)]) := by
    simp [newProfile, nulled, ProfileValue.toJson]
    rfl
  rw [prepared, profile]
  rfl

/-- A null name is sent where the account without it is refused, and a null login is sent in place of
the address. -/
theorem nulls_passed_on :
    ∃ account after,
      create (.scripted .acme) nulled .noPassword (Session.start .acme [janeCreated]) =
        (.ok account, after) ∧
      after.sent.map (fun r => r.body) =
        [some ("\x7b\"profile\":\x7b\"email\":\"jane@acme.com\",\"firstName\":null," ++
          "\"lastName\":\"Doe\",\"login\":null\x7d\x7d")] ∧
      create (.scripted .acme) (withoutNulls nulled) .noPassword
          (Session.start .acme [janeCreated]) =
        (.error (.validation "missing first_name in account info"),
          Session.start .acme [janeCreated]) := by
  have placing : ∀ session, create (.scripted .acme) nulled .noPassword session =
      placed (.scripted .acme) none [] nulledDocument session := fun session => by
    rw [create_eq, prepared_nulled]
  obtain ⟨result, outcome, called⟩ := placed_asked (.scripted .acme)
    (Tenant.acme_reachable.url path_isPath [])
    (request_sendable Tenant.acme_reachable rfl nulledDocument)
    (Session.start .acme [janeCreated])
  cases outcome with
  | created _ _ =>
    refine ⟨_, _, (placing _).trans called, ?_, ?_⟩
    · have written : String.ofList nulledDocument.write =
          "\x7b\"profile\":\x7b\"email\":\"jane@acme.com\",\"firstName\":null," ++
            "\"lastName\":\"Doe\",\"login\":null\x7d\x7d" := by decide +kernel
      exact congrArg (fun body => [some body]) written
    · rw [create_eq, prepared_missing _ nulled_missing.2]
      rfl
  | failed fails =>
    have read : readsAs UserRecord.decode? janeCreated.body = true := by decide +kernel
    have succeeds : janeCreated.Succeeds := by decide
    exact absurd (fails succeeds) (by simp [read])

end Okta.Accounts
end AccessCatalog
