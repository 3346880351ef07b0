import AccessCatalog.Catalog.Account
import AccessCatalog.Catalog.Description
import AccessCatalog.Okta.Users

/-! Creating accounts. The caller's profile becomes that of a user; the login is the email address
unless it is given. A password is generated only on request, and then the account may have to
change it at the first login. -/
namespace AccessCatalog.Okta.Accounts

variable {σ : Type}

def passwordChangeKey : String := "password_change_on_login_required"

def passwordName : String := "password"

def newProfile (info : AccountInfo) : Except Fault Json := do
  let demand (key : String) : Except Fault Json :=
    match info.profile.get? key with
    | some v => .ok v.toJson
    | none => .error (.validation ("missing " ++ key ++ " in account info"))
  let firstName ← demand "first_name"
  let lastName ← demand "last_name"
  let email ← demand "email"
  let login := match info.profile.get? "login" with
    | some v => v.toJson
    | none => email
  .ok (.obj [("email", email), ("firstName", firstName), ("lastName", lastName), ("login", login)])

def truth? (s : String) : Option Bool :=
  if ["1", "t", "T", "true", "TRUE", "True"].contains s then some true
  else if ["0", "f", "F", "false", "FALSE", "False"].contains s then some false
  else none

def passwordChangeRequired (info : AccountInfo) : Except Fault Bool :=
  match info.profile.get? passwordChangeKey with
  | none => .ok false
  | some .null => .ok false
  | some (.bool b) => .ok b
  | some (.text s) =>
    match truth? s with
    | some b => .ok b
    | none =>
      .error (.validation ("invalid " ++ passwordChangeKey ++ " value: " ++ Text.quoted s))
  | some _ => .error (.validation (passwordChangeKey ++ " must be a boolean or a string"))

/-- The query of the request; only accounts with a password may have to change it. -/
def query (info : AccountInfo) : CredentialOptions → Except Fault (List (String × String))
  | .noPassword => .ok []
  | .randomPassword _ => do
    if ← passwordChangeRequired info then
      .ok [("nextLogin", "changePassword"), ("activate", "true")]
    else .ok []

def password (draws : Nat → Nat) : CredentialOptions → Except Fault (Option String)
  | .noPassword => .ok none
  | .randomPassword length => (Password.ofDraws draws length).map some

def body (profile : Json) (password : Option String) : Json :=
  Json.record [
    password.map fun p => ("credentials", .obj [("password", .obj [("value", .str p)])]),
    Json.entry "profile" profile]

def create (s : Setting σ) (info : AccountInfo) (options : CredentialOptions) :
    Call σ Fault NewAccount := do
  let profile ← Call.ofExcept (newProfile info)
  let query ← Call.ofExcept (query info options)
  let password ← Call.ofExcept (password s.draws options)
  let (user, _) ← (s.post UserRecord.decode? Users.path query
    (body profile password)).within "create user"
  pure ⟨user.resource s.tenant.skipSecondaryEmails,
    (password.map fun p => Secret.mk passwordName p).toList⟩

def capability : CredentialDetails :=
  ⟨[CredentialOptions.name .noPassword, CredentialOptions.name (.randomPassword 0)],
    CredentialOptions.name .noPassword⟩

def schema : AccountSchema where
  fields := [
    ⟨"first_name", "First Name", "First name", true, .text, 1⟩,
    ⟨"last_name", "Last Name", "Last name", true, .text, 2⟩,
    ⟨"email", "Email", "Email", true, .text, 3⟩,
    ⟨"login", "Login", "Login", false, .text, 4⟩,
    ⟨passwordChangeKey, "Password Change Required on Login", "True/False", false, .text, 5⟩]

end AccessCatalog.Okta.Accounts
