import AccessCatalog.Catalog.Resource
import AccessCatalog.Text.Quoted

/-! Creating accounts: what the caller supplies, and the secrets that come back. -/
namespace AccessCatalog

/-- Where the password of a new account comes from. -/
inductive CredentialOptions where
  | noPassword
  | randomPassword (length : Nat)
  deriving DecidableEq, Repr

namespace CredentialOptions

def name : CredentialOptions → String
  | .noPassword => "no_password"
  | .randomPassword _ => "random_password"

def decode? (v : Json) : Option CredentialOptions := do
  let (tag, body) ← v.tagged? "type"
  if tag = "no_password" then body.noFields?.map fun _ => .noPassword
  else if tag = "random_password" then
    match ← body.fields? [["length"]] with
    | [length] => (Json.required Json.nat64? length).map .randomPassword
    | _ => none
  else none

def encode (o : CredentialOptions) : Json :=
  Json.record (Json.entry "type" (.str o.name) ::
    match o with
    | .noPassword => []
    | .randomPassword length => [Json.entry "length" (.nat length)])

end CredentialOptions

/-- The options a connector has for new accounts, and the one it prefers. -/
structure CredentialDetails where
  supported : List String
  preferred : String
  deriving DecidableEq, Repr

namespace CredentialDetails

def decode? (v : Json) : Option CredentialDetails := do
  match ← v.fields? [["supported"], ["preferred"]] with
  | [supported, preferred] =>
    some ⟨← Json.required (Json.list? Json.str?) supported, ← Json.required Json.str? preferred⟩
  | _ => none

def encode (d : CredentialDetails) : Json :=
  Json.record [Json.entry "supported" (Json.strings d.supported),
    Json.entry "preferred" (.str d.preferred)]

end CredentialDetails

structure AccountInfo where
  profile : Profile

namespace AccountInfo

def decode? (v : Json) : Option AccountInfo := do
  match ← v.fields? [["profile"]] with
  | [profile] => (Json.required Profile.decode? profile).map AccountInfo.mk
  | _ => none

def encode (i : AccountInfo) : Json := Json.record [Json.entry "profile" i.profile.encode]

end AccountInfo

structure Secret where
  name : String
  value : String
  deriving DecidableEq

/-- A secret as diagnostics show it, its value masked. -/
def Secret.diagnostic (s : Secret) : String :=
  "PlaintextSecret \x7b name: " ++ Text.quoted s.name ++ ", value: \"***\" \x7d"

structure NewAccount where
  resource : Resource
  secrets : List Secret

namespace Password

def alphabet : List Char :=
  "abcdefghijklmnopqrstuvwxyzABCDEFGHIJKLMNOPQRSTUVWXYZ0123456789!@#$%^&*()-_=+".toList

def minLength : Nat := 8
def maxLength : Nat := 8

/-- The length of the password that a request for `length` characters gets. -/
def length (length : Nat) : Except Fault Nat :=
  if length < minLength then
    .error (.validation ("random password length must be at least " ++ Nat.repr minLength ++
      ", got " ++ Nat.repr length))
  else .ok (min length maxLength)

/-- A password made of random draws, each reduced to a place in the alphabet. -/
def ofDraws (draws : Nat → Nat) (requested : Nat) : Except Fault String := do
  let n ← length requested
  .ok (String.ofList ((List.range n).map fun i =>
    alphabet.getD (draws i % alphabet.length) 'a'))

end Password
end AccessCatalog
