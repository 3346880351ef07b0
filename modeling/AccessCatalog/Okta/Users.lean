import AccessCatalog.Okta.Session
import AccessCatalog.Okta.UserRecord
import AccessCatalog.Paging.Bag

/-! Listing and looking up the users in scope. Without a domain in scope nothing is asked. -/
namespace AccessCatalog.Okta.Users

variable {σ : Type}

def path : String := "/api/v1/users"
def pathOf (id : String) : String := path ++ "/" ++ Web.pathSegment id

def list (s : Setting σ) (r : PageRequest) : Call σ Fault (Page Resource) := do
  let domains := s.tenant.loweredEmailDomains
  if domains.isEmpty then pure .empty
  else
    let bag ← Call.ofExcept (Bag.resume r.token { resourceType := "user" })
    let (users, info) ← (s.get withoutCredentialsType (Json.list? UserRecord.decode?) path
      [("limit", Nat.repr (s.tenant.pageLimit r)), ("after", bag.cursor),
        ("search", "status pr")]).within "list users"
    let bag ← Call.ofExcept (bag.next info.nextCursor)
    let items := (users.filter (·.inScope domains)).map (·.resource s.tenant.skipSecondaryEmails)
    pure ⟨items, bag.token, info.annotations⟩

def get (s : Setting σ) (id : String) : Call σ Fault (Option Resource) := do
  let domains := s.tenant.loweredEmailDomains
  if domains.isEmpty then pure none
  else
    match ← (s.getKept withoutCredentialsType UserRecord.decode? (pathOf id)).attempt with
    | .ok (user, _) =>
      pure <|
        if user.inScope domains then some (user.resource s.tenant.skipSecondaryEmails) else none
    | .error e =>
      if e.isNotFound then pure none else throw (e.context ("get user " ++ id))

end AccessCatalog.Okta.Users
