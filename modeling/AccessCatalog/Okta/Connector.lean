import AccessCatalog.Okta.Accounts
import AccessCatalog.Okta.LogEvent
import AccessCatalog.Okta.Membership

/-! The connector of a tenant: its syncers by resource type, what it may change, and how it
presents itself. -/
namespace AccessCatalog.Okta

variable {σ : Type}

/-- What can be synced. Roles are, but the connector does not advertise them. -/
inductive Syncer where
  | users
  | groups
  | roles
  deriving DecidableEq, Repr

namespace Syncer

def resourceType : Syncer → ResourceType
  | .users => userType
  | .groups => groupType
  | .roles => roleType

def ofType? (id : String) : Option Syncer :=
  [Syncer.users, .groups, .roles].find? fun s => s.resourceType.id = id

def advertised : List Syncer := [.users, .groups]

def list (s : Setting σ) (r : PageRequest) : Syncer → Call σ Fault (Page Resource)
  | .users => Users.list s r
  | .groups => Groups.list s r
  | .roles => Roles.list s r

def entitlements (resource : Resource) : Syncer → Page Entitlement
  | .users => .empty
  | .groups => Groups.entitlements resource
  | .roles => Roles.entitlements resource

def grants (s : Setting σ) (resource : Resource) (r : PageRequest) :
    Syncer → Call σ Fault (Page Grant)
  | .users => pure .empty
  | .groups => Groups.grants s resource r
  | .roles => Roles.grants s resource r

def get (s : Setting σ) (id : ResourceId) : Syncer → Call σ Fault (Option Resource)
  | .users => Users.get s id.resource
  | .groups => Groups.get s id.resource
  | .roles => Roles.get s id

end Syncer

namespace Connector

def resourceTypes : List ResourceType := Syncer.advertised.map Syncer.resourceType

def organizationPath : String := "/api/v1/org"

/-- Checks that the token reaches the service; without a token there is nothing to check. -/
def validate (s : Setting σ) : Call σ Fault Annotations := do
  if s.tenant.hasToken then
    let (_, info) ← (s.get jsonType Json.value? organizationPath []).within
      "validate: fetch org settings"
    pure info.annotations
  else pure .empty

def metadata (s : Setting σ) : Call σ Fault ConnectorMetadata := do
  let _ ← validate s
  pure {
    displayName := "Okta"
    description := "The Okta connector syncs user, group, role, and app data from Okta"
    annotations := Annotations.empty.update (.externalLink s.tenant.domain)
    accountSchema := some Accounts.schema }

def diagnostic (t : Tenant) (session : Session σ) : String :=
  "OktaConnector \x7b config: " ++ t.redacted.diagnostic ++ ", cached_role_flags: " ++
    Nat.repr session.flags.size ++ ", .. \x7d"

end Connector
end AccessCatalog.Okta
