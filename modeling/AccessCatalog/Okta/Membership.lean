import AccessCatalog.Okta.Groups

/-! Granting and revoking membership in groups. Only users are members, and a change drops what was
kept of the group. -/
namespace AccessCatalog.Okta.Membership

variable {σ : Type}

def change (s : Setting σ) (method : Web.Method) (groupId userId operation : String) :
    Call σ Fault Annotations := do
  let info ← (s.perform method (Groups.membershipPath groupId userId)).within operation
  s.forget (Groups.pathOf groupId)
  pure info.annotations

def grant (s : Setting σ) (principal : Resource) (entitlement : Entitlement) :
    Call σ Fault Annotations :=
  let groupId := entitlement.resource.resource
  let userId := principal.id.resource
  if principal.id.resourceType = "user" then
    change s .put groupId userId ("add user " ++ userId ++ " to group " ++ groupId)
  else throw (.policyViolation "only users can be granted group membership")

def revoke (s : Setting σ) (grant : Grant) : Call σ Fault Annotations :=
  let groupId := grant.entitlement.resource.resource
  let userId := grant.principal.resource
  if grant.principal.resourceType = "user" then
    change s .delete groupId userId ("remove user " ++ userId ++ " from group " ++ groupId)
  else throw (.policyViolation "only users can have group membership revoked")

end AccessCatalog.Okta.Membership
