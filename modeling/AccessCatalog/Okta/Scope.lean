import AccessCatalog.Catalog.Profile
import AccessCatalog.Text.Lowercase

/-! Which users are in scope: those with an email address, a second one, or a login of that form,
in one of the domains of the tenant. -/
namespace AccessCatalog.Okta.Scope

def candidates (p : Profile) : List String :=
  (p.text? "email").toList ++ (p.text? "secondEmail").toList ++
    ((p.text? "login").filter fun login => login.toList.contains '@').toList

/-- Whether some address ends in an at sign and one of the domains, which are in small letters. -/
def inDomains (addresses domains : List String) : Bool :=
  domains.any fun domain =>
    addresses.any fun address =>
      ('@' :: domain.toList).isSuffixOf (Text.lowercase address).toList

def contains (p : Profile) (domains : List String) : Bool := inDomains (candidates p) domains

end AccessCatalog.Okta.Scope
