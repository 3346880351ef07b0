import AccessCatalog.Catalog.Resource

/-! Entitlements of resources, and grants of them to principals. The ids of both are made of the
ids of what they join. -/
namespace AccessCatalog

inductive EntitlementPurpose where
  | assignment
  | permission
  deriving DecidableEq, Repr

namespace EntitlementPurpose

def name : EntitlementPurpose → String
  | .assignment => "assignment"
  | .permission => "permission"

def ofName? (name : String) : Option EntitlementPurpose :=
  [EntitlementPurpose.assignment, .permission].find? fun p => p.name = name

end EntitlementPurpose

structure Entitlement where
  id : String
  resource : ResourceId
  slug : String
  displayName : String
  description : String := ""
  purpose : EntitlementPurpose := .assignment
  /-- Ids of the resource types that may hold the entitlement. -/
  grantableTo : List String := []
  annotations : Annotations := .empty

def entitlementId (resource : ResourceId) (slug : String) : String := resource.text ++ ":" ++ slug

namespace Entitlement

/-- Membership in a resource, named by its slug. -/
def assignment (resource : Resource) (slug : String) : Entitlement :=
  { id := entitlementId resource.id slug, resource := resource.id, slug, displayName := slug }

def grantable (e : Entitlement) (type : ResourceType) : Entitlement :=
  { e with grantableTo := e.grantableTo ++ [type.id] }

def decode? (v : Json) : Option Entitlement := do
  match ← v.fields? [["id"], ["resource"], ["slug"], ["display_name"], ["description"],
      ["purpose"], ["grantable_to"], ["annotations"]] with
  | [id, resource, slug, displayName, description, purpose, grantableTo, annotations] =>
    some {
      id := ← Json.required Json.str? id
      resource := ← Json.required ResourceId.decode? resource
      slug := ← Json.required Json.str? slug
      displayName := ← Json.required Json.str? displayName
      description := ← Json.required Json.str? description
      purpose := ← Json.required
        (fun v => (v.constant? false).bind EntitlementPurpose.ofName?) purpose
      grantableTo := ← Json.required (Json.list? Json.str?) grantableTo
      annotations := ← Json.orElse Annotations.decode? .empty annotations }
  | _ => none

def encode (e : Entitlement) : Json :=
  Json.record [Json.entry "id" (.str e.id), Json.entry "resource" e.resource.encode,
    Json.entry "slug" (.str e.slug), Json.entry "display_name" (.str e.displayName),
    Json.entry "description" (.str e.description), Json.entry "purpose" (.str e.purpose.name),
    Json.entry "grantable_to" (Json.strings e.grantableTo), e.annotations.entry]

end Entitlement

structure Grant where
  id : String
  entitlement : Entitlement
  principal : ResourceId
  annotations : Annotations := .empty

namespace Grant

def ofAssignment (resource : Resource) (slug : String) (principal : ResourceId) : Grant :=
  let entitlement := Entitlement.assignment resource slug
  { id := entitlement.id ++ ":" ++ principal.text, entitlement, principal }

def annotate (g : Grant) (a : Note) : Grant :=
  { g with annotations := g.annotations.update a }

def isExpandable (g : Grant) : Bool := g.annotations.expansion?.isSome

def decode? (v : Json) : Option Grant := do
  match ← v.fields? [["id"], ["entitlement"], ["principal"], ["annotations"]] with
  | [id, entitlement, principal, annotations] =>
    some {
      id := ← Json.required Json.str? id
      entitlement := ← Json.required Entitlement.decode? entitlement
      principal := ← Json.required ResourceId.decode? principal
      annotations := ← Json.orElse Annotations.decode? .empty annotations }
  | _ => none

def encode (g : Grant) : Json :=
  Json.record [Json.entry "id" (.str g.id), Json.entry "entitlement" g.entitlement.encode,
    Json.entry "principal" g.principal.encode, g.annotations.entry]

end Grant
end AccessCatalog
