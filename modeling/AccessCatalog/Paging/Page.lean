import AccessCatalog.Catalog.Annotations

/-! Pages of a listing, and the requests for them. -/
namespace AccessCatalog

def defaultPageSize : Nat := 200

/-- A request for a page of some size, none meaning the default, that continues from a token. -/
structure PageRequest where
  size : Nat := 0
  token : String := ""

def PageRequest.sizeOr (r : PageRequest) (default : Nat) : Nat :=
  if r.size = 0 then default else r.size

structure Page (α : Type) where
  items : List α
  /-- Empty when the listing is complete. -/
  nextToken : String
  annotations : Annotations

namespace Page

variable {α : Type}

def empty : Page α := ⟨[], "", .empty⟩
def isLast (p : Page α) : Bool := p.nextToken.isEmpty

end Page
end AccessCatalog
