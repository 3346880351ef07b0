import AccessCatalog.Catalog.Profile
import AccessCatalog.Time.Rfc3339

/-! Annotations: typed notes beside pages, resources and grants. Putting a note into a
collection replaces the first one of its kind where it stands, or adds it at the end. -/
namespace AccessCatalog

namespace Instant

def decode? (v : Json) : Option Instant := v.str?.bind Instant.parse?
def encode (t : Instant) : Json := .str (t.text .shortest)

end Instant

/-- The request budget of the current window, what is left of it, and when the window ends. -/
structure RateLimit where
  limit : Int
  remaining : Int
  resetAt : Instant
  deriving DecidableEq, Repr

namespace RateLimit

def decode? (v : Json) : Option RateLimit := do
  match ← v.fields? [["limit"], ["remaining"], ["reset_at"]] with
  | [limit, remaining, resetAt] =>
    some {
      limit := ← Json.required Json.int64? limit
      remaining := ← Json.required Json.int64? remaining
      resetAt := ← Json.required Instant.decode? resetAt }
  | _ => none

def entries (r : RateLimit) : List (Option (String × Json)) :=
  [Json.entry "limit" (.int r.limit), Json.entry "remaining" (.int r.remaining),
    Json.entry "reset_at" r.resetAt.encode]

def encode (r : RateLimit) : Json := Json.record r.entries

end RateLimit

inductive Note where
  | rateLimit (state : RateLimit)
  /-- A freshness stamp: a complete snapshot was seen at this time. -/
  | eTag (value : String)
  /-- Metadata to compare between two snapshots. -/
  | eTagMetadata (metadata : Profile)
  /-- A grant that stands for the principals who hold these entitlements. -/
  | grantExpandable (entitlementIds : List String) (shallow : Bool)
  | rawId (id : String)
  | externalLink (url : String)
  | skipEntitlementsAndGrants

namespace Note

inductive Kind where
  | rateLimit
  | eTag
  | eTagMetadata
  | grantExpandable
  | rawId
  | externalLink
  | skipEntitlementsAndGrants
  deriving DecidableEq, Repr

def kind : Note → Kind
  | .rateLimit _ => .rateLimit
  | .eTag _ => .eTag
  | .eTagMetadata _ => .eTagMetadata
  | .grantExpandable _ _ => .grantExpandable
  | .rawId _ => .rawId
  | .externalLink _ => .externalLink
  | .skipEntitlementsAndGrants => .skipEntitlementsAndGrants

def Kind.name : Kind → String
  | .rateLimit => "rate_limit"
  | .eTag => "e_tag"
  | .eTagMetadata => "e_tag_metadata"
  | .grantExpandable => "grant_expandable"
  | .rawId => "raw_id"
  | .externalLink => "external_link"
  | .skipEntitlementsAndGrants => "skip_entitlements_and_grants"

def Kind.all : List Kind :=
  [.rateLimit, .eTag, .eTagMetadata, .grantExpandable, .rawId, .externalLink,
    .skipEntitlementsAndGrants]

def Kind.ofName? (name : String) : Option Kind := Kind.all.find? fun k => k.name = name

def textField? (name : String) (v : Json) : Option String := do
  match ← v.fields? [[name]] with
  | [field] => Json.required Json.str? field
  | _ => none

def decode? (v : Json) : Option Note := do
  let (tag, body) ← v.tagged? "kind"
  match ← Kind.ofName? tag with
  | .rateLimit => (RateLimit.decode? body).map .rateLimit
  | .eTag => (textField? "value" body).map .eTag
  | .eTagMetadata =>
    match ← body.fields? [["metadata"]] with
    | [metadata] => (Json.required Profile.decode? metadata).map .eTagMetadata
    | _ => none
  | .grantExpandable =>
    match ← body.fields? [["entitlement_ids"], ["shallow"]] with
    | [ids, shallow] =>
      some (.grantExpandable (← Json.required (Json.list? Json.str?) ids)
        (← Json.required Json.bool? shallow))
    | _ => none
  | .rawId => (textField? "id" body).map .rawId
  | .externalLink => (textField? "url" body).map .externalLink
  | .skipEntitlementsAndGrants => body.noFields?.map fun _ => .skipEntitlementsAndGrants

def encode (a : Note) : Json :=
  Json.record (Json.entry "kind" (.str a.kind.name) ::
    match a with
    | .rateLimit r => r.entries
    | .eTag value => [Json.entry "value" (.str value)]
    | .eTagMetadata metadata => [Json.entry "metadata" metadata.encode]
    | .grantExpandable ids shallow =>
      [Json.entry "entitlement_ids" (Json.strings ids), Json.entry "shallow" (.bool shallow)]
    | .rawId id => [Json.entry "id" (.str id)]
    | .externalLink url => [Json.entry "url" (.str url)]
    | .skipEntitlementsAndGrants => [])

end Note

/-- Annotations in the order in which their kinds were first put in. -/
structure Annotations where
  items : List Note

namespace Annotations

def empty : Annotations := ⟨[]⟩

instance : Inhabited Annotations := ⟨empty⟩

def isEmpty (as : Annotations) : Bool := as.items.isEmpty

/-- Replaces the first annotation of the kind, or adds one at the end. -/
def put (a : Note) : List Note → List Note
  | [] => [a]
  | x :: rest => if x.kind = a.kind then a :: rest else x :: put a rest

def update (as : Annotations) (a : Note) : Annotations := ⟨put a as.items⟩

def merge (as other : Annotations) : Annotations := other.items.foldl update as

def ofList (items : List Note) : Annotations := items.foldl update empty

def rateLimit? (as : Annotations) : Option RateLimit :=
  as.items.findSome? fun
    | .rateLimit r => some r
    | _ => none

def eTag? (as : Annotations) : Option String :=
  as.items.findSome? fun
    | .eTag value => some value
    | _ => none

/-- The entitlements a grant expands to, and whether only one level deep. -/
def expansion? (as : Annotations) : Option (List String × Bool) :=
  as.items.findSome? fun
    | .grantExpandable ids shallow => some (ids, shallow)
    | _ => none

def contains (as : Annotations) (p : Note → Bool) : Bool := as.items.any p

/-- The list as it is written; a repeated kind is kept. -/
def decode? (v : Json) : Option Annotations := (v.list? Note.decode?).map Annotations.mk

def encode (as : Annotations) : Json := .arr (as.items.map Note.encode)

/-- The field of a record that holds its annotations, left out when there are none. -/
def entry (as : Annotations) : Option (String × Json) :=
  Json.entryUnless as.isEmpty "annotations" as.encode

end Annotations
end AccessCatalog
