import AccessCatalog.Catalog.Resource

/-! How a connector presents itself, and how it reports that a resource changed. -/
namespace AccessCatalog

inductive FieldKind where
  | text
  | bool
  deriving DecidableEq, Repr

namespace FieldKind

def name : FieldKind → String
  | .text => "string"
  | .bool => "bool"

def ofName? (name : String) : Option FieldKind :=
  [FieldKind.text, .bool].find? fun k => k.name = name

end FieldKind

/-- A value that may be supplied for a new account. -/
structure AccountField where
  name : String
  displayName : String
  placeholder : String
  isRequired : Bool
  kind : FieldKind
  order : Nat
  deriving DecidableEq, Repr

namespace AccountField

def decode? (v : Json) : Option AccountField := do
  match ← v.fields? [["name"], ["display_name"], ["placeholder"], ["required"], ["kind"],
      ["order"]] with
  | [name, displayName, placeholder, isRequired, kind, order] =>
    some {
      name := ← Json.required Json.str? name
      displayName := ← Json.required Json.str? displayName
      placeholder := ← Json.required Json.str? placeholder
      isRequired := ← Json.required Json.bool? isRequired
      kind := ← Json.required (fun v => (v.constant? false).bind FieldKind.ofName?) kind
      order := ← Json.required (Json.natBelow? Numeric.wordCount32) order }
  | _ => none

def encode (f : AccountField) : Json :=
  Json.record [Json.entry "name" (.str f.name), Json.entry "display_name" (.str f.displayName),
    Json.entry "placeholder" (.str f.placeholder), Json.entry "required" (.bool f.isRequired),
    Json.entry "kind" (.str f.kind.name), Json.entry "order" (.nat f.order)]

end AccountField

/-- The fields of a new account, in the order to ask for them. -/
structure AccountSchema where
  fields : List AccountField
  deriving DecidableEq, Repr

namespace AccountSchema

def decode? (v : Json) : Option AccountSchema := do
  match ← v.fields? [["fields"]] with
  | [fields] => (Json.required (Json.list? AccountField.decode?) fields).map AccountSchema.mk
  | _ => none

def encode (s : AccountSchema) : Json :=
  Json.record [Json.entry "fields" (.arr (s.fields.map AccountField.encode))]

end AccountSchema

structure ConnectorMetadata where
  displayName : String
  description : String
  annotations : Annotations := .empty
  accountSchema : Option AccountSchema := none

namespace ConnectorMetadata

def decode? (v : Json) : Option ConnectorMetadata := do
  match ← v.fields? [["display_name"], ["description"], ["annotations"],
      ["account_creation_schema"]] with
  | [displayName, description, annotations, schema] =>
    some {
      displayName := ← Json.required Json.str? displayName
      description := ← Json.required Json.str? description
      annotations := ← Json.orElse Annotations.decode? .empty annotations
      accountSchema := ← Json.orElse (Json.optional? AccountSchema.decode?) none schema }
  | _ => none

def encode (m : ConnectorMetadata) : Json :=
  Json.record [Json.entry "display_name" (.str m.displayName),
    Json.entry "description" (.str m.description), m.annotations.entry,
    m.accountSchema.map fun s => ("account_creation_schema", s.encode)]

end ConnectorMetadata

/-- Notice of an event that changed one resource. -/
structure ChangeEvent where
  eventId : String
  resourceId : ResourceId
  details : Profile := .empty

namespace ChangeEvent

def decode? (v : Json) : Option ChangeEvent := do
  match ← v.fields? [["event_id"], ["resource_id"], ["details"]] with
  | [eventId, resourceId, details] =>
    some {
      eventId := ← Json.required Json.str? eventId
      resourceId := ← Json.required ResourceId.decode? resourceId
      details := ← Json.orElse Profile.decode? .empty details }
  | _ => none

def encode (e : ChangeEvent) : Json :=
  Json.record [Json.entry "event_id" (.str e.eventId),
    Json.entry "resource_id" e.resourceId.encode, Json.entry "details" e.details.encode]

end ChangeEvent
end AccessCatalog
