import AccessCatalog.Catalog.Account
import AccessCatalog.Catalog.Description
import AccessCatalog.Catalog.Grant
import AccessCatalog.Proofs.Catalog.StoredNotes

/-! Everything in the catalog comes back from the document it is stored as: each record field by
field, where a field that was left out is read as what it was. -/
namespace AccessCatalog

open Json (Slots Yields)

/-! Resources. -/

theorem ResourceTrait.yields (t : ResourceTrait) : Yields decode? (.str t.name) t :=
  ⟨_, rfl, by cases t <;> decide⟩

theorem ResourceType.yields {r : ResourceType} (valid : r.annotations.IsValid) :
    Yields decode? r.encode r := by
  obtain ⟨id, idSlot, idRead⟩ := (Json.yields_str r.id).required "id"
  obtain ⟨displayName, nameSlot, nameRead⟩ :=
    (Json.yields_str r.displayName).required "display_name"
  obtain ⟨traits, traitsSlot, traitsRead⟩ :=
    (Json.yields_list fun t (_ : t ∈ r.traits) => t.yields).required "traits"
  obtain ⟨annotations, noteSlot, noteRead⟩ := Annotations.fills valid
  refine (Slots.cons idSlot (.cons nameSlot (.cons traitsSlot
    (.cons noteSlot .nil)))).yields (by decide) fun v fields => ?_
  simp only [List.map] at fields
  simp [decode?, fields, idRead, nameRead, traitsRead, noteRead]

theorem ResourceId.yields (id : ResourceId) : Yields decode? id.encode id := by
  obtain ⟨resourceType, typeSlot, typeRead⟩ :=
    (Json.yields_str id.resourceType).required "resource_type"
  obtain ⟨resource, resourceSlot, resourceRead⟩ :=
    (Json.yields_str id.resource).required "resource"
  refine (Slots.cons typeSlot (.cons resourceSlot .nil)).yields (by decide) fun v fields => ?_
  simp only [List.map] at fields
  simp [decode?, fields, typeRead, resourceRead]

theorem UserStatus.yields (inTagged : Bool) (s : UserStatus) :
    Yields (decode? inTagged) (.str s.name) s :=
  ⟨_, rfl, by cases s <;> rfl⟩

theorem DetailedStatus.yields (inTagged : Bool) (s : DetailedStatus) :
    Yields (decode? inTagged) s.encode s := by
  obtain ⟨status, statusSlot, statusRead⟩ := (s.status.yields inTagged).required "status"
  obtain ⟨details, detailsSlot, detailsRead⟩ := (Json.yields_str s.details).required "details"
  refine (Slots.cons statusSlot (.cons detailsSlot .nil)).yields (by decide) fun v fields => ?_
  simp only [List.map] at fields
  simp [decode?, fields, statusRead, detailsRead]

theorem UserEmail.yields (e : UserEmail) : Yields decode? e.encode e := by
  obtain ⟨address, addressSlot, addressRead⟩ := (Json.yields_str e.address).required "address"
  obtain ⟨isPrimary, primarySlot, primaryRead⟩ :=
    (Json.yields_bool e.isPrimary).required "is_primary"
  refine (Slots.cons addressSlot (.cons primarySlot .nil)).yields (by decide) fun v fields => ?_
  simp only [List.map] at fields
  simp [decode?, fields, addressRead, primaryRead]

structure UserTrait.IsValid (t : UserTrait) : Prop where
  profile : t.profile.IsValid
  createdAt : ∀ at_ ∈ t.createdAt, at_.IsValid
  lastLogin : ∀ at_ ∈ t.lastLogin, at_.IsValid

def UserTrait.names : List String :=
  ["profile", "emails", "login", "login_aliases", "employee_ids", "status", "created_at",
    "last_login"]

/-- The fields of a user as they are stored, and that they are read as the user. -/
theorem UserTrait.filled {t : UserTrait} (valid : t.IsValid) (inTagged : Bool) :
    ∃ fields, Slots names t.entries fields ∧ ∀ v : Json,
      v.fields? (names.map fun name => [name]) = some fields → decode? inTagged v = some t := by
  obtain ⟨profile, profileSlot, profileRead⟩ := (Profile.yields valid.profile).required "profile"
  obtain ⟨emails, emailsSlot, emailsRead⟩ :=
    (Json.yields_list fun e (_ : e ∈ t.emails) => e.yields).orElse_unless []
      List.isEmpty_iff.mp "emails"
  obtain ⟨login, loginSlot, loginRead⟩ :=
    Json.fills_optional t.login (fun s _ => Json.yields_str s) rfl "login"
  obtain ⟨aliases, aliasesSlot, aliasesRead⟩ :=
    (Json.yields_strings t.loginAliases).orElse_unless []
      List.isEmpty_iff.mp "login_aliases"
  obtain ⟨employeeIds, idsSlot, idsRead⟩ :=
    (Json.yields_strings t.employeeIds).orElse_unless []
      List.isEmpty_iff.mp "employee_ids"
  obtain ⟨status, statusSlot, statusRead⟩ :=
    Json.fills_optional t.status (fun s _ => s.yields inTagged) rfl "status"
  obtain ⟨createdAt, createdSlot, createdRead⟩ :=
    Json.fills_optional t.createdAt (fun at_ member => Instant.yields (valid.createdAt at_ member))
      rfl "created_at"
  obtain ⟨lastLogin, lastSlot, lastRead⟩ :=
    Json.fills_optional t.lastLogin (fun at_ member => Instant.yields (valid.lastLogin at_ member))
      rfl "last_login"
  refine ⟨_, .cons profileSlot (.cons emailsSlot (.cons loginSlot (.cons aliasesSlot
    (.cons idsSlot (.cons statusSlot (.cons createdSlot (.cons lastSlot .nil))))))), ?_⟩
  intro v fields
  simp only [names, List.map] at fields
  simp [decode?, fields, profileRead, emailsRead, loginRead, aliasesRead, idsRead, statusRead,
    createdRead, lastRead]

def ResourceTraits.IsValid : ResourceTraits → Prop
  | .user t => t.IsValid
  | .group p => p.IsValid
  | .role p => p.IsValid

namespace ResourceTraits

/-- A profile alone is what groups and roles have. -/
theorem profile_filled {p : Profile} (valid : p.IsValid) :
    ∃ fields, Slots ["profile"] [Json.entry "profile" p.encode] fields ∧ ∀ v : Json,
      v.fields? [["profile"]] = some fields → profileField? v = some p := by
  obtain ⟨profile, slot, read⟩ := (Profile.yields valid).required "profile"
  exact ⟨_, .cons slot .nil, fun v fields => by simp [profileField?, fields, read]⟩

theorem yields {t : ResourceTraits} (valid : t.IsValid) : Yields decode? t.encode t := by
  cases t with
  | user t =>
    obtain ⟨fields, slots, read⟩ := UserTrait.filled valid true
    refine slots.yields_tagged "trait" "user" (by decide) fun v body tagged found _ => ?_
    simp [decode?, tagged, ResourceTrait.ofName?, ResourceTrait.name, read body found]
  | group p =>
    obtain ⟨fields, slots, read⟩ := profile_filled valid
    refine slots.yields_tagged "trait" "group" (by decide) fun v body tagged found _ => ?_
    simp [decode?, tagged, ResourceTrait.ofName?, ResourceTrait.name, read body found]
  | role p =>
    obtain ⟨fields, slots, read⟩ := profile_filled valid
    refine slots.yields_tagged "trait" "role" (by decide) fun v body tagged found _ => ?_
    simp [decode?, tagged, ResourceTrait.ofName?, ResourceTrait.name, read body found]

end ResourceTraits

structure Resource.IsValid (r : Resource) : Prop where
  traits : r.traits.IsValid
  annotations : r.annotations.IsValid

theorem Resource.yields {r : Resource} (valid : r.IsValid) : Yields decode? r.encode r := by
  obtain ⟨id, idSlot, idRead⟩ := r.id.yields.required "id"
  obtain ⟨displayName, nameSlot, nameRead⟩ :=
    (Json.yields_str r.displayName).required "display_name"
  obtain ⟨parent, parentSlot, parentRead⟩ :=
    Json.fills_optional r.parent (fun p _ => p.yields) rfl "parent"
  obtain ⟨traits, traitsSlot, traitsRead⟩ := (ResourceTraits.yields valid.traits).required "traits"
  obtain ⟨annotations, noteSlot, noteRead⟩ := Annotations.fills valid.annotations
  refine (Slots.cons idSlot (.cons nameSlot (.cons parentSlot
    (.cons traitsSlot (.cons noteSlot .nil))))).yields (by decide) fun v fields => ?_
  simp only [List.map] at fields
  simp [decode?, fields, idRead, nameRead, parentRead, traitsRead, noteRead]

/-! Entitlements and grants. -/

theorem EntitlementPurpose.yields (p : EntitlementPurpose) :
    Yields (fun v => (v.constant? false).bind ofName?) (.str p.name) p :=
  ⟨_, rfl, by cases p <;> rfl⟩

theorem Entitlement.yields {e : Entitlement} (valid : e.annotations.IsValid) :
    Yields decode? e.encode e := by
  obtain ⟨id, idSlot, idRead⟩ := (Json.yields_str e.id).required "id"
  obtain ⟨resource, resourceSlot, resourceRead⟩ := e.resource.yields.required "resource"
  obtain ⟨slug, slugSlot, slugRead⟩ := (Json.yields_str e.slug).required "slug"
  obtain ⟨displayName, nameSlot, nameRead⟩ :=
    (Json.yields_str e.displayName).required "display_name"
  obtain ⟨description, descriptionSlot, descriptionRead⟩ :=
    (Json.yields_str e.description).required "description"
  obtain ⟨purpose, purposeSlot, purposeRead⟩ := e.purpose.yields.required "purpose"
  obtain ⟨grantableTo, grantableSlot, grantableRead⟩ :=
    (Json.yields_strings e.grantableTo).required "grantable_to"
  obtain ⟨annotations, noteSlot, noteRead⟩ := Annotations.fills valid
  refine (Slots.cons idSlot (.cons resourceSlot (.cons slugSlot
    (.cons nameSlot (.cons descriptionSlot (.cons purposeSlot (.cons grantableSlot
      (.cons noteSlot .nil)))))))).yields (by decide) fun v fields => ?_
  simp only [List.map] at fields
  simp [decode?, fields, idRead, resourceRead, slugRead, nameRead,
    descriptionRead, purposeRead, grantableRead, noteRead]

structure Grant.IsValid (g : Grant) : Prop where
  entitlement : g.entitlement.annotations.IsValid
  annotations : g.annotations.IsValid

theorem Grant.yields {g : Grant} (valid : g.IsValid) : Yields decode? g.encode g := by
  obtain ⟨id, idSlot, idRead⟩ := (Json.yields_str g.id).required "id"
  obtain ⟨entitlement, entitlementSlot, entitlementRead⟩ :=
    (Entitlement.yields valid.entitlement).required "entitlement"
  obtain ⟨principal, principalSlot, principalRead⟩ := g.principal.yields.required "principal"
  obtain ⟨annotations, noteSlot, noteRead⟩ := Annotations.fills valid.annotations
  refine (Slots.cons idSlot (.cons entitlementSlot (.cons principalSlot
    (.cons noteSlot .nil)))).yields (by decide) fun v fields => ?_
  simp only [List.map] at fields
  simp [decode?, fields, idRead, entitlementRead, principalRead, noteRead]

/-! Accounts, and what a connector says of itself. -/

def CredentialOptions.IsValid : CredentialOptions → Prop
  | .noPassword => True
  | .randomPassword length => length < Numeric.wordCount64

theorem CredentialOptions.yields {o : CredentialOptions} (valid : o.IsValid) :
    Yields decode? o.encode o := by
  cases o with
  | noPassword =>
    refine Slots.nil.yields_tagged "type" "no_password" (by decide) fun v body tagged _ none => ?_
    simp [decode?, tagged, none]
  | randomPassword length =>
    obtain ⟨field, slot, read⟩ := (Json.yields_natBelow valid).required "length"
    refine (Slots.cons slot .nil).yields_tagged "type" "random_password" (by decide)
      fun v body tagged fields _ => ?_
    simp only [List.map] at fields
    simp [decode?, tagged, fields, Json.nat64?, read]

theorem AccountInfo.yields {i : AccountInfo} (valid : i.profile.IsValid) :
    Yields decode? i.encode i := by
  obtain ⟨profile, slot, read⟩ := (Profile.yields valid).required "profile"
  refine (Slots.cons slot .nil).yields (by decide) fun v fields => ?_
  simp only [List.map] at fields
  simp [decode?, fields, read]

theorem FieldKind.yields (k : FieldKind) :
    Yields (fun v => (v.constant? false).bind ofName?) (.str k.name) k :=
  ⟨_, rfl, by cases k <;> rfl⟩

theorem AccountField.yields {f : AccountField} (small : f.order < Numeric.wordCount32) :
    Yields decode? f.encode f := by
  obtain ⟨name, nameSlot, nameRead⟩ := (Json.yields_str f.name).required "name"
  obtain ⟨displayName, displaySlot, displayRead⟩ :=
    (Json.yields_str f.displayName).required "display_name"
  obtain ⟨placeholder, placeholderSlot, placeholderRead⟩ :=
    (Json.yields_str f.placeholder).required "placeholder"
  obtain ⟨isRequired, requiredSlot, requiredRead⟩ :=
    (Json.yields_bool f.isRequired).required "required"
  obtain ⟨kind, kindSlot, kindRead⟩ := f.kind.yields.required "kind"
  obtain ⟨order, orderSlot, orderRead⟩ := (Json.yields_natBelow small).required "order"
  refine (Slots.cons nameSlot (.cons displaySlot (.cons placeholderSlot
    (.cons requiredSlot (.cons kindSlot (.cons orderSlot .nil)))))).yields (by decide)
      fun v fields => ?_
  simp only [List.map] at fields
  simp [decode?, fields, nameRead, displayRead, placeholderRead, requiredRead,
    kindRead, orderRead]

def AccountSchema.IsValid (s : AccountSchema) : Prop :=
  ∀ f ∈ s.fields, f.order < Numeric.wordCount32

theorem AccountSchema.yields {s : AccountSchema} (valid : s.IsValid) :
    Yields decode? s.encode s := by
  obtain ⟨items, slot, read⟩ :=
    (Json.yields_list fun f member => AccountField.yields (valid f member)).required "fields"
  refine (Slots.cons slot .nil).yields (by decide) fun v fields => ?_
  simp only [List.map] at fields
  simp [decode?, fields, read]

structure ConnectorMetadata.IsValid (m : ConnectorMetadata) : Prop where
  annotations : m.annotations.IsValid
  accountSchema : ∀ s ∈ m.accountSchema, s.IsValid

theorem ConnectorMetadata.yields {m : ConnectorMetadata} (valid : m.IsValid) :
    Yields decode? m.encode m := by
  obtain ⟨displayName, nameSlot, nameRead⟩ :=
    (Json.yields_str m.displayName).required "display_name"
  obtain ⟨description, descriptionSlot, descriptionRead⟩ :=
    (Json.yields_str m.description).required "description"
  obtain ⟨annotations, noteSlot, noteRead⟩ := Annotations.fills valid.annotations
  obtain ⟨schema, schemaSlot, schemaRead⟩ :=
    Json.fills_optional m.accountSchema
      (fun s member => AccountSchema.yields (valid.accountSchema s member)) rfl
      "account_creation_schema"
  refine (Slots.cons nameSlot (.cons descriptionSlot (.cons noteSlot
    (.cons schemaSlot .nil)))).yields (by decide) fun v fields => ?_
  simp only [List.map] at fields
  simp [decode?, fields, nameRead, descriptionRead, noteRead, schemaRead]

theorem ChangeEvent.yields {e : ChangeEvent} (valid : e.details.IsValid) :
    Yields decode? e.encode e := by
  obtain ⟨eventId, eventSlot, eventRead⟩ := (Json.yields_str e.eventId).required "event_id"
  obtain ⟨resourceId, resourceSlot, resourceRead⟩ := e.resourceId.yields.required "resource_id"
  obtain ⟨details, detailsSlot, detailsRead⟩ :=
    (Profile.yields valid).orElse .empty "details"
  refine (Slots.cons eventSlot (.cons resourceSlot (.cons detailsSlot .nil))).yields (by decide)
    fun v fields => ?_
  simp only [List.map] at fields
  simp [decode?, fields, eventRead, resourceRead, detailsRead]

/-- Whatever is stored is read back: resources of every trait, their types, entitlements, grants,
annotations, notices of changes, the two sides of creating an account, and what a connector says of
itself. -/
theorem catalog_read_back :
    (∀ r : Resource, r.IsValid → Yields Resource.decode? r.encode r) ∧
    (∀ t : ResourceType, t.annotations.IsValid → Yields ResourceType.decode? t.encode t) ∧
    (∀ e : Entitlement, e.annotations.IsValid → Yields Entitlement.decode? e.encode e) ∧
    (∀ g : Grant, g.IsValid → Yields Grant.decode? g.encode g) ∧
    (∀ as : Annotations, as.IsValid → Yields Annotations.decode? as.encode as) ∧
    (∀ e : ChangeEvent, e.details.IsValid → Yields ChangeEvent.decode? e.encode e) ∧
    (∀ o : CredentialOptions, o.IsValid → Yields CredentialOptions.decode? o.encode o) ∧
    (∀ i : AccountInfo, i.profile.IsValid → Yields AccountInfo.decode? i.encode i) ∧
    (∀ m : ConnectorMetadata, m.IsValid → Yields ConnectorMetadata.decode? m.encode m) :=
  ⟨fun _ valid => Resource.yields valid, fun _ valid => ResourceType.yields valid,
    fun _ valid => Entitlement.yields valid, fun _ valid => Grant.yields valid,
    fun _ valid => Annotations.yields valid, fun _ valid => ChangeEvent.yields valid,
    fun _ valid => CredentialOptions.yields valid, fun _ valid => AccountInfo.yields valid,
    fun _ valid => ConnectorMetadata.yields valid⟩

/-! A user whose profile has a value of every kind, with an annotation of every kind. -/

namespace Stored

def entries : List (String × ProfileValue) :=
  [("active", .bool true), ("factor", .float ⟨0x3ff0000000000000⟩), ("level", .int (-4200)),
    ("manager", .null), ("name", .text "Ada"), ("tags", .list [.int 1, .list [.text "a", .null]]),
    ("more", .object [("a", .arr [.nat 18446744073709551615, .null]), ("b", .obj [])])]

def profile : Profile := .ofEntries entries

theorem profile_isValid : profile.IsValid := by
  have each : ∀ e ∈ entries, e.2.IsValid := by
    simp only [entries, List.forall_mem_cons]
    refine ⟨.bool true, .float (by decide), .int (by decide), .null, .text "Ada", .list ?_,
      .object rfl, fun e member => nomatch member⟩
    simp only [List.forall_mem_cons]
    refine ⟨.int (by decide), .list ?_, fun v member => nomatch member⟩
    simp only [List.forall_mem_cons]
    exact ⟨.text "a", .null, fun v member => nomatch member⟩
  exact fun e member => each e (Keyed.mem_ofList member)

/-- The last moment of a day that had a leap second. -/
def moment : Instant := ⟨17166, 86399, 1999999999⟩

theorem moment_isValid : moment.IsValid := ⟨by decide +kernel, by decide, by decide⟩

def annotations : Annotations :=
  ⟨[.rateLimit ⟨600, -1, moment⟩, .eTag "v1", .eTagMetadata profile, .grantExpandable ["e1"] false,
    .rawId "00u1", .externalLink "acme.okta.com", .skipEntitlementsAndGrants, .eTag "v2"]⟩

theorem annotations_isValid : annotations.IsValid := by
  simp only [Annotations.IsValid, annotations, List.forall_mem_cons, Note.IsValid]
  exact ⟨⟨by decide, by decide, moment_isValid⟩, trivial, profile_isValid, trivial, trivial,
    trivial, trivial, trivial, fun a member => nomatch member⟩

def user : Resource where
  id := ⟨"user", "00u1"⟩
  displayName := "Ada"
  parent := some ⟨"group", "00g1"⟩
  traits := .user {
    profile, emails := [⟨"ada@acme.com", true⟩], status := some ⟨.enabled, "ACTIVE"⟩
    createdAt := some moment }
  annotations

theorem user_isValid : user.IsValid := by
  refine ⟨⟨profile_isValid, fun at_ member => ?_, fun at_ member => nomatch member⟩,
    annotations_isValid⟩
  cases member
  exact moment_isValid

def type : ResourceType := ⟨"user", "User", [.user, .role], annotations⟩

def entitlement : Entitlement :=
  { id := "group:00g1:member", resource := ⟨"group", "00g1"⟩, slug := "member",
    displayName := "Member", purpose := .permission, grantableTo := ["user"], annotations }

def grant : Grant :=
  { id := "group:00g1:member:user:00u1", entitlement, principal := user.id }

theorem grant_isValid : grant.IsValid :=
  ⟨annotations_isValid, fun _ member => nomatch member⟩

def metadata : ConnectorMetadata :=
  { displayName := "Okta", description := "", annotations
    accountSchema := some ⟨[⟨"email", "Email", "Email", true, .text, 4294967295⟩]⟩ }

theorem metadata_isValid : metadata.IsValid := by
  refine ⟨annotations_isValid, fun s member => ?_⟩
  cases member
  simp only [AccountSchema.IsValid, List.forall_mem_cons]
  exact ⟨by decide, fun f member => nomatch member⟩

end Stored

theorem catalog_read_back_of_stored :
    Yields Resource.decode? Stored.user.encode Stored.user ∧
    Yields ResourceType.decode? Stored.type.encode Stored.type ∧
    Yields Entitlement.decode? Stored.entitlement.encode Stored.entitlement ∧
    Yields Grant.decode? Stored.grant.encode Stored.grant ∧
    Yields Annotations.decode? Stored.annotations.encode Stored.annotations ∧
    Yields ChangeEvent.decode? (ChangeEvent.encode ⟨"e1", Stored.user.id, Stored.profile⟩)
      ⟨"e1", Stored.user.id, Stored.profile⟩ ∧
    Yields CredentialOptions.decode? (CredentialOptions.randomPassword 12).encode
      (.randomPassword 12) ∧
    Yields AccountInfo.decode? (AccountInfo.encode ⟨Stored.profile⟩) ⟨Stored.profile⟩ ∧
    Yields ConnectorMetadata.decode? Stored.metadata.encode Stored.metadata := by
  obtain ⟨resource, type, entitlement, grant, annotations, change, options, account, metadata⟩ :=
    catalog_read_back
  exact ⟨resource _ Stored.user_isValid, type _ Stored.annotations_isValid,
    entitlement _ Stored.annotations_isValid, grant _ Stored.grant_isValid,
    annotations _ Stored.annotations_isValid, change _ Stored.profile_isValid,
    options _ (show 12 < Numeric.wordCount64 by decide), account _ Stored.profile_isValid,
    metadata _ Stored.metadata_isValid⟩

end AccessCatalog
