import AccessCatalog.Proofs.Okta.GrantIdentity

/-! What the ids of entitlements and grants tell apart. An id is joined by colons from texts that may
have colons of their own. The type in front and the slug behind hold the resource of an entitlement
together. In the id of a grant it is held together only as long as the resource does not look like
another one with the slug and the type of a holder behind it. -/
namespace AccessCatalog

/-- The pieces of a text between its colons. -/
def pieces (s : String) : List (List Char) := Web.Form.splitAt ':' s.toList

theorem pieces_append (s t : String) : pieces (s ++ ":" ++ t) = pieces s ++ pieces t := by
  have colon : ":".toList = [':'] := rfl
  simp only [pieces, String.toList_append, colon, List.append_assoc, List.singleton_append,
    Web.Form.splitAt_append]

theorem pieces_plain {s : String} (plain : ':' ∉ s.toList) : pieces s = [s.toList] :=
  Web.Form.splitAt_of_not_mem plain

theorem flatMap_pieces (s : String) : (pieces s).flatMap (':' :: ·) = ':' :: s.toList :=
  Web.Form.flatMap_splitAt ':' s.toList

theorem pieces_inj {s t : String} : pieces s = pieces t ↔ s = t := by
  constructor
  · intro same
    have texts := (flatMap_pieces s).symm.trans ((congrArg _ same).trans (flatMap_pieces t))
    exact String.toList_inj.mp (List.cons.inj texts).2
  · rintro rfl
    rfl

/-- Where the same mark, followed by no second one, stands in two texts of pieces, it is at the same
place or one front has the mark and what follows it within. -/
theorem marked_eq {α : Type} {mark t t' : α} {front back front' back' : List α} (other : t ≠ mark)
    (other' : t' ≠ mark) (same : front ++ mark :: t :: back = front' ++ mark :: t' :: back') :
    front = front' ∧ t = t' ∧ back = back' ∨
      (∃ between, front' = front ++ mark :: t :: between ∧
        back = between ++ mark :: t' :: back') ∨
      ∃ between, front = front' ++ mark :: t' :: between ∧
        back' = between ++ mark :: t :: back := by
  have step : ∀ {d : List α} {t t' : α} {back back' : List α}, t ≠ mark →
      mark :: t :: back = d ++ mark :: t' :: back' →
      d = [] ∧ t = t' ∧ back = back' ∨
        ∃ between, d = mark :: t :: between ∧ back = between ++ mark :: t' :: back' := by
    intro d t t' back back' other cut
    match d, cut with
    | [], cut =>
      simp only [List.nil_append, List.cons.injEq, true_and] at cut
      exact .inl ⟨rfl, cut⟩
    | [_], cut =>
      simp only [List.singleton_append, List.cons.injEq] at cut
      exact absurd cut.2.1 other
    | _ :: _ :: between, cut =>
      simp only [List.cons_append, List.cons.injEq] at cut
      obtain ⟨rfl, rfl, rest⟩ := cut
      exact .inr ⟨between, rfl, rest⟩
  rcases List.append_eq_append_iff.mp same with ⟨d, rfl, cut⟩ | ⟨d, rfl, cut⟩
  · rcases step other cut with ⟨rfl, rfl, rfl⟩ | ⟨between, rfl, rest⟩
    · exact .inl ⟨(List.append_nil _).symm, rfl, rfl⟩
    · exact .inr (.inl ⟨between, rfl, rest⟩)
  · rcases step other' cut with ⟨rfl, rfl, rfl⟩ | ⟨between, rfl, rest⟩
    · exact .inl ⟨List.append_nil _, rfl, rfl⟩
    · exact .inr (.inr ⟨between, rfl, rest⟩)

theorem ResourceId.eq_of_parts {a b : ResourceId} (type : a.resourceType = b.resourceType)
    (resource : a.resource = b.resource) : a = b := by
  cases a
  cases b
  cases type
  cases resource
  rfl

/-- An entitlement of a group or of a role, named after it. -/
structure Entitlement.Named (e : Entitlement) : Prop where
  id : e.id = entitlementId e.resource e.slug
  kind : e.resource.resourceType = "group" ∧ e.slug = "member" ∨
    e.resource.resourceType = "role" ∧ e.slug = "assigned"

/-- A grant of such an entitlement to a user or to a group, named after both. -/
structure Grant.Named (g : Grant) : Prop where
  entitlement : g.entitlement.Named
  id : g.id = g.entitlement.id ++ ":" ++ g.principal.text
  holder : g.principal.resourceType = "user" ∨ g.principal.resourceType = "group"

/-- Whether two grants give the same entitlement to the same holder. -/
structure Grant.Agrees (g h : Grant) : Prop where
  resource : g.entitlement.resource = h.entitlement.resource
  slug : g.entitlement.slug = h.entitlement.slug
  principal : g.principal = h.principal

/-- Whether the resource of one grant is that of the other with slug and type of the holder behind it,
and perhaps more, and the holder of the other starts with the rest. -/
def Grant.Straddles (g h : Grant) : Prop :=
  g.entitlement.resource.resourceType = h.entitlement.resource.resourceType ∧
  ∃ rest : String,
    h.entitlement.resource.resource =
      g.entitlement.resource.resource ++ ":" ++ g.entitlement.slug ++ ":" ++
        g.principal.resourceType ++ rest ∧
    ":" ++ g.principal.resource = rest ++ ":" ++ h.entitlement.slug ++ ":" ++ h.principal.text

namespace Entitlement.Named

variable {e f : Entitlement}

theorem id_eq (named : e.Named) :
    e.id = e.resource.resourceType ++ ":" ++ e.resource.resource ++ ":" ++ e.slug := named.id

theorem pieces_id (named : e.Named) :
    pieces e.id =
      e.resource.resourceType.toList :: (pieces e.resource.resource ++ [e.slug.toList]) := by
  have type : ':' ∉ e.resource.resourceType.toList := by
    rcases named.kind with ⟨type, -⟩ | ⟨type, -⟩ <;> rw [type] <;> decide
  have slug : ':' ∉ e.slug.toList := by
    rcases named.kind with ⟨-, slug⟩ | ⟨-, slug⟩ <;> rw [slug] <;> decide
  rw [named.id_eq, pieces_append, pieces_append, pieces_plain type, pieces_plain slug]
  rfl

/-- Groups have one slug and roles the other. -/
theorem slug_eq (named : e.Named) (named' : f.Named)
    (type : e.resource.resourceType = f.resource.resourceType) : e.slug = f.slug := by
  rcases named.kind with ⟨type₁, slug₁⟩ | ⟨type₁, slug₁⟩ <;>
    rcases named'.kind with ⟨type₂, slug₂⟩ | ⟨type₂, slug₂⟩
  · rw [slug₁, slug₂]
  · rw [type₁, type₂] at type
    exact absurd type (by decide)
  · rw [type₁, type₂] at type
    exact absurd type (by decide)
  · rw [slug₁, slug₂]

theorem id_inj (named : e.Named) (named' : f.Named) (same : e.id = f.id) :
    e.resource = f.resource ∧ e.slug = f.slug := by
  have cut := congrArg pieces same
  rw [named.pieces_id, named'.pieces_id] at cut
  obtain ⟨type, rest⟩ := List.cons.inj cut
  have type := String.toList_inj.mp type
  have resource := pieces_inj.mp (List.append_inj_left' rest rfl)
  exact ⟨ResourceId.eq_of_parts type resource, slug_eq named named' type⟩

end Entitlement.Named

namespace Grant

variable {g h : Grant}

theorem Named.id_eq (named : g.Named) :
    g.id = g.entitlement.resource.resourceType ++ ":" ++ g.entitlement.resource.resource ++ ":" ++
      g.entitlement.slug ++ ":" ++ g.principal.resourceType ++ ":" ++ g.principal.resource := by
  rw [named.id, named.entitlement.id_eq, ResourceId.text]
  simp only [String.append_assoc]

theorem Named.pieces_id (named : g.Named) :
    pieces g.id = g.entitlement.resource.resourceType.toList ::
      (pieces g.entitlement.resource.resource ++
        g.entitlement.slug.toList :: g.principal.resourceType.toList ::
          pieces g.principal.resource) := by
  have holder : ':' ∉ g.principal.resourceType.toList := by
    rcases named.holder with holder | holder <;> rw [holder] <;> decide
  rw [named.id, pieces_append, named.entitlement.pieces_id, ResourceId.text, pieces_append,
    pieces_plain holder]
  simp

/-- No type of a holder is a slug. -/
theorem Named.holder_ne_slug (named : g.Named) (named' : h.Named) :
    g.principal.resourceType.toList ≠ h.entitlement.slug.toList := by
  rcases named.holder with holder | holder <;>
    rcases named'.entitlement.kind with ⟨-, slug⟩ | ⟨-, slug⟩ <;> rw [holder, slug] <;> decide

theorem Agrees.id_eq (agrees : g.Agrees h) (named : g.Named) (named' : h.Named) : g.id = h.id := by
  rw [named.id_eq, named'.id_eq, agrees.resource, agrees.slug, agrees.principal]

theorem Straddles.id_eq (straddles : g.Straddles h) (named : g.Named) (named' : h.Named) :
    g.id = h.id := by
  obtain ⟨type, rest, resource, principal⟩ := straddles
  calc g.id
      = g.entitlement.resource.resourceType ++ ":" ++ g.entitlement.resource.resource ++ ":" ++
          g.entitlement.slug ++ ":" ++ g.principal.resourceType ++
            (":" ++ g.principal.resource) := by rw [named.id_eq, String.append_assoc]
    _ = h.entitlement.resource.resourceType ++ ":" ++ (g.entitlement.resource.resource ++ ":" ++
          g.entitlement.slug ++ ":" ++ g.principal.resourceType ++ rest) ++ ":" ++
            h.entitlement.slug ++ ":" ++ h.principal.text := by
        rw [principal, type]
        simp only [String.append_assoc]
    _ = h.id := by
        rw [← resource, named'.id_eq, ResourceId.text]
        simp only [String.append_assoc]

/-- Pieces between two marks, as text. -/
theorem Straddles.of_pieces
    (type : g.entitlement.resource.resourceType = h.entitlement.resource.resourceType)
    {between : List (List Char)}
    (resource : pieces h.entitlement.resource.resource =
      pieces g.entitlement.resource.resource ++
        g.entitlement.slug.toList :: g.principal.resourceType.toList :: between)
    (principal : pieces g.principal.resource =
      between ++ h.entitlement.slug.toList :: h.principal.resourceType.toList ::
        pieces h.principal.resource) : g.Straddles h := by
  have colon : ":".toList = [':'] := rfl
  refine ⟨type, String.ofList (between.flatMap (':' :: ·)), ?_, ?_⟩
  · have text := congrArg (List.flatMap (':' :: ·)) resource
    rw [List.flatMap_append, List.flatMap_cons, List.flatMap_cons, flatMap_pieces,
      flatMap_pieces] at text
    refine String.toList_inj.mp ((List.cons.inj text).2.trans ?_)
    simp [String.toList_append, colon]
  · have text := congrArg (List.flatMap (':' :: ·)) principal
    rw [List.flatMap_append, List.flatMap_cons, List.flatMap_cons, flatMap_pieces,
      flatMap_pieces] at text
    refine String.toList_inj.mp ?_
    simp [String.toList_append, colon, ResourceId.text, text]

theorem Named.id_eq_iff (named : g.Named) (named' : h.Named) :
    g.id = h.id ↔ g.Agrees h ∨ g.Straddles h ∨ h.Straddles g := by
  constructor
  · intro same
    have cut := congrArg pieces same
    rw [named.pieces_id, named'.pieces_id] at cut
    obtain ⟨types, rest⟩ := List.cons.inj cut
    have type := String.toList_inj.mp types
    have slug := Entitlement.Named.slug_eq named.entitlement named'.entitlement type
    rw [← slug] at rest
    rcases marked_eq (named.holder_ne_slug named) (slug ▸ named'.holder_ne_slug named') rest with
      ⟨resource, holder, principal⟩ | ⟨between, resource, principal⟩ |
        ⟨between, resource, principal⟩
    · have resource := pieces_inj.mp resource
      have holder := String.toList_inj.mp holder
      have principal := pieces_inj.mp principal
      exact .inl ⟨ResourceId.eq_of_parts type resource, slug,
        ResourceId.eq_of_parts holder principal⟩
    · exact .inr (.inl (.of_pieces type resource (slug ▸ principal)))
    · exact .inr (.inr (.of_pieces type.symm (slug ▸ resource) principal))
  · rintro (agrees | straddles | straddles)
    · exact agrees.id_eq named named'
    · exact straddles.id_eq named named'
    · exact (straddles.id_eq named' named).symm

/-- Where one grant straddles another, the resource of one and the holder of the other have colons. -/
theorem Straddles.colons (straddles : g.Straddles h) :
    ':' ∈ h.entitlement.resource.resource.toList ∧ ':' ∈ g.principal.resource.toList := by
  obtain ⟨-, rest, resource, principal⟩ := straddles
  have colon : ":".toList = [':'] := rfl
  constructor
  · rw [resource]
    simp [String.toList_append, colon]
  · have text := congrArg String.toList principal
    simp only [String.toList_append, colon, List.append_assoc, List.singleton_append] at text
    have behind : ':' ∈ (':' :: g.principal.resource.toList).tail := by
      rw [text]
      cases rest.toList <;> simp [ResourceId.text, String.toList_append, colon]
    exact behind

end Grant

namespace Okta

/-- The grants on the pages of groups and of roles. -/
inductive Given : Grant → Prop where
  | ofGroup {σ : Type} {s : Setting σ} {group : Resource} {r : PageRequest} {page : Page Grant}
      {session after : Session σ} {g : Grant} : group.id.resourceType = groupType.id →
      Groups.grants s group r session = (.ok page, after) → g ∈ page.items → Given g
  | ofRole {σ : Type} {s : Setting σ} {role : Resource} {r : PageRequest} {page : Page Grant}
      {session after : Session σ} {g : Grant} : role.id.resourceType = roleType.id →
      Roles.grants s role r session = (.ok page, after) → g ∈ page.items → Given g

/-- The entitlements of groups and of roles, on their pages and in grants. -/
inductive Offered : Entitlement → Prop where
  | ofGroup {group : Resource} {e : Entitlement} : group.id.resourceType = groupType.id →
      e ∈ (Groups.entitlements group).items → Offered e
  | ofRole {role : Resource} {e : Entitlement} : role.id.resourceType = roleType.id →
      e ∈ (Roles.entitlements role).items → Offered e
  | ofGrant {g : Grant} : Given g → Offered g.entitlement

theorem Groups.memberGrant_named {group : Resource} (isGroup : group.id.resourceType = "group")
    (userId : String) : (memberGrant group userId).Named where
  entitlement := ⟨rfl, .inl ⟨isGroup, rfl⟩⟩
  id := rfl
  holder := .inl rfl

theorem Groups.roleGrant_named {group : Resource} (isGroup : group.id.resourceType = "group")
    (expands : Bool) (a : RoleAssignment) : (roleGrant group expands a).Named := by
  cases expands <;> exact ⟨⟨rfl, .inr ⟨rfl, rfl⟩⟩, rfl, .inr isGroup⟩

theorem Given.named {g : Grant} (given : Given g) : g.Named := by
  cases given with
  | ofGroup isGroup called member =>
    obtain ⟨bag, profile, -, -, ⟨-, inPhase⟩ | ⟨-, inPhase⟩⟩ := Groups.grants_phase called
    · cases empty : Groups.isEmptyCount (profile.int? GroupRecord.usersCountKey) with
      | true =>
        rw [(Groups.memberPage_passed empty inPhase).1] at member
        cases member
      | false =>
        obtain ⟨users, _, -, items, -⟩ := Groups.memberPage_asked empty inPhase
        rw [items] at member
        obtain ⟨userId, -, rfl⟩ := List.mem_map.mp member
        exact Groups.memberGrant_named isGroup userId
    · rcases Groups.rolePage_items inPhase with ⟨_, _, -, items⟩ | ⟨_, -, -, none⟩
      · rw [items] at member
        obtain ⟨a, -, rfl⟩ := List.mem_map.mp member
        exact Groups.roleGrant_named isGroup _ a
      · rw [none] at member
        cases member
  | ofRole isRole called member =>
    obtain ⟨users, items⟩ := Roles.grants_items called
    rw [items] at member
    obtain ⟨userId, -, rfl⟩ := List.mem_map.mp member
    exact ⟨⟨rfl, .inr ⟨isRole, rfl⟩⟩, rfl, .inl rfl⟩

theorem Offered.named {e : Entitlement} (offered : Offered e) : e.Named := by
  cases offered with
  | ofGroup isGroup member =>
    cases List.mem_singleton.mp member
    exact ⟨rfl, .inl ⟨isGroup, rfl⟩⟩
  | ofRole isRole member =>
    cases List.mem_singleton.mp member
    exact ⟨rfl, .inr ⟨isRole, rfl⟩⟩
  | ofGrant given => exact given.named.entitlement

/-- An entitlement is known by its id. Two grants have one id just when they agree or when one
straddles the other, and so never differ in more than their notes where the ids of the resources have no
colon, or those of the holders. -/
theorem grants_told_apart :
    (∀ e f : Entitlement, Offered e → Offered f → e.id = f.id →
      e.resource = f.resource ∧ e.slug = f.slug) ∧
    (∀ g h : Grant, Given g → Given h →
      (g.id = h.id ↔ g.Agrees h ∨ g.Straddles h ∨ h.Straddles g)) ∧
    ∀ g h : Grant, Given g → Given h →
      (':' ∉ g.entitlement.resource.resource.toList ∧
          ':' ∉ h.entitlement.resource.resource.toList ∨
        ':' ∉ g.principal.resource.toList ∧ ':' ∉ h.principal.resource.toList) →
      g.id = h.id → g.Agrees h := by
  refine ⟨?entitlements, ?grants, ?plain⟩
  case entitlements =>
    intro e f offered offered' same
    exact offered.named.id_inj offered'.named same
  case grants =>
    intro g h given given'
    exact given.named.id_eq_iff given'.named
  case plain =>
    intro g h given given' plain same
    rcases (given.named.id_eq_iff given'.named).mp same with agrees | straddles | straddles
    · exact agrees
    · have colons := straddles.colons
      rcases plain with ⟨-, plain⟩ | ⟨plain, -⟩
      · exact absurd colons.1 plain
      · exact absurd colons.2 plain
    · have colons := straddles.colons
      rcases plain with ⟨plain, -⟩ | ⟨-, plain⟩
      · exact absurd colons.1 plain
      · exact absurd colons.2 plain

/-! Members of three groups, of which one is called as if it were a member of another. -/

def groupCalled (id : String) : Resource := ({ id } : GroupRecord).resource

def memberCalled (id : String) : Web.Response := ⟨200, [], "[\x7b\"id\":\"" ++ id ++ "\"\x7d]"⟩

/-- The ids of a grant and of its entitlement, the resource, and the holder. -/
def partsOf (g : Grant) : String × String × ResourceId × ResourceId :=
  (g.id, g.entitlement.id, g.entitlement.resource, g.principal)

/-- The grant to a member that a group lists. -/
def GivenMember (groupId userId id : String) (g : Grant) : Prop :=
  Given g ∧ partsOf g = (id, "group:" ++ groupId ++ ":member", ⟨"group", groupId⟩, ⟨"user", userId⟩)

theorem given_member (groupId userId id : String)
    (ends : (Groups.grants (.scripted .acme) (groupCalled groupId) {}
      (Session.start .acme [memberCalled userId])).1.toOption.map
        (fun page => page.items.map partsOf) =
          some [(id, "group:" ++ groupId ++ ":member", ⟨"group", groupId⟩, ⟨"user", userId⟩)]) :
    ∃ g, GivenMember groupId userId id g := by
  obtain ⟨page, after, called, parts⟩ := Call.ok_of_toOption ends
  obtain ⟨g, items, single⟩ := List.map_eq_singleton_iff.mp parts
  have isGroup : (groupCalled groupId).id.resourceType = groupType.id :=
    congrArg ResourceId.resourceType (GroupRecord.resource_id _)
  exact ⟨g, .ofGroup isGroup called (items ▸ List.mem_singleton_self g), single⟩

theorem GivenMember.facts {groupId userId id : String} {g : Grant}
    (given : GivenMember groupId userId id g) :
    g.id = id ∧ g.entitlement.id = "group:" ++ groupId ++ ":member" ∧
      g.entitlement.resource = ⟨"group", groupId⟩ ∧ g.principal = ⟨"user", userId⟩ := by
  simpa only [partsOf, Prod.mk.injEq] using given.2

theorem grants_told_apart_of_members : ∃ g h other : Grant,
    GivenMember "g1" "u:1" "group:g1:member:user:u:1" g ∧
    GivenMember "g1" "u:1" "group:g1:member:user:u:1" h ∧
    GivenMember "g2" "u:1" "group:g2:member:user:u:1" other ∧
    g.entitlement.slug = h.entitlement.slug ∧ g.Agrees h ∧
    ¬g.Agrees other ∧ ¬g.Straddles other := by
  obtain ⟨entitlements, grants, plain⟩ := grants_told_apart
  obtain ⟨g, given⟩ := given_member "g1" "u:1"
    "group:g1:member:user:u:1" (by decide +kernel)
  obtain ⟨other, given'⟩ := given_member "g2" "u:1"
    "group:g2:member:user:u:1" (by decide +kernel)
  obtain ⟨id, -, resource, -⟩ := given.facts
  have differ : g.id ≠ other.id := by
    rw [id, given'.facts.1]
    decide
  have noColon : ':' ∉ g.entitlement.resource.resource.toList := by
    rw [resource]
    decide
  refine ⟨g, g, other, given, given, given', ?_, ?_, ?_, ?_⟩
  · exact (entitlements _ _ (.ofGrant given.1) (.ofGrant given.1) rfl).2
  · exact plain g g given.1 given.1 (.inl ⟨noColon, noColon⟩) rfl
  · exact fun agrees => differ ((grants g other given.1 given'.1).mpr (.inl agrees))
  · exact fun straddles => differ ((grants g other given.1 given'.1).mpr (.inr (.inl straddles)))

/-- The id of a grant does not say where the group ends and the member begins. -/
theorem member_ids_collide : ∃ g h : Grant,
    GivenMember "g" "x:member:user:y" "group:g:member:user:x:member:user:y" g ∧
    GivenMember "g:member:user:x" "y" "group:g:member:user:x:member:user:y" h ∧
    g.id = h.id ∧ g.entitlement.resource ≠ h.entitlement.resource ∧
    g.principal ≠ h.principal := by
  obtain ⟨g, given⟩ := given_member "g" "x:member:user:y"
    "group:g:member:user:x:member:user:y" (by decide +kernel)
  obtain ⟨h, given'⟩ := given_member "g:member:user:x" "y"
    "group:g:member:user:x:member:user:y" (by decide +kernel)
  obtain ⟨id, -, resource, principal⟩ := given.facts
  obtain ⟨id', -, resource', principal'⟩ := given'.facts
  refine ⟨g, h, given, given', id.trans id'.symm, ?_, ?_⟩
  · rw [resource, resource']
    decide
  · rw [principal, principal']
    decide

end Okta
end AccessCatalog
