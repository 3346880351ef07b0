import AccessCatalog.Proofs.Okta.Listings

/-! Tokens of one listing that are handed to another. The listings with phases refuse a token whose
active frame is of none of them, and send nothing; the listings with one frame do not look at its
type, and go on from the cursor of whatever frame is active. -/
namespace AccessCatalog

/-- A page without the token that continues it. -/
def Page.contents {α : Type} (p : Page α) : List α × Annotations := (p.items, p.annotations)

/-- A token is read and has this frame on top of its bag. -/
def Bag.Leads (token : String) (f : PageState) : Prop :=
  ∃ b, Bag.ofToken token = .ok b ∧ b.active = some f

namespace Bag

variable {token : String} {f : PageState}

theorem Leads.resume (leads : Leads token f) (first : PageState) :
    ∃ b, Bag.resume token first = .ok b ∧ b.active = some f ∧ b.cursor = f.cursor := by
  obtain ⟨b, read, active⟩ := leads
  refine ⟨b, ?_, active, ?_⟩
  · rw [Bag.resume, read]
    simp [bind, Except.bind, isExhausted, active]
  · simp [cursor, active]

theorem Leads.phases (leads : Leads token f) (phases : List String) :
    ∃ b, Okta.Roles.resume token phases = .ok b ∧ b.resourceType = f.resourceType := by
  obtain ⟨b, read, active⟩ := leads
  refine ⟨b, ?_, ?_⟩
  · rw [Okta.Roles.resume, read]
    simp [bind, Except.bind, isExhausted, active]
  · simp [resourceType, active]

theorem leads_single (resourceType cursor : String) :
    Leads (single resourceType cursor).token { resourceType, cursor } :=
  ⟨_, (ofToken_single resourceType cursor).2, rfl⟩

end Bag

namespace Okta

variable {σ α : Type}

/-- Moving the active frame takes part in the token of a page only. -/
theorem contents_next {b : Bag} {f : PageState} (active : b.active = some f) (cursor : String)
    {rest : Bag → Call σ Fault (Page α)} {contents : Call σ Fault (List α × Annotations)}
    (same : ∀ moved, Page.contents <$> rest moved = contents) :
    Page.contents <$> (Call.ofExcept (b.next cursor) >>= rest) = contents := by
  rw [Call.ofExcept_bind (Bag.next_eq active cursor)]
  exact same _

variable {s : Setting σ} {size : Nat} {token : String} {f : PageState}

theorem Users.list_contents (leads : Bag.Leads token f) :
    Page.contents <$> Users.list s ⟨size, token⟩ =
      if s.tenant.loweredEmailDomains.isEmpty then pure ([], .empty)
      else (do
        let (users, info) ← (s.get withoutCredentialsType (Json.list? UserRecord.decode?) path
          [("limit", Nat.repr (s.tenant.pageLimit ⟨size, ""⟩)), ("after", f.cursor),
            ("search", "status pr")]).within "list users"
        pure ((users.filter (·.inScope s.tenant.loweredEmailDomains)).map
          (·.resource s.tenant.skipSecondaryEmails), info.annotations)) := by
  obtain ⟨b, read, active, cursor_eq⟩ := leads.resume { resourceType := "user" }
  unfold Users.list
  dsimp only
  split
  · rfl
  · rw [Call.ofExcept_bind read, map_bind, cursor_eq]
    refine congrArg _ (funext fun fetched => ?_)
    exact contents_next active _ fun _ => rfl

theorem Groups.list_contents (leads : Bag.Leads token f) :
    Page.contents <$> Groups.list s ⟨size, token⟩ = (do
      let (groups, info) ← (s.get jsonType (Json.list? GroupRecord.decode?) path
        [("limit", Nat.repr (s.tenant.pageLimit ⟨size, ""⟩)), ("after", f.cursor),
          ("expand", "stats")]).within "list groups"
      pure (groups.map GroupRecord.resource, info.annotations)) := by
  obtain ⟨b, read, active, cursor_eq⟩ := leads.resume { resourceType := "group" }
  rw [Groups.list, Call.ofExcept_bind read, map_bind, cursor_eq]
  refine congrArg _ (funext fun fetched => ?_)
  exact contents_next active _ fun _ => rfl

theorem Roles.grants_contents (role : Resource) (leads : Bag.Leads token f) :
    Page.contents <$> Roles.grants s role ⟨size, token⟩ = (do
      let (page, info) ← (s.get jsonType (LinkedPage.decode? "value" decodeAssignee?) assigneesPath
        [("limit", Nat.repr (s.tenant.pageLimit ⟨size, ""⟩)), ("after", f.cursor)]).within
          "list users with role assignments"
      let users ← holders s role.id.resource page.items
      pure (users.map fun userId => Grant.ofAssignment role Role.assignedSlug ⟨"user", userId⟩,
        info.annotations)) := by
  obtain ⟨b, read, active, cursor_eq⟩ := leads.resume { resourceType := "user" }
  rw [Roles.grants, Call.ofExcept_bind read, map_bind, cursor_eq]
  refine congrArg _ (funext fun fetched => ?_)
  refine contents_next active _ fun _ => ?_
  rw [map_bind]
  rfl

/-! Tokens that are refused, and tokens that are taken. -/

/-- A type that is neither of the phases is refused, once the resource was seen to be a group. -/
theorem Groups.grants_foreign (leads : Bag.Leads token f) (foreign : f.resourceType ∉ phases)
    (group : Resource) (session : Session σ) :
    Groups.grants s group ⟨size, token⟩ session = (group.groupProfile.bind fun _ =>
      .error (.invalidToken ("invalid group grant phase: " ++ f.resourceType)), session) := by
  obtain ⟨b, read, type_eq⟩ := leads.phases phases
  have noUsers : b.resourceType ≠ userPhase := fun same =>
    foreign (List.mem_cons.mpr (.inl (type_eq ▸ same)))
  have noRoles : b.resourceType ≠ rolePhase := fun same =>
    foreign (List.mem_cons_of_mem _ (List.mem_singleton.mpr (type_eq ▸ same)))
  rw [grants, Call.ofExcept_bind read]
  cases isGroup : group.groupProfile with
  | error fault => rfl
  | ok profile =>
    rw [Call.ofExcept_bind rfl, if_neg noUsers, if_neg noRoles, type_eq]
    rfl

theorem Roles.list_foreign (leads : Bag.Leads token f)
    (foreign : f.resourceType ∉ [standardPhase, customPhase]) (session : Session σ) :
    Roles.list s ⟨size, token⟩ session =
      (.error (.invalidToken ("invalid role list phase: " ++ f.resourceType)), session) := by
  obtain ⟨b, read, type_eq⟩ := leads.phases (phases s.tenant)
  have noStandard : b.resourceType ≠ standardPhase := fun same =>
    foreign (List.mem_cons.mpr (.inl (type_eq ▸ same)))
  have noCustom : b.resourceType ≠ customPhase := fun same =>
    foreign (List.mem_cons_of_mem _ (List.mem_singleton.mpr (type_eq ▸ same)))
  rw [list, Call.ofExcept_bind read, if_neg noStandard, if_neg noCustom, type_eq]
  rfl

/-- The grants of a group and the roles refuse a token of another type and leave the session as it
was. The users, the groups and the holders of a role take any token as one of their own with the
same cursor, whatever the type of its active frame is. -/
theorem foreign_tokens (s : Setting σ) (size : Nat) (leads : Bag.Leads token f)
    (session : Session σ) :
    (f.resourceType ∉ Groups.phases → ∀ group profile, group.groupProfile = .ok profile →
      Groups.grants s group ⟨size, token⟩ session =
        (.error (.invalidToken ("invalid group grant phase: " ++ f.resourceType)), session)) ∧
    (f.resourceType ∉ Groups.phases → ∀ group fault, group.groupProfile = .error fault →
      Groups.grants s group ⟨size, token⟩ session = (.error fault, session)) ∧
    (f.resourceType ∉ [Roles.standardPhase, Roles.customPhase] →
      Roles.list s ⟨size, token⟩ session =
        (.error (.invalidToken ("invalid role list phase: " ++ f.resourceType)), session)) ∧
    (Page.contents <$> Users.list s ⟨size, token⟩) session =
      (Page.contents <$> Users.list s ⟨size, (Bag.single "user" f.cursor).token⟩) session ∧
    (Page.contents <$> Groups.list s ⟨size, token⟩) session =
      (Page.contents <$> Groups.list s ⟨size, (Bag.single "group" f.cursor).token⟩) session ∧
    ∀ role, (Page.contents <$> Roles.grants s role ⟨size, token⟩) session =
      (Page.contents <$> Roles.grants s role ⟨size, (Bag.single "user" f.cursor).token⟩)
        session := by
  have own (resourceType : String) := Bag.leads_single resourceType f.cursor
  refine ⟨?_, ?_, ?_, ?_, ?_, ?_⟩
  · intro foreign group profile isGroup
    rw [Groups.grants_foreign leads foreign, isGroup]
    rfl
  · intro foreign group fault noGroup
    rw [Groups.grants_foreign leads foreign, noGroup]
    rfl
  · exact fun foreign => Roles.list_foreign leads foreign session
  · rw [Users.list_contents leads, Users.list_contents (own "user")]
  · rw [Groups.list_contents leads, Groups.list_contents (own "group")]
  · intro role
    rw [Roles.grants_contents role leads, Roles.grants_contents role (own "user")]

def groupToken : String := (Bag.single "group" "00g9").token

def oneReply : Session (List Web.Response) := Session.start .acme [⟨200, [], "[]"⟩]

theorem foreign_tokens_of_group : Bag.Leads groupToken ⟨"group", "00g9", ""⟩ ∧
    Roles.list (Setting.scripted .acme) ⟨0, groupToken⟩ oneReply =
      (.error (.invalidToken "invalid role list phase: group"), oneReply) := by
  have leads := Bag.leads_single "group" "00g9"
  obtain ⟨_, _, refused, _⟩ := foreign_tokens (Setting.scripted .acme) 0 leads oneReply
  exact ⟨leads, refused (by decide)⟩

/-- The users go on from the cursor of a listing of groups. -/
theorem group_token_taken : Bag.Leads groupToken ⟨"group", "00g9", ""⟩ ∧
    Tenant.acme.loweredEmailDomains ≠ [] ∧
    (Users.list (Setting.scripted .acme) ⟨0, groupToken⟩ oneReply).1.toOption.isSome = true ∧
    (Users.list (Setting.scripted .acme) ⟨0, groupToken⟩ oneReply).2.sent.map
      (fun request => (request.url.path, request.values "after")) =
        [(.segments ["api".toList, "v1".toList, "users".toList], ["00g9"])] := by
  refine ⟨Bag.leads_single "group" "00g9", by decide, ?_⟩
  decide +kernel

end Okta
end AccessCatalog
