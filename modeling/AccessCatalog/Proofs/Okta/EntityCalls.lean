import AccessCatalog.Proofs.Okta.KeptBodies

/-! Calls on single resources and on memberships, one after the other. Each of them is nothing to
ask, one look-up, or one change of membership. -/
namespace AccessCatalog.Okta

open Web (Url Method Request Reply Log)

variable {σ α β ε : Type}

/-! Calls on single resources and memberships. -/

inductive EntityCall where
  | getUser (id : String)
  | getGroup (id : String)
  | getRole (id : ResourceId)
  | grant (principal : Resource) (entitlement : Entitlement)
  | revoke (held : Grant)

inductive EntityResult where
  | found (resource : Option Resource)
  | changed (annotations : Annotations)

/-- What a call comes to at a tenant: nothing to ask, a look-up, or a change of membership. -/
inductive Plan : Type 1 where
  | settled (result : Except Fault EntityResult)
  | inquiry {α : Type} (i : Inquiry α)
  | change (method : Method) (groupId userId operation : String)

def Plan.run (s : Setting σ) : Plan → Call σ Fault EntityResult
  | settled result => Call.ofExcept result
  | inquiry i => .found <$> i.run s
  | change method groupId userId operation =>
    .changed <$> Membership.change s method groupId userId operation

namespace EntityCall

def run (s : Setting σ) : EntityCall → Call σ Fault EntityResult
  | getUser id => .found <$> Users.get s id
  | getGroup id => .found <$> Groups.get s id
  | getRole id => .found <$> Roles.get s id
  | grant principal entitlement => .changed <$> Membership.grant s principal entitlement
  | revoke held => .changed <$> Membership.revoke s held

/-- Whether a call reads a body as a record of what it looks up. -/
def understands : EntityCall → String → Bool
  | getUser _, body => (Setting.decodeBody UserRecord.decode? body).isOk
  | getGroup _, body => (Setting.decodeBody GroupRecord.decode? body).isOk
  | getRole _, body => (Setting.decodeBody Role.decode? body).isOk
  | grant _ _, _ | revoke _, _ => false

/-- The group whose members a call changes. -/
def group? : EntityCall → Option String
  | grant _ entitlement => some entitlement.resource.resource
  | revoke held => some held.entitlement.resource.resource
  | _ => none

def plan (t : Tenant) : EntityCall → Plan
  | getUser id =>
    if t.loweredEmailDomains = [] then .settled (.ok (.found none)) else .inquiry (.user t id)
  | getGroup id => .inquiry (.group id)
  | getRole id =>
    if id.resourceType ≠ "role" then .settled (.ok (.found none))
    else match Role.ofType? id.resource with
      | some role => .settled (.ok (.found (some role.resource)))
      | none =>
        if t.syncCustomRoles then .inquiry (.customRole id.resource)
        else .settled (.ok (.found none))
  | grant principal entitlement =>
    let groupId := entitlement.resource.resource
    let userId := principal.id.resource
    if principal.id.resourceType = "user" then
      .change .put groupId userId ("add user " ++ userId ++ " to group " ++ groupId)
    else .settled (.error (.policyViolation "only users can be granted group membership"))
  | revoke held =>
    let groupId := held.entitlement.resource.resource
    let userId := held.principal.resource
    if held.principal.resourceType = "user" then
      .change .delete groupId userId ("remove user " ++ userId ++ " from group " ++ groupId)
    else .settled (.error (.policyViolation "only users can have group membership revoked"))

theorem run_plan (s : Setting σ) (call : EntityCall) : call.run s = (call.plan s.tenant).run s := by
  cases call with
  | getUser id =>
    rw [run, plan, Users.get_eq]
    split <;> rfl
  | getGroup id =>
    rw [run, plan, Groups.get_eq]
    rfl
  | getRole id =>
    rw [run, plan, Roles.get_eq]
    split
    · rfl
    · cases Role.ofType? id.resource with
      | some role => rfl
      | none =>
        dsimp only
        split <;> rfl
  | grant principal entitlement =>
    rw [run, plan, Membership.grant]
    split <;> rfl
  | revoke held =>
    rw [run, plan, Membership.revoke]
    split <;> rfl

theorem plan_inquiry {t : Tenant} {call : EntityCall} {i : Inquiry α}
    (asks : call.plan t = .inquiry i) : Web.Headers.isValue i.contentType = true ∧
      ∀ body, call.understands body = (Setting.decodeBody i.decode body).isOk := by
  have plain := contentTypes_plain
  unfold plan at asks
  split at asks
  · split at asks
    · cases asks
    · cases asks
      exact ⟨plain.1, fun _ => rfl⟩
  · cases asks
    exact ⟨plain.2, fun _ => rfl⟩
  · split at asks
    · cases asks
    · split at asks
      · cases asks
      · split at asks
        · cases asks
          exact ⟨plain.2, fun _ => rfl⟩
        · cases asks
  · split at asks <;> cases asks
  · split at asks <;> cases asks

theorem plan_change {t : Tenant} {call : EntityCall} {method : Method}
    {groupId userId operation : String}
    (changes : call.plan t = .change method groupId userId operation) :
    call.group? = some groupId ∧ (method = .put ∨ method = .delete) := by
  unfold plan at changes
  split at changes
  · split at changes <;> cases changes
  · cases changes
  · split at changes
    · cases changes
    · split at changes
      · cases changes
      · split at changes <;> cases changes
  · split at changes
    · cases changes
      exact ⟨rfl, .inl rfl⟩
    · cases changes
  · split at changes
    · cases changes
      exact ⟨rfl, .inr rfl⟩
    · cases changes

end EntityCall

/-- A call, what came of it, and what was asked for it. -/
structure Event where
  call : EntityCall
  result : Except Fault EntityResult
  asked : Log

def EntityCall.event (s : Setting σ) (call : EntityCall) (session : Session (σ × Log)) : Event where
  call
  result := (call.run s.logged session).1
  asked := (call.run s.logged session).2.service.2.drop session.service.2.length

/-- The events of calls made one after the other. -/
def history (s : Setting σ) : List EntityCall → Session (σ × Log) → List Event
  | [], _ => []
  | call :: calls, session =>
    call.event s session :: history s calls (call.run s.logged session).2

namespace Event

/-- Whether a document was asked for at the address. -/
def Asks (e : Event) (url : Url) : Prop :=
  ∃ exchange ∈ e.asked, exchange.1.method = .get ∧ exchange.1.url.text = url.text

/-- Whether a body in the 200s came from the address, and was understood. -/
def Receives (e : Event) (url : Url) : Prop :=
  ∃ r response, (r, Reply.response response) ∈ e.asked ∧ r.method = .get ∧
    r.url.text = url.text ∧ response.Succeeds ∧ e.call.understands response.body = true

/-- Whether the members of the group at the address were changed, with success. -/
def Changes (t : Tenant) (e : Event) (url : Url) : Prop :=
  (∃ changed, e.result = .ok changed) ∧ ∃ groupId groupUrl, e.call.group? = some groupId ∧
    t.url (Groups.pathOf groupId) [] = .ok groupUrl ∧ groupUrl.text = url.text

end Event

end AccessCatalog.Okta
