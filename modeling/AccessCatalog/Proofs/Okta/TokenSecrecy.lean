import AccessCatalog.Okta.Connector
import AccessCatalog.Proofs.Okta.Phases
import AccessCatalog.Proofs.Okta.SignedCalls

/-! The token of a tenant shows in the authorization of requests and nowhere else. Every call of the
connector is compared with its like under another token, and from the single calls every sequence
of them. -/
namespace AccessCatalog.Okta

variable {σ : Type}

section Calls

variable {s : Setting σ} {a b : String} (same : s.Interchangeable a b)
include same

open Setting Setting.Interchangeable

theorem Users.list_alike (r : PageRequest) :
    (Users.list (s.signed a) r).Alike (Users.list (s.signed b) r) := by
  have domains : (s.signed b).tenant.loweredEmailDomains =
      (s.signed a).tenant.loweredEmailDomains := rfl
  unfold Users.list
  rw [domains]
  dsimp only
  split
  · exact .pure _
  · exact .bind (.ofExcept _) fun _ => .bind ((same.get _ _ _ _).within _) fun _ =>
      .bind (.ofExcept _) fun _ => .pure _

theorem Groups.list_alike (r : PageRequest) :
    (Groups.list (s.signed a) r).Alike (Groups.list (s.signed b) r) :=
  .bind (.ofExcept _) fun _ => .bind ((same.get _ _ _ _).within _) fun _ =>
    .bind (.ofExcept _) fun _ => .pure _

theorem Roles.list_alike (r : PageRequest) :
    (Roles.list (s.signed a) r).Alike (Roles.list (s.signed b) r) := by
  refine .bind (.ofExcept _) fun bag => ?_
  dsimp only
  split
  · exact .bind (.ofExcept _) fun _ => .pure _
  · split
    · exact .bind ((same.get _ _ _ _).within _) fun _ => .bind (.ofExcept _) fun _ => .pure _
    · exact .throw _

theorem Users.get_alike (id : String) :
    (Users.get (s.signed a) id).Alike (Users.get (s.signed b) id) := by
  have domains : (s.signed b).tenant.loweredEmailDomains =
      (s.signed a).tenant.loweredEmailDomains := rfl
  unfold Users.get
  rw [domains]
  dsimp only
  split
  · exact .pure _
  · refine .bind (same.getKept _ _ _).attempt fun result => ?_
    cases result with
    | ok answer => exact .pure _
    | error e =>
      dsimp only
      split
      · exact .pure _
      · exact .throw _

theorem Groups.get_alike (id : String) :
    (Groups.get (s.signed a) id).Alike (Groups.get (s.signed b) id) := by
  refine .bind (same.getKept _ _ _).attempt fun result => ?_
  cases result with
  | ok answer => exact .pure _
  | error e =>
    dsimp only
    split
    · exact .pure _
    · exact .throw _

theorem Roles.get_alike (id : ResourceId) :
    (Roles.get (s.signed a) id).Alike (Roles.get (s.signed b) id) := by
  have synced : (s.signed b).tenant.syncCustomRoles = (s.signed a).tenant.syncCustomRoles := rfl
  unfold Roles.get
  rw [synced]
  split
  · exact .pure _
  · split
    · exact .pure _
    · split
      · refine .bind (same.getKept _ _ _).attempt fun result => ?_
        cases result with
        | ok answer => exact .pure _
        | error e =>
          dsimp only
          split
          · exact .pure _
          · exact .throw _
      · exact .pure _

/-! Grants. -/

theorem Groups.memberPage_alike (group : Resource) (count : Option Int) (bag : Bag) (limit : Nat) :
    (memberPage (s.signed a) group count bag limit).Alike
      (memberPage (s.signed b) group count bag limit) := by
  unfold memberPage
  dsimp only
  split
  · exact .bind (.ofExcept _) fun _ => .pure _
  · exact .bind ((same.get _ _ _ _).within _) fun _ => .bind (.ofExcept _) fun _ => .pure _

theorem Groups.rolePage_alike (group : Resource) (count : Option Int) (bag : Bag) (limit : Nat) :
    (rolePage (s.signed a) group count bag limit).Alike
      (rolePage (s.signed b) group count bag limit) := by
  refine .bind (same.get _ _ _ _).attempt fun result => ?_
  cases result with
  | ok answer => exact .bind (.ofExcept _) fun _ => .pure _
  | error e =>
    dsimp only
    split
    · exact .bind (.ofExcept _) fun _ => .pure _
    · exact .throw _

theorem Groups.grants_alike (group : Resource) (r : PageRequest) :
    (grants (s.signed a) group r).Alike (grants (s.signed b) group r) := by
  refine .bind (.ofExcept _) fun bag => .bind (.ofExcept _) fun profile => ?_
  dsimp only
  split
  · exact memberPage_alike same group _ bag _
  · split
    · exact rolePage_alike same group _ bag _
    · exact .throw _

theorem Roles.fetchFlags_alike (userId : String) :
    (fetchFlags (s.signed a) userId).Alike (fetchFlags (s.signed b) userId) := by
  refine .bind (same.get _ _ _ _).attempt fun result => ?_
  cases result with
  | ok answer => exact .pure _
  | error e =>
    dsimp only
    split
    · exact .pure _
    · exact .throw _

theorem Roles.flags_alike (userId : String) :
    (flags (s.signed a) userId).Alike (flags (s.signed b) userId) := by
  have known : (knownFlags userId : Call σ Fault _).Alike (knownFlags userId) :=
    fun x y alike => ⟨by simp only [knownFlags, alike.flags], alike.service, alike.sent,
      alike.bodies, alike.readings, congrArg (·.opened userId) alike.flags⟩
  have kept : ∀ found, (keepFlags userId found : Call σ Fault Unit).Alike
      (keepFlags userId found) := fun found x y alike =>
    ⟨rfl, alike.service, alike.sent, alike.bodies, alike.readings,
      congrArg (·.insert userId found) alike.flags⟩
  refine .bind known fun result => ?_
  cases result with
  | some flags => exact .pure _
  | none =>
    exact .bind (fetchFlags_alike same userId) fun found => .bind (kept found) fun _ => .pure _

theorem Roles.holders_alike (roleId : String) (users : List String) :
    (holders (s.signed a) roleId users).Alike (holders (s.signed b) roleId users) := by
  induction users with
  | nil => exact .pure _
  | cons userId rest ih =>
    exact .bind (flags_alike same userId) fun _ => .bind ih fun _ => .pure _

theorem Roles.grants_alike (role : Resource) (r : PageRequest) :
    (grants (s.signed a) role r).Alike (grants (s.signed b) role r) :=
  .bind (.ofExcept _) fun _ => .bind ((same.get _ _ _ _).within _) fun _ =>
    .bind (.ofExcept _) fun _ => .bind (holders_alike same _ _) fun _ => .pure _

/-! Changes, and the connector itself. -/

theorem Membership.change_alike (method : Web.Method) (groupId userId operation : String) :
    (change (s.signed a) method groupId userId operation).Alike
      (change (s.signed b) method groupId userId operation) :=
  .bind ((same.perform _ _).within _) fun _ => .bind (forget_alike _) fun _ => .pure _

theorem Membership.grant_alike (principal : Resource) (entitlement : Entitlement) :
    (grant (s.signed a) principal entitlement).Alike
      (grant (s.signed b) principal entitlement) := by
  unfold grant
  dsimp only
  split
  · exact change_alike same _ _ _ _
  · exact .throw _

theorem Membership.revoke_alike (held : Grant) :
    (revoke (s.signed a) held).Alike (revoke (s.signed b) held) := by
  unfold revoke
  dsimp only
  split
  · exact change_alike same _ _ _ _
  · exact .throw _

theorem Accounts.create_alike (info : AccountInfo) (options : CredentialOptions) :
    (create (s.signed a) info options).Alike (create (s.signed b) info options) :=
  .bind (.ofExcept _) fun _ => .bind (.ofExcept _) fun _ => .bind (.ofExcept _) fun _ =>
    .bind ((same.post _ _ _ _).within _) fun _ => .pure _

theorem Connector.validate_alike :
    (validate (s.signed a)).Alike (validate (s.signed b)) := by
  have first : (s.signed a).tenant.hasToken = true := by
    simp [Tenant.hasToken, Setting.signed, s.tenant.token?_signed same.first]
  have second : (s.signed b).tenant.hasToken = true := by
    simp [Tenant.hasToken, Setting.signed, s.tenant.token?_signed same.second]
  unfold validate
  rw [if_pos first, if_pos second]
  exact .bind ((same.get _ _ _ _).within _) fun _ => .pure _

theorem Connector.metadata_alike :
    (metadata (s.signed a)).Alike (metadata (s.signed b)) :=
  .bind (validate_alike same) fun _ => .pure _

end Calls

/-! Calls in a row. -/

inductive ConnectorCall where
  | list (syncer : Syncer) (r : PageRequest)
  | entitlements (syncer : Syncer) (resource : Resource)
  | grants (syncer : Syncer) (resource : Resource) (r : PageRequest)
  | get (syncer : Syncer) (id : ResourceId)
  | grant (principal : Resource) (entitlement : Entitlement)
  | revoke (held : Grant)
  | create (info : AccountInfo) (options : CredentialOptions)
  | validate
  | metadata
  | change (event : LogEvent)

inductive ConnectorResult where
  | resources (page : Page Resource)
  | entitlements (page : Page Entitlement)
  | grants (page : Page Grant)
  | found (resource : Option Resource)
  | annotations (annotations : Annotations)
  | account (account : NewAccount)
  | metadata (metadata : ConnectorMetadata)
  | change (event : Option ChangeEvent)

def ConnectorCall.run (s : Setting σ) : ConnectorCall → Call σ Fault ConnectorResult
  | list syncer r => .resources <$> syncer.list s r
  | entitlements syncer resource => pure (.entitlements (syncer.entitlements resource))
  | grants syncer resource r => .grants <$> syncer.grants s resource r
  | get syncer id => .found <$> syncer.get s id
  | grant principal entitlement => .annotations <$> Membership.grant s principal entitlement
  | revoke held => .annotations <$> Membership.revoke s held
  | create info options => .account <$> Accounts.create s info options
  | validate => .annotations <$> Connector.validate s
  | metadata => .metadata <$> Connector.metadata s
  | change event => .change <$> Call.ofExcept event.change?

theorem ConnectorCall.run_alike {s : Setting σ} {a b : String} (same : s.Interchangeable a b)
    (call : ConnectorCall) : (call.run (s.signed a)).Alike (call.run (s.signed b)) := by
  cases call with
  | list syncer r =>
    cases syncer with
    | users => exact .map _ (Users.list_alike same r)
    | groups => exact .map _ (Groups.list_alike same r)
    | roles => exact .map _ (Roles.list_alike same r)
  | entitlements syncer resource => exact .pure _
  | grants syncer resource r =>
    cases syncer with
    | users => exact .map _ (.pure _)
    | groups => exact .map _ (Groups.grants_alike same resource r)
    | roles => exact .map _ (Roles.grants_alike same resource r)
  | get syncer id =>
    cases syncer with
    | users => exact .map _ (Users.get_alike same id.resource)
    | groups => exact .map _ (Groups.get_alike same id.resource)
    | roles => exact .map _ (Roles.get_alike same id)
  | grant principal entitlement => exact .map _ (Membership.grant_alike same principal entitlement)
  | revoke held => exact .map _ (Membership.revoke_alike same held)
  | create info options => exact .map _ (Accounts.create_alike same info options)
  | validate => exact .map _ (Connector.validate_alike same)
  | metadata => exact .map _ (Connector.metadata_alike same)
  | change event => exact .map _ (.ofExcept _)

/-- A call, when it is made, and what is drawn at random for it. -/
structure Occasion where
  now : Instant
  draws : Nat → Nat
  call : ConnectorCall

def Occasion.run (s : Setting σ) (o : Occasion) : Call σ Fault ConnectorResult :=
  o.call.run { s with now := o.now, draws := o.draws }

/-- What came of a call, and the session after it. -/
structure Outcome (σ : Type) where
  result : Except Fault ConnectorResult
  session : Session σ

/-- What comes of calls made one after the other. -/
def transcript (s : Setting σ) : List Occasion → Session σ → List (Outcome σ)
  | [], _ => []
  | o :: rest, session =>
    let (result, after) := o.run s session
    ⟨result, after⟩ :: transcript s rest after

/-- An outcome without the headers that say who asked. -/
def Outcome.unsigned (o : Outcome σ) : Outcome σ :=
  { o with session := { o.session with sent := o.session.sent.map Web.Request.unsigned } }

theorem Outcome.unsigned_eq {x y : Outcome σ} (result : x.result = y.result)
    (alike : x.session.Alike y.session) : x.unsigned = y.unsigned := by
  simp only [unsigned, result, alike.service, alike.sent, alike.bodies, alike.readings,
    alike.flags]

theorem transcript_unsigned {s : Setting σ} {a b : String} (same : s.Interchangeable a b)
    (occasions : List Occasion) {x y : Session σ} (alike : x.Alike y) :
    (transcript (s.signed a) occasions x).map Outcome.unsigned =
      (transcript (s.signed b) occasions y).map Outcome.unsigned := by
  -- The sessions differ more and more in what was sent, but stay alike.
  induction occasions generalizing x y with
  | nil => rfl
  | cons o rest ih =>
    have there : ({ s with now := o.now, draws := o.draws } : Setting σ).Interchangeable a b :=
      ⟨same.impartial, same.first, same.second⟩
    obtain ⟨result, after⟩ := o.call.run_alike there x y alike
    exact List.cons_eq_cons.mpr ⟨Outcome.unsigned_eq result after, ih after⟩

/-- Two tenants that differ in their token alone look the same, and so does everything that comes
of calls at a service that answers without regard to who asks: results and failures, what is kept
between calls, and the requests but for their authorization. -/
theorem token_unseen (s : Setting σ) {a b : String} (same : s.Interchangeable a b)
    (occasions : List Occasion) (state : σ) :
    (transcript (s.signed a) occasions (Session.start (s.tenant.signed a) state)).map
        Outcome.unsigned =
      (transcript (s.signed b) occasions (Session.start (s.tenant.signed b) state)).map
        Outcome.unsigned ∧
      (s.tenant.signed a).validate = (s.tenant.signed b).validate ∧
      (s.tenant.signed a).redacted = (s.tenant.signed b).redacted ∧
      ∀ x y : Session σ, x.Alike y →
        Connector.diagnostic (s.tenant.signed a) x =
          Connector.diagnostic (s.tenant.signed b) y := by
  have started : (Session.start (s.tenant.signed a) state).Alike
      (Session.start (s.tenant.signed b) state) := ⟨rfl, rfl, rfl, rfl, rfl⟩
  have redacted : (s.tenant.signed a).redacted = (s.tenant.signed b).redacted := rfl
  refine ⟨transcript_unsigned same occasions started, rfl, redacted, ?_⟩
  intro x y alike
  unfold Connector.diagnostic
  rw [redacted, alike.flags]

theorem scripted_interchangeable (t : Tenant) {a b : String} (first : IsToken a)
    (second : IsToken b) : (Setting.scripted t).Interchangeable a b :=
  ⟨fun _ _ state _ => by cases state <;> rfl, first, second⟩

/-- The tenant is checked, groups are listed, and one is looked up twice. -/
def inspection : List Occasion :=
  [ConnectorCall.validate, .list .groups {}, .get .groups ⟨"group", "00g1"⟩,
    .get .groups ⟨"group", "00g1"⟩].map fun call => ⟨⟨0, 0, 0⟩, fun _ => 0, call⟩

def inspected : List Web.Response :=
  [⟨200, [], "\x7b\x7d"⟩, ⟨200, [], "[\x7b\"id\":\"00g1\"\x7d]"⟩,
    ⟨200, [], "\x7b\"id\":\"00g1\"\x7d"⟩]

/-- What comes of the inspection under a token. -/
def inspect (token : String) : List (Outcome (List Web.Response)) :=
  transcript ((Setting.scripted .acme).signed token) inspection
    (Session.start (Tenant.acme.signed token) inspected)

theorem token_unseen_of_inspection :
    (Setting.scripted .acme).Interchangeable "secret" "other" ∧
    (inspect "secret").map Outcome.unsigned = (inspect "other").map Outcome.unsigned ∧
    (inspect "secret").map (·.result.isOk) = [true, true, true, true] ∧
    (inspect "secret").map (·.session.sent.length) = [1, 2, 3, 3] ∧
    (inspect "secret").map (·.session.sent) ≠ (inspect "other").map (·.session.sent) := by
  have same : (Setting.scripted .acme).Interchangeable "secret" "other" :=
    scripted_interchangeable .acme ⟨by decide, by decide⟩ ⟨by decide, by decide⟩
  exact ⟨same, (token_unseen (.scripted .acme) same inspection inspected).1,
    by decide +kernel, by decide +kernel, by decide +kernel⟩

end AccessCatalog.Okta
