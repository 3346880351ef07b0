import AccessCatalog.Okta.UserRecord
import AccessCatalog.Proofs.Json.Records

/-! Secondary addresses. A resource is read off a profile in which a secondary address that is
skipped has been put out, so that nothing in it depends on that address. Resources with the address
and without it are the same in all that does not show it. -/
namespace AccessCatalog

namespace Profile

/-- What an object has under other keys does not matter to a profile made of it. -/
theorem get?_ofJson_erase {a b : List (String × Json)} {key other : String}
    (same : Keyed.erase key a = Keyed.erase key b) (different : other ≠ key) :
    (ofJson (.obj a)).get? other = (ofJson (.obj b)).get? other := by
  have read : ∀ entries : List (String × Json), (ofJson (.obj entries)).get? other =
      (((Keyed.erase key entries).filter fun e => e.1 = other).getLast?).map
        fun e => ProfileValue.ofJson e.2 := by
    intro entries
    have kept : ((Keyed.erase key entries).filter fun e => e.1 = other) =
        entries.filter fun e => e.1 = other := by
      rw [Keyed.erase, List.filter_filter]
      refine List.filter_congr fun e _ => ?_
      by_cases here : e.1 = other <;> simp [here, different]
    rw [kept]
    refine (Keyed.get?_ofList_last other _).trans ?_
    rw [List.filter_map, List.getLast?_map, Option.map_map]
    rfl
  rw [read, read, same]

end Profile

namespace Okta.UserRecord

/-- Whether two records differ at most in the secondary address of their profiles. -/
structure AgreeButSecondary (u v : UserRecord) : Prop where
  id : u.id = v.id
  status : u.status = v.status
  created : u.created = v.created
  lastLogin : u.lastLogin = v.lastLogin
  profile : ∃ a b, u.profile = .obj a ∧ v.profile = .obj b ∧
    Keyed.erase "secondEmail" a = Keyed.erase "secondEmail" b

/-- The attributes of a user without any address but the primary one. -/
def withoutSecondary (t : UserTrait) : UserTrait :=
  { t with
    profile := t.profile.set "secondEmail" .null
    emails := t.emails.filter (·.isPrimary) }

/-! What is read off a profile, with its secondary address and without. -/

section Reading

variable (p : Profile)

theorem displayName_secondary : displayName (p.set "secondEmail" .null) = displayName p := by
  simp [displayName, names]

theorem email?_secondary :
    email? (p.set "secondEmail" .null) "email" true = email? p "email" true := by
  simp [email?]

theorem employeeIds_secondary : employeeIds (p.set "secondEmail" .null) = employeeIds p := by
  -- The key of secondary addresses is not one that employee ids stand under.
  let listed := fun key => employeeIdKeys.contains (Text.lowercase key)
  have unlisted : listed "secondEmail" = false := by decide +kernel
  have kept := Keyed.filter_insert listed unlisted .null p.entries
  rw [employeeIds, Profile.set, kept, ← employeeIds]

theorem filter_primary :
    ((email? p "email" true).toList ++ (email? p "secondEmail" false).toList).filter
      (·.isPrimary) = (email? p "email" true).toList := by
  have sole : ∀ key isPrimary, (email? p key isPrimary).toList.filter (·.isPrimary) =
      if isPrimary then (email? p key isPrimary).toList else [] := by
    intro key isPrimary
    unfold email?
    cases (p.text? key).filter fun e => !e.isEmpty <;> cases isPrimary <;> rfl
  rw [List.filter_append, sole, sole]
  exact List.append_nil _

theorem email?_listed {e : UserEmail} (member : e ∈ (email? p "email" true).toList) :
    e.isPrimary = true ∧ p.text? "email" = some e.address := by
  obtain ⟨address, found, rfl⟩ := Option.map_eq_some_iff.mp (Option.mem_toList.mp member)
  exact ⟨rfl, (Option.filter_eq_some_iff.mp found).1⟩

end Reading

/-! Resources, by the profile that they are read off. -/

section Resource

variable (u : UserRecord) (p : Profile) (emails : List UserEmail)

/-- The profile of the record with the status of the user. -/
def stamped : Profile := (Profile.ofJson u.profile).set rawStatusKey (.text u.status)

def traitOf : UserTrait where
  profile := p
  emails
  login := p.text? "login"
  loginAliases := ((p.text? "login").bind loginAlias?).toList
  employeeIds := employeeIds p
  status := some ⟨statusOf u.status, u.status⟩
  createdAt := u.created
  lastLogin := u.lastLogin

def resourceOf : Resource :=
  (Resource.ofTraits (displayName p) userType u.id (.user (u.traitOf p emails))).annotate
    (.rawId u.id)

theorem resource_shown : u.resource false =
    u.resourceOf u.stamped
      ((email? u.stamped "email" true).toList ++ (email? u.stamped "secondEmail" false).toList) :=
  rfl

theorem resource_hidden : u.resource true =
    u.resourceOf (u.stamped.set "secondEmail" .null) (email? u.stamped "email" true).toList := by
  rw [resourceOf, displayName_secondary, ← List.append_nil (email? _ _ _).toList]
  rfl

theorem resourceOf_secondary :
    u.resourceOf (p.set "secondEmail" .null) (emails.filter (·.isPrimary)) =
      { u.resourceOf p emails with traits := .user (withoutSecondary (u.traitOf p emails)) } := by
  have login : (p.set "secondEmail" .null).text? "login" = p.text? "login" := by simp
  rw [resourceOf, traitOf, displayName_secondary, employeeIds_secondary, login]
  rfl

end Resource

theorem AgreeButSecondary.hidden {u v : UserRecord} (agree : u.AgreeButSecondary v) :
    u.stamped.set "secondEmail" .null = v.stamped.set "secondEmail" .null := by
  obtain ⟨a, b, left, right, same⟩ := agree.profile
  refine Profile.ext_get? fun key => ?_
  by_cases secondary : key = "secondEmail"
  · simp [secondary]
  · simp [secondary, stamped, agree.status, left, right, Profile.get?_ofJson_erase same secondary]

/-- Where secondary addresses are skipped, records that differ in nothing else give one resource,
which lists the primary address at most. With the address or without it, all the rest of a resource
is the same, and its profile is that of the record with the status of the user. -/
theorem secondary_hidden :
    (∀ u v : UserRecord, u.AgreeButSecondary v → u.resource true = v.resource true) ∧
    ∀ u : UserRecord, ∃ hidden shown : UserTrait,
      (u.resource true).traits = .user hidden ∧ (u.resource false).traits = .user shown ∧
      u.resource true = { u.resource false with traits := .user (withoutSecondary shown) } ∧
      hidden.emails.length ≤ 1 ∧
      (∀ e ∈ hidden.emails, e.isPrimary = true ∧ hidden.profile.text? "email" = some e.address) ∧
      hidden.profile.get? "secondEmail" = some .null ∧
      shown.profile.get? "secondEmail" = (Profile.ofJson u.profile).get? "secondEmail" ∧
      ∀ t ∈ [hidden, shown], t.profile.get? rawStatusKey = some (.text u.status) ∧
        ∀ key, key ≠ rawStatusKey → key ≠ "secondEmail" →
          t.profile.get? key = (Profile.ofJson u.profile).get? key := by
  constructor
  · intro u v agree
    have email : email? u.stamped "email" true = email? v.stamped "email" true := by
      rw [← email?_secondary, agree.hidden, email?_secondary]
    rw [resource_hidden, resource_hidden, agree.hidden, email]
    simp only [resourceOf, traitOf, agree.id, agree.status, agree.created, agree.lastLogin]
  · intro u
    have trait : (u.resource true).traits = .user (u.traitOf (u.stamped.set "secondEmail" .null)
        (email? u.stamped "email" true).toList) := by
      rw [resource_hidden]
      rfl
    refine ⟨_, _, trait, rfl, ?_, Option.length_toList_le, ?_, by simp [traitOf], ?_, ?_⟩
    · have filtered := filter_primary u.stamped
      rw [resource_hidden, resource_shown]
      exact (congrArg (u.resourceOf _) filtered.symm).trans (u.resourceOf_secondary _ _)
    · intro e member
      obtain ⟨primary, address⟩ := email?_listed _ member
      exact ⟨primary, by simpa [traitOf] using address⟩
    · exact (Profile.get?_set _ _ _ _).trans (if_neg (by decide))
    · intro t member
      have profile : t.profile = u.stamped.set "secondEmail" .null ∨ t.profile = u.stamped := by
        simp only [List.mem_cons, List.not_mem_nil, or_false] at member
        rcases member with rfl | rfl
        · exact .inl rfl
        · exact .inr rfl
      constructor
      · rcases profile with same | same <;> simp [same, stamped, rawStatusKey]
      · intro key notStatus notSecondary
        rcases profile with same | same <;> simp [same, stamped, notStatus, notSecondary]

/-! A user with a private address, with a number in its place, and with none. -/

def joWith (secondary : List (String × Json)) : UserRecord where
  id := "00u1"
  status := "ACTIVE"
  profile := .obj ([("email", .str "jo@acme.com"), ("login", .str "jo@acme.com")] ++ secondary)

theorem secondary_hidden_of_jo :
    (joWith [("secondEmail", .str "jo@home.org")]).AgreeButSecondary (joWith []) ∧
    (joWith [("secondEmail", .str "jo@home.org")]).resource true = (joWith []).resource true ∧
    (joWith [("secondEmail", .int 7)]).resource true = (joWith []).resource true ∧
    ((joWith [("secondEmail", .str "jo@home.org")]).resource false).userTrait.toOption.map
      (·.emails.map (·.address)) = some ["jo@acme.com", "jo@home.org"] := by
  have agree : ∀ v : Json, (joWith [("secondEmail", v)]).AgreeButSecondary (joWith []) := fun v =>
    ⟨rfl, rfl, rfl, rfl, _, _, rfl, rfl, rfl⟩
  exact ⟨agree _, secondary_hidden.1 _ _ (agree _), secondary_hidden.1 _ _ (agree _),
    by decide +kernel⟩

end Okta.UserRecord
end AccessCatalog
