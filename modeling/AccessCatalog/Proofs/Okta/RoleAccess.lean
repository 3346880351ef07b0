import AccessCatalog.Okta.AdminFlags
import AccessCatalog.Proofs.Text.Casing

/-! Which roles the flags of a user give. The role that is asked for is put into small letters and
loses its underscores, while a role of the flags is only put into small letters. So the comparison
is of the two without case and underscores, among the roles of the flags that have no underscore
to lose. -/
namespace AccessCatalog.Okta.AdminFlags

theorem underscore_mem_lowercase {s : String} : '_' ∈ (Text.lowercase s).toList ↔ '_' ∈ s.toList := by
  rw [Text.lowercase, String.toList_ofList]
  exact Text.mem_lowerFrom (by decide) (by decide) [] s.toList

theorem underscore_not_mem_roleName (role : String) : '_' ∉ (roleName role).toList := by
  rw [roleName, String.toList_ofList]
  intro member
  have kept := (List.mem_filter.mp member).2
  exact absurd kept (by decide)

theorem roleName_of_plain {role : String} (plain : '_' ∉ role.toList) :
    roleName role = Text.lowercase role := by
  have kept : (Text.lowercase role).toList.filter (· != '_') = (Text.lowercase role).toList := by
    refine List.filter_eq_self.mpr fun c member => ?_
    have other : c ≠ '_' := fun same => plain (underscore_mem_lowercase.mp (same ▸ member))
    simpa using other
  rw [roleName, kept, String.ofList_toList]

/-- A role of the flags is the one asked for without case and underscores, and has none itself. -/
theorem lowercase_eq_roleName {role asked : String} :
    Text.lowercase role = roleName asked ↔ '_' ∉ role.toList ∧ roleName role = roleName asked := by
  constructor
  · intro same
    have plain : '_' ∉ role.toList := fun member =>
      underscore_not_mem_roleName asked (same ▸ underscore_mem_lowercase.mpr member)
    exact ⟨plain, (roleName_of_plain plain).trans same⟩
  · rintro ⟨plain, same⟩
    exact (roleName_of_plain plain).symm.trans same

theorem grants_iff {f : AdminFlags} {asked : String} : f.grants asked = true ↔
    ∃ role ∈ f.individualRoles ++ f.groupRoles, Text.lowercase role = roleName asked := by
  simp only [grants, List.any_eq_true, decide_eq_true_eq]

def withoutUnderscores (s : String) : String := String.ofList (s.toList.filter (· != '_'))

/-- Texts that differ in the case of their ASCII letters only. -/
def SameLetters (s t : String) : Prop := s.toList.map Char.toLower = t.toList.map Char.toLower

theorem filter_lowerChar (c : Char) : (Text.lowerChar c).filter (· != '_') =
    if c = '_' then [] else Text.lowerChar c := by
  by_cases sign : c = '_'
  · subst sign
    decide
  · rw [if_neg sign]
    refine List.filter_eq_self.mpr fun d member => ?_
    have other : d ≠ '_' := fun same => sign (Text.lowerChar_sign (by decide) (same ▸ member))
    simpa using other

theorem flatMap_lowerChar_filter (cs : List Char) :
    (cs.filter (· != '_')).flatMap Text.lowerChar =
      (cs.flatMap Text.lowerChar).filter (· != '_') := by
  induction cs with
  | nil => rfl
  | cons c cs ih =>
    rw [List.flatMap_cons, List.filter_append, ← ih, filter_lowerChar]
    by_cases sign : c = '_' <;> simp [sign]

/-- Taking the underscores away first is the same, unless there is a sigma whose small letter
depends on what stands around it. -/
theorem lowercase_withoutUnderscores {s : String} (plain : '\u03a3' ∉ s.toList) :
    Text.lowercase (withoutUnderscores s) = roleName s := by
  have fewer : '\u03a3' ∉ s.toList.filter (· != '_') := fun member =>
    plain (List.mem_filter.mp member).1
  simp only [roleName, withoutUnderscores, Text.lowercase, String.toList_ofList,
    Text.lowerFrom_eq_flatMap fewer, Text.lowerFrom_eq_flatMap plain, flatMap_lowerChar_filter]

/-- The flags give a role exactly when one of their roles has no underscore and is the same without
case and underscores. -/
theorem role_given (f : AdminFlags) (asked : String) :
    (f.grants asked = true ↔ ∃ role ∈ f.individualRoles ++ f.groupRoles,
      '_' ∉ role.toList ∧ roleName role = roleName asked) ∧
    ('_' ∉ asked.toList → ∀ role ∈ f.individualRoles ++ f.groupRoles,
      SameLetters role asked → f.grants asked = true) ∧
    ('\u03a3' ∉ asked.toList → ∀ role ∈ f.individualRoles ++ f.groupRoles,
      SameLetters role (withoutUnderscores asked) → f.grants asked = true) ∧
    ((∀ role ∈ f.individualRoles ++ f.groupRoles, '_' ∈ role.toList) → f.grants asked = false) := by
  refine ⟨?_, fun plain role member same => ?_, fun plain role member same => ?_, fun marked => ?_⟩
  · simp only [grants_iff, lowercase_eq_roleName]
  · have small := Text.lowercase_eq_of_ascii_case same
    exact grants_iff.mpr ⟨role, member, small.trans (roleName_of_plain plain).symm⟩
  · have small := Text.lowercase_eq_of_ascii_case same
    exact grants_iff.mpr ⟨role, member, small.trans (lowercase_withoutUnderscores plain)⟩
  · rw [← Bool.not_eq_true, grants_iff]
    rintro ⟨role, member, same⟩
    exact (lowercase_eq_roleName.mp same).1 (marked role member)

/-- The spelling of the role's own type is not found among the flags. -/
theorem own_spelling_missed :
    "SUPER_ADMIN" ∈ ({ individualRoles := ["SUPER_ADMIN"] } : AdminFlags).individualRoles ∧
      ({ individualRoles := ["SUPER_ADMIN"] } : AdminFlags).grants "SUPER_ADMIN" = false := by
  decide +kernel

def helpDeskFlags : AdminFlags :=
  { userId := "00u1", individualRoles := ["SuperAdmin"], groupRoles := ["helpdeskadmin"] }

theorem role_given_of_helpDesk : helpDeskFlags.grants "HELP_DESK_ADMIN" = true ∧
    helpDeskFlags.grants "superadmin" = true := by
  obtain ⟨_, _, spelled, _⟩ := role_given helpDeskFlags "HELP_DESK_ADMIN"
  obtain ⟨_, anyCase, _, _⟩ := role_given helpDeskFlags "superadmin"
  constructor
  · exact spelled (by decide) "helpdeskadmin" (by decide) (by unfold SameLetters; decide)
  · exact anyCase (by decide) "SuperAdmin" (by decide) (by unfold SameLetters; decide)

end AccessCatalog.Okta.AdminFlags
