import AccessCatalog.Catalog.Fault
import AccessCatalog.Text.Lowercase

/-! The administrator flags of users, and which role they give. The flags of a user are kept once
they are known; a failed look-up leaves an empty cell behind, which shows nowhere. -/
namespace AccessCatalog.Okta

structure AdminFlags where
  userId : String := ""
  superAdmin : Bool := false
  orgAdmin : Bool := false
  readOnlyAdmin : Bool := false
  mobileAdmin : Bool := false
  appAdmin : Bool := false
  helpDeskAdmin : Bool := false
  groupMembershipAdmin : Bool := false
  apiAccessManagementAdmin : Bool := false
  userAdmin : Bool := false
  reportAdmin : Bool := false
  forAllApps : Bool := false
  forAllUserAdminGroups : Bool := false
  forAllHelpDeskAdminGroups : Bool := false
  forAllGroupMembershipAdminGroups : Bool := false
  individualRoles : List String := []
  groupRoles : List String := []
  deriving DecidableEq, Repr

namespace AdminFlags

def decode? (v : Json) : Option AdminFlags := do
  match ← v.fields? [["userId"], ["superAdmin"], ["orgAdmin"], ["readOnlyAdmin"],
      ["mobileAdmin"], ["appAdmin"], ["helpDeskAdmin"], ["groupMembershipAdmin"],
      ["apiAccessManagementAdmin"], ["userAdmin"], ["reportAdmin"], ["forAllApps"],
      ["forAllUserAdminGroups"], ["forAllHelpDeskAdminGroups"],
      ["forAllGroupMembershipAdminGroups"], ["rolesFromIndividualAssignments"],
      ["rolesFromGroup"]] with
  | [userId, superAdmin, orgAdmin, readOnlyAdmin, mobileAdmin, appAdmin, helpDeskAdmin,
      groupMembershipAdmin, apiAccessManagementAdmin, userAdmin, reportAdmin, forAllApps,
      forAllUserAdminGroups, forAllHelpDeskAdminGroups, forAllGroupMembershipAdminGroups,
      individualRoles, groupRoles] =>
    let flag := Json.orElse Json.bool? false
    let texts := Json.orElse (Json.list? Json.str?) []
    some {
      userId := ← Json.orElse Json.str? "" userId
      superAdmin := ← flag superAdmin
      orgAdmin := ← flag orgAdmin
      readOnlyAdmin := ← flag readOnlyAdmin
      mobileAdmin := ← flag mobileAdmin
      appAdmin := ← flag appAdmin
      helpDeskAdmin := ← flag helpDeskAdmin
      groupMembershipAdmin := ← flag groupMembershipAdmin
      apiAccessManagementAdmin := ← flag apiAccessManagementAdmin
      userAdmin := ← flag userAdmin
      reportAdmin := ← flag reportAdmin
      forAllApps := ← flag forAllApps
      forAllUserAdminGroups := ← flag forAllUserAdminGroups
      forAllHelpDeskAdminGroups := ← flag forAllHelpDeskAdminGroups
      forAllGroupMembershipAdminGroups := ← flag forAllGroupMembershipAdminGroups
      individualRoles := ← texts individualRoles
      groupRoles := ← texts groupRoles }
  | _ => none

/-- The name of a role as the flags spell it, without underscores and in small letters. -/
def roleName (roleId : String) : String :=
  String.ofList ((Text.lowercase roleId).toList.filter (· != '_'))

/-- Whether a role is held, by the user or through a group. -/
def grants (f : AdminFlags) (roleId : String) : Bool :=
  (f.individualRoles ++ f.groupRoles).any fun role => Text.lowercase role = roleName roleId

/-- The record that holds the flags of a user: theirs, else the first, else empty flags. -/
def select (userId : String) (records : List AdminFlags) : AdminFlags :=
  match records.find? fun f => f.userId = userId with
  | some f => f
  | none => records.head?.getD { userId }

end AdminFlags

/-- A cell for each user whose flags were needed, empty as long as no look-up has found them. -/
structure FlagCache where
  cells : List (String × Option AdminFlags) := []
  deriving DecidableEq, Repr

namespace FlagCache

def get? (c : FlagCache) (userId : String) : Option AdminFlags := (Keyed.get? userId c.cells).join

/-- The cache with a cell for a user, an empty one if there was none. -/
def opened (c : FlagCache) (userId : String) : FlagCache :=
  if (Keyed.get? userId c.cells).isSome then c else ⟨Keyed.insert userId none c.cells⟩

/-- Fills the cell of a user. -/
def insert (c : FlagCache) (userId : String) (flags : AdminFlags) : FlagCache :=
  ⟨Keyed.insert userId (some flags) c.cells⟩

/-- How many users have flags; empty cells do not count. -/
def size (c : FlagCache) : Nat := c.cells.countP (·.2.isSome)
def isEmpty (c : FlagCache) : Bool := c.size == 0

/-- The outcome of a look-up that had to be made fills the cell, unless it failed. -/
def keep (c : FlagCache) (userId : String) : Except Fault AdminFlags → FlagCache
  | .ok flags => c.insert userId flags
  | .error _ => c.opened userId

section Cells

variable (c : FlagCache) (userId other : String) (flags : AdminFlags)

theorem get?_insert :
    (c.insert userId flags).get? other = if other = userId then some flags else c.get? other := by
  rw [get?, insert, Keyed.get?_insert]
  split <;> rfl

theorem get?_insert_self : (c.insert userId flags).get? userId = some flags := by
  rw [get?_insert, if_pos rfl]

/-- An empty cell is no flags. -/
@[simp]
theorem get?_opened : (c.opened userId).get? other = c.get? other := by
  unfold opened
  split
  · rfl
  · rename_i absent
    rw [get?, get?, Keyed.get?_insert]
    split
    · rename_i same
      rw [same, Option.not_isSome_iff_eq_none.mp absent]
      rfl
    · rfl

@[simp]
theorem size_opened : (c.opened userId).size = c.size := by
  unfold opened
  split
  · rfl
  · rename_i absent
    rw [size, size, Keyed.countP_insert _ none (Option.not_isSome_iff_eq_none.mp absent)]
    rfl

@[simp]
theorem insert_opened : (c.opened userId).insert userId flags = c.insert userId flags := by
  unfold opened
  split
  · rfl
  · rw [insert, insert, Keyed.insert_insert]

variable {c userId flags}

theorem opened_of_known (known : c.get? userId = some flags) : c.opened userId = c := by
  refine if_pos ?_
  rw [Option.join_eq_some_iff.mp known]
  rfl

end Cells

end FlagCache
end AccessCatalog.Okta
