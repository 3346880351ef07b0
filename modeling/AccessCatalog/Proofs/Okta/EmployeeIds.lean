import AccessCatalog.Okta.UserRecord
import AccessCatalog.Proofs.Json.Records
import AccessCatalog.Proofs.Text.ByteOrder

/-! Employee ids of a profile. They are the texts under the keys that are known for them, in whatever
case a key is written: each text once, however many keys it stands under, and in the order of bytes.
Nothing else in the profile has a part in them. -/
namespace AccessCatalog.Okta.UserRecord

/-! Texts in strictly increasing order. -/

theorem mem_insertText {s t : String} {texts : List String} :
    t ∈ insertText s texts ↔ t = s ∨ t ∈ texts := by
  induction texts with
  | nil => simp [insertText]
  | cons first rest ih =>
    rw [insertText]
    split
    · exact List.mem_cons
    · split
      · rename_i same
        subst same
        simp
      · rw [List.mem_cons, ih, List.mem_cons, or_left_comm]

theorem insertText_pairwise {texts : List String} (ordered : texts.Pairwise (· < ·)) (s : String) :
    (insertText s texts).Pairwise (· < ·) := by
  induction texts with
  | nil => exact List.pairwise_singleton _ s
  | cons first rest ih =>
    obtain ⟨least, inRest⟩ := List.pairwise_cons.mp ordered
    rw [insertText]
    split
    · rename_i below
      refine List.pairwise_cons.mpr ⟨fun t member => ?_, ordered⟩
      rcases List.mem_cons.mp member with rfl | behind
      · exact below
      · exact String.lt_trans below (least t behind)
    · rename_i notBelow
      split
      · exact ordered
      · rename_i other
        refine List.pairwise_cons.mpr ⟨fun t member => ?_, ih inRest⟩
        rcases mem_insertText.mp member with rfl | behind
        · exact Std.lt_of_le_of_ne (String.not_lt.mp notBelow) (Ne.symm other)
        · exact least t behind

/-- Increasing texts are told apart by what is among them. -/
theorem eq_of_members {texts others : List String} (left : texts.Pairwise (· < ·))
    (right : others.Pairwise (· < ·)) (same : ∀ s, s ∈ texts ↔ s ∈ others) : texts = others := by
  have irrefl : Std.Irrefl fun s t : String => s < t := ⟨String.lt_irrefl⟩
  have asymm : Std.Asymm fun s t : String => s < t := ⟨fun _ _ => String.lt_asymm⟩
  exact List.Pairwise.eq_of_mem_iff left right same

/-! Employee ids. -/

/-- Whether a profile has a text under a key that is, in small letters, one of those of employee
ids. -/
def HasEmployeeId (p : Profile) (s : String) : Prop :=
  ∃ key, p.get? key = some (.text s) ∧ Text.lowercase key ∈ employeeIdKeys

theorem employeeIds_pairwise (p : Profile) : (employeeIds p).Pairwise (· < ·) := by
  unfold employeeIds
  generalize ((p.entries.filter _).filterMap _ : List String) = texts
  induction texts with
  | nil => exact List.Pairwise.nil
  | cons s rest ih => exact insertText_pairwise ih s

theorem mem_employeeIds {p : Profile} {s : String} : s ∈ employeeIds p ↔ HasEmployeeId p s := by
  have sorted : ∀ texts : List String, s ∈ texts.foldr insertText [] ↔ s ∈ texts := by
    intro texts
    induction texts with
    | nil => exact Iff.rfl
    | cons t rest ih => rw [List.foldr_cons, mem_insertText, ih, List.mem_cons]
  have isText : ∀ v : ProfileValue, v.text? = some s ↔ v = .text s := by
    intro v
    cases v <;> simp [ProfileValue.text?]
  simp only [employeeIds, sorted, List.mem_filterMap, List.mem_filter, List.contains_iff_mem, isText]
  constructor
  · rintro ⟨⟨key, v⟩, ⟨member, known⟩, rfl⟩
    exact ⟨key, p.ordered.mem_iff.mp member, known⟩
  · rintro ⟨key, found, known⟩
    exact ⟨(key, .text s), ⟨p.ordered.mem_iff.mpr found, known⟩, rfl⟩

theorem employeeIds_congr {p q : Profile} (same : ∀ s, HasEmployeeId q s ↔ HasEmployeeId p s) :
    employeeIds q = employeeIds p :=
  eq_of_members (employeeIds_pairwise q) (employeeIds_pairwise p) fun s => by
    rw [mem_employeeIds, mem_employeeIds, same]

/-- An entry under another key, or of another type, has no part in the employee ids. -/
theorem hasEmployeeId_remove {p : Profile} {key s : String}
    (idle : ∀ t, p.get? key = some (.text t) → Text.lowercase key ∉ employeeIdKeys) :
    HasEmployeeId (p.remove key) s ↔ HasEmployeeId p s := by
  have found : ∀ other, (p.remove key).get? other = if other = key then none else p.get? other :=
    fun other => Keyed.get?_erase key other p.entries
  simp only [HasEmployeeId, found]
  constructor
  · rintro ⟨other, kept, known⟩
    split at kept
    · contradiction
    · exact ⟨other, kept, known⟩
  · rintro ⟨other, kept, known⟩
    have different : other ≠ key := fun same => idle s (same ▸ kept) (same ▸ known)
    exact ⟨other, by rw [if_neg different, kept], known⟩

/-- The employee ids are exactly the texts under the known keys, each once and in order; an entry of
another key or another type may go, and a text may stand under other known keys or more of them. -/
theorem employeeIds_exact (p : Profile) :
    (employeeIds p).Pairwise (fun s t => Text.utf8 s.toList < Text.utf8 t.toList) ∧
    (employeeIds p).Nodup ∧
    (∀ s, s ∈ employeeIds p ↔
      ∃ key, p.get? key = some (.text s) ∧ Text.lowercase key ∈ employeeIdKeys) ∧
    (∀ key, (∀ s, p.get? key = some (.text s) → Text.lowercase key ∉ employeeIdKeys) →
      employeeIds (p.remove key) = employeeIds p) ∧
    ∀ q, (∀ s, HasEmployeeId q s ↔ HasEmployeeId p s) → employeeIds q = employeeIds p := by
  have ordered := employeeIds_pairwise p
  exact ⟨ordered.imp Text.utf8_lt, ordered.imp String.ne_of_lt, fun s => mem_employeeIds,
    fun key idle => employeeIds_congr fun s => hasEmployeeId_remove idle,
    fun q => employeeIds_congr⟩

/-! A profile with two employee ids under three keys, a number under a fourth and a text under a
key of another kind, and one with the same two ids. -/

def employed : Profile := .ofEntries [("employeeNumber", .text "E-2"), ("EMPLOYEE_ID", .text "E-1"),
  ("employeeId", .text "E-2"), ("employee_idnumber", .int 77), ("costCenter", .text "E-9")]

def reemployed : Profile := .ofEntries [("EmployeeNumber", .text "E-1"), ("employeeid", .text "E-2")]

theorem employeeIds_of_employed :
    (∀ s, employed.get? "costCenter" = some (.text s) →
      Text.lowercase "costCenter" ∉ employeeIdKeys) ∧
    (∀ s, HasEmployeeId reemployed s ↔ HasEmployeeId employed s) ∧
    employeeIds (employed.remove "costCenter") = ["E-1", "E-2"] ∧
    employeeIds reemployed = ["E-1", "E-2"] := by
  have ids : employeeIds employed = ["E-1", "E-2"] := by decide +kernel
  have idle : ∀ s, employed.get? "costCenter" = some (.text s) →
      Text.lowercase "costCenter" ∉ employeeIdKeys := fun _ _ => by decide +kernel
  have same : ∀ s, HasEmployeeId reemployed s ↔ HasEmployeeId employed s := by
    have again : employeeIds reemployed = ["E-1", "E-2"] := by decide +kernel
    intro s
    rw [← mem_employeeIds, ← mem_employeeIds, ids, again]
  obtain ⟨_, _, _, removed, congr⟩ := employeeIds_exact employed
  exact ⟨idle, same, (removed _ idle).trans ids, (congr reemployed same).trans ids⟩

end AccessCatalog.Okta.UserRecord
