/-! Entries kept in strictly increasing order of their keys, so that two collections with the same
entries are equal. -/
namespace AccessCatalog.Keyed

variable {α β : Type}

def Ordered (entries : List (String × α)) : Prop := entries.Pairwise fun a b => a.1 < b.1

/-- Puts a value under a key, in place of the value it had. -/
def insert (key : String) (value : α) : List (String × α) → List (String × α)
  | [] => [(key, value)]
  | (k, v) :: rest =>
    if key < k then (key, value) :: (k, v) :: rest
    else if key = k then (key, value) :: rest
    else (k, v) :: insert key value rest

/-- Later entries replace earlier ones of the same key. -/
def ofList (entries : List (String × α)) : List (String × α) :=
  entries.foldl (fun done e => insert e.1 e.2 done) []

def erase (key : String) (entries : List (String × α)) : List (String × α) :=
  entries.filter fun e => e.1 ≠ key

def get? (key : String) (entries : List (String × α)) : Option α :=
  (entries.find? fun e => e.1 = key).map (·.2)

theorem mem_insert {key : String} {value : α} {entries : List (String × α)} {e : String × α}
    (h : e ∈ insert key value entries) : e = (key, value) ∨ e ∈ entries := by
  induction entries with
  | nil => simpa [insert] using h
  | cons x rest ih =>
    obtain ⟨k, v⟩ := x
    simp only [insert] at h
    split at h
    · simpa using h
    · split at h
      · rcases List.mem_cons.1 h with h | h
        · exact .inl h
        · exact .inr (List.mem_cons_of_mem _ h)
      · rcases List.mem_cons.1 h with h | h
        · exact .inr (h ▸ List.mem_cons_self)
        · rcases ih h with h | h
          · exact .inl h
          · exact .inr (List.mem_cons_of_mem _ h)

/-- What is put in is found, and nothing else is found that was not there. -/
theorem get?_insert (key other : String) (value : α) (entries : List (String × α)) :
    get? other (insert key value entries) =
      if other = key then some value else get? other entries := by
  induction entries with
  | nil => by_cases same : other = key <;> simp [insert, get?, same, eq_comm]
  | cons x rest ih =>
    obtain ⟨k, v⟩ := x
    simp only [insert]
    split
    · by_cases same : key = other
      · simp [get?, same]
      · simp [get?, same, Ne.symm same]
    · split
      · rename_i replaced
        subst replaced
        by_cases same : key = other
        · simp [get?, same]
        · simp [get?, same, Ne.symm same]
      · rename_i different
        by_cases here : k = other
        · subst here
          simp [get?, Ne.symm different]
        · simpa [get?, here] using ih

/-- What is put under a key replaces what was put there before. -/
theorem insert_insert (key : String) (old value : α) (entries : List (String × α)) :
    insert key value (insert key old entries) = insert key value entries := by
  induction entries with
  | nil => simp [insert, String.lt_irrefl]
  | cons x rest ih =>
    obtain ⟨k, v⟩ := x
    simp only [insert]
    split
    · simp [insert, String.lt_irrefl]
    · split
      · simp [insert, String.lt_irrefl]
      · rename_i notBefore other
        rw [insert, if_neg notBefore, if_neg other, ih]

theorem countP_insert {key : String} (p : String × α → Bool) (value : α)
    {entries : List (String × α)} (absent : get? key entries = none) :
    (insert key value entries).countP p = entries.countP p + if p (key, value) then 1 else 0 := by
  induction entries with
  | nil => simp [insert, List.countP_cons]
  | cons x rest ih =>
    obtain ⟨k, v⟩ := x
    have other : k ≠ key := fun same => by simp [get?, same] at absent
    have behind : get? key rest = none := by simpa [get?, other] using absent
    simp only [insert]
    split
    · rw [List.countP_cons]
    · rw [if_neg other.symm, List.countP_cons, List.countP_cons, ih behind]
      omega

theorem get?_erase (key other : String) (entries : List (String × α)) :
    get? other (erase key entries) = if other = key then none else get? other entries := by
  induction entries with
  | nil => simp [erase, get?]
  | cons x rest ih =>
    obtain ⟨k, v⟩ := x
    by_cases erased : k = key
    · have dropped : erase key ((k, v) :: rest) = erase key rest := by simp [erase, erased]
      rw [dropped, ih]
      by_cases same : other = key
      · rw [if_pos same, if_pos same]
      · simp [get?, erased, Ne.symm same]
    · have stays : erase key ((k, v) :: rest) = (k, v) :: erase key rest := by
        simp [erase, erased]
      rw [stays]
      by_cases here : k = other
      · subst here
        simp [get?, erased]
      · simpa [get?, here] using ih

theorem Ordered.insert {entries : List (String × α)} (h : Ordered entries) (key : String)
    (value : α) : Ordered (insert key value entries) := by
  induction entries with
  | nil => simp [Keyed.insert, Ordered]
  | cons x rest ih =>
    obtain ⟨k, v⟩ := x
    obtain ⟨first, tail⟩ := List.pairwise_cons.1 h
    simp only [Keyed.insert]
    split
    · rename_i before
      refine List.pairwise_cons.2 ⟨fun e he => ?_, h⟩
      rcases List.mem_cons.1 he with he | he
      · exact he ▸ before
      · exact String.lt_trans before (first e he)
    · rename_i notBefore
      split
      · rename_i same
        subst same
        exact List.pairwise_cons.2 ⟨fun e he => first e he, tail⟩
      · rename_i other
        refine List.pairwise_cons.2 ⟨fun e he => ?_, ih tail⟩
        rcases mem_insert he with he | he
        · have after : k < key := by
            rcases Decidable.em (k < key) with after | notAfter
            · exact after
            · exact absurd (String.le_antisymm (String.not_lt.1 notAfter)
                (String.not_lt.1 notBefore)) other
          exact he ▸ after
        · exact first e he

theorem Ordered.ofList (entries : List (String × α)) : Ordered (ofList entries) := by
  have step : ∀ done : List (String × α), Ordered done →
      Ordered (entries.foldl (fun done e => Keyed.insert e.1 e.2 done) done) := by
    induction entries with
    | nil => exact fun _ h => h
    | cons e rest ih => exact fun done h => ih _ (h.insert e.1 e.2)
  exact step [] List.Pairwise.nil

theorem Ordered.erase {entries : List (String × α)} (h : Ordered entries) (key : String) :
    Ordered (erase key entries) := h.filter _

end AccessCatalog.Keyed
