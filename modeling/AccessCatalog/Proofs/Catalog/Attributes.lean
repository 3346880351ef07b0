import AccessCatalog.Catalog.Profile

/-! Attributes of a profile that were the entries of a document. The value of a document holds each
key once and in order, so that a profile made of it has under a key what the document has there. -/
namespace AccessCatalog

namespace Keyed

variable {α β : Type}

theorem insert_last {entries : List (String × α)} {key : String} {value : α}
    (below : ∀ e ∈ entries, e.1 < key) : insert key value entries = entries ++ [(key, value)] := by
  induction entries with
  | nil => rfl
  | cons e rest ih =>
    obtain ⟨k, v⟩ := e
    have before : k < key := below (k, v) List.mem_cons_self
    have notBehind : ¬key < k := String.lt_asymm before
    have different : key ≠ k := fun same => String.lt_irrefl k (same ▸ before)
    rw [insert, if_neg notBehind, if_neg different,
      ih fun e member => below e (List.mem_cons_of_mem _ member)]
    rfl

theorem ofList_ordered {entries : List (String × α)} (ordered : Ordered entries) :
    ofList entries = entries := by
  have run : ∀ rest done : List (String × α), Ordered (done ++ rest) →
      rest.foldl (fun done e => insert e.1 e.2 done) done = done ++ rest := by
    intro rest
    induction rest with
    | nil => exact fun done _ => (List.append_nil done).symm
    | cons e rest ih =>
      intro done ordered
      have below : ∀ d ∈ done, d.1 < e.1 := fun d member =>
        (List.pairwise_append.mp ordered).2.2 d member e List.mem_cons_self
      rw [List.foldl_cons, insert_last below]
      have moved : done ++ [(e.1, e.2)] ++ rest = done ++ e :: rest := by simp
      rw [ih _ (moved.symm ▸ ordered), moved]
  exact run entries [] ordered

theorem Ordered.map_value {entries : List (String × α)} (ordered : Ordered entries)
    (f : α → β) : Ordered (entries.map fun e => (e.1, f e.2)) :=
  List.pairwise_map.mpr ordered

theorem get?_map (key : String) (entries : List (String × α)) (f : α → β) :
    get? key (entries.map fun e => (e.1, f e.2)) = (entries.lookup key).map f := by
  induction entries with
  | nil => rfl
  | cons e rest ih =>
    obtain ⟨k, v⟩ := e
    by_cases here : k = key
    · simp [get?, here]
    · have other : (key == k) = false := beq_eq_false_iff_ne.mpr (Ne.symm here)
      simpa [get?, here, List.lookup_cons, other] using ih

end Keyed

namespace Json

/-- Whether an object holds each key once, in order. -/
def IsKeyed : Json → Prop
  | .obj entries => Keyed.Ordered entries
  | _ => True

theorem value?_isKeyed {v value : Json} (read : v.value? = some value) : value.IsKeyed := by
  cases v with
  | obj entries =>
    obtain ⟨es, _, rfl⟩ := Option.map_eq_some_iff.mp read
    exact Keyed.Ordered.ofList es
  | arr items =>
    obtain ⟨vs, _, rfl⟩ := Option.map_eq_some_iff.mp read
    trivial
  | unreadable => cases read
  | null | bool _ | num _ | str _ =>
    cases read
    trivial

theorem bind_str?_eq_some {v : Option Json} {s : String} :
    v.bind str? = some s ↔ v = some (.str s) := by
  constructor
  · intro read
    obtain ⟨value, rfl, text⟩ := Option.bind_eq_some_iff.mp read
    cases value with
    | str t =>
      cases text
      rfl
    | _ => cases text
  · rintro rfl
    rfl

/-- A list is read item by item. -/
theorem map_of_list? {α : Type} {item : Json → Option α} {v : Json} {items : List α}
    (read : list? item v = some items) :
    ∃ parts, v = .arr parts ∧ parts.map item = items.map some := by
  cases v with
  | arr parts =>
    refine ⟨parts, rfl, ?_⟩
    have each : parts.mapM item = some items := read
    clear read
    induction parts generalizing items with
    | nil =>
      cases each
      rfl
    | cons part parts ih =>
      rw [List.mapM_cons] at each
      obtain ⟨a, here, each⟩ := Option.bind_eq_some_iff.mp each
      obtain ⟨others, rest, each⟩ := Option.bind_eq_some_iff.mp each
      cases each
      rw [List.map_cons, here, ih rest, List.map_cons]
  | _ => cases read

theorem mem_of_list? {α : Type} {item : Json → Option α} {v : Json} {items : List α}
    (read : list? item v = some items) : ∀ a ∈ items, ∃ part, item part = some a := by
  obtain ⟨parts, rfl, same⟩ := map_of_list? read
  intro a member
  have among : some a ∈ parts.map item := same ▸ List.mem_map_of_mem member
  obtain ⟨part, _, here⟩ := List.mem_map.mp among
  exact ⟨part, here⟩

end Json

theorem ProfileValue.text?_ofJson (v : Json) : (ofJson v).text? = v.str? := by
  cases v with
  | num n =>
    cases n with
    | int i =>
      simp only [ofJson, ofNumber]
      split <;> rfl
    | float x => rfl
  | _ => rfl

@[simp] theorem Profile.get?_empty (key : String) : empty.get? key = none := rfl

@[simp] theorem Profile.get?_set (p : Profile) (key other : String) (value : ProfileValue) :
    (p.set key value).get? other = if other = key then some value else p.get? other :=
  Keyed.get?_insert key other value p.entries

@[simp] theorem Profile.text?_set (p : Profile) (key other : String) (value : ProfileValue) :
    (p.set key value).text? other = if other = key then value.text? else p.text? other := by
  rw [text?, get?_set]
  split <;> rfl

/-- A profile has the texts that the document has under its keys. -/
theorem Profile.text?_ofJson {v : Json} (keyed : v.IsKeyed) (key : String) :
    (ofJson v).text? key = (v.get? key).bind Json.str? := by
  cases v with
  | obj entries =>
    have ordered : Keyed.Ordered (entries.map fun e => (e.1, ProfileValue.ofJson e.2)) :=
      Keyed.Ordered.map_value keyed _
    have found : (ofJson (.obj entries)).get? key = (entries.lookup key).map ProfileValue.ofJson :=
      (congrArg (Keyed.get? key) (Keyed.ofList_ordered ordered)).trans (Keyed.get?_map _ _ _)
    rw [text?, found, Option.bind_map, Json.get?]
    congr 1
    exact funext ProfileValue.text?_ofJson
  | _ => rfl

end AccessCatalog
