import AccessCatalog.Proofs.Catalog.Attributes
import Mathlib.Data.List.Sort

/-! Records are read back from the value of what they are written as. The value of a document holds
the entries of an object in key order, so that a field is found by its name and not by its place;
a field that is left out is read as what it is when nothing is written. -/
namespace AccessCatalog

namespace Keyed

variable {α : Type}

@[simp] theorem get?_nil (key : String) : get? key ([] : List (String × α)) = none := rfl

theorem get?_cons (key : String) (e : String × α) (entries : List (String × α)) :
    get? key (e :: entries) = if e.1 = key then some e.2 else get? key entries := by
  by_cases here : e.1 = key <;> simp [get?, here]

theorem get?_eq_none {key : String} {entries : List (String × α)}
    (absent : ∀ e ∈ entries, e.1 ≠ key) : get? key entries = none := by
  simp only [get?, Option.map_eq_none_iff, List.find?_eq_none, decide_eq_true_eq]
  exact absent

theorem mem_ofList {entries : List (String × α)} {e : String × α} (h : e ∈ ofList entries) :
    e ∈ entries := by
  have run : ∀ rest done : List (String × α),
      e ∈ rest.foldl (fun done e => insert e.1 e.2 done) done → e ∈ rest ∨ e ∈ done := by
    intro rest
    induction rest with
    | nil => exact fun done member => .inr member
    | cons x rest ih =>
      intro done member
      rcases ih _ member with later | inserted
      · exact .inl (List.mem_cons_of_mem _ later)
      · rcases mem_insert inserted with rfl | before
        · exact .inl List.mem_cons_self
        · exact .inr before
  rcases run entries [] h with member | member
  · exact member
  · cases member

/-- Where each key stands once, at most one entry has it. -/
theorem filter_key {entries : List (String × α)} (distinct : (entries.map (·.1)).Nodup)
    (key : String) :
    (entries.filter fun e => e.1 = key) = ((get? key entries).map (key, ·)).toList := by
  induction entries with
  | nil => rfl
  | cons e rest ih =>
    obtain ⟨new, distinct⟩ := List.nodup_cons.mp distinct
    rw [get?_cons]
    by_cases here : e.1 = key
    · have later : get? key rest = none := get?_eq_none fun f member same =>
        new (List.mem_map.mpr ⟨f, member, same.trans here.symm⟩)
      rw [List.filter_cons_of_pos (by simpa using here), ih distinct, later, if_pos here, ← here]
      rfl
    · rw [List.filter_cons_of_neg (by simpa using here), ih distinct, if_neg here]

/-- Of the entries of a key, the last one counts. -/
theorem get?_ofList_last (key : String) (entries : List (String × α)) :
    get? key (ofList entries) = ((entries.filter fun e => e.1 = key).getLast?).map (·.2) := by
  have run : ∀ rest done : List (String × α),
      get? key (rest.foldl (fun done e => insert e.1 e.2 done) done) =
        (((rest.filter fun e => e.1 = key).getLast?).map (·.2)).or (get? key done) := by
    intro rest
    induction rest with
    | nil => exact fun done => rfl
    | cons e rest ih =>
      intro done
      rw [List.foldl_cons, ih, get?_insert]
      by_cases here : e.1 = key
      · rw [List.filter_cons_of_pos (by simpa using here), List.getLast?_cons, if_pos here.symm]
        cases (rest.filter fun e => e.1 = key).getLast? <;> simp
      · rw [List.filter_cons_of_neg (by simpa using here), if_neg (Ne.symm here)]
  rw [ofList, run]
  exact Option.or_none

theorem get?_ofList {entries : List (String × α)} (distinct : (entries.map (·.1)).Nodup)
    (key : String) : get? key (ofList entries) = get? key entries := by
  rw [get?_ofList_last, filter_key distinct]
  cases get? key entries <;> rfl

theorem Ordered.distinct {entries : List (String × α)} (ordered : Ordered entries) :
    (entries.map (·.1)).Nodup :=
  List.pairwise_map.mpr (List.Pairwise.imp (fun below => String.ne_of_lt below) ordered)

theorem Ordered.mem_iff {entries : List (String × α)} (ordered : Ordered entries)
    {e : String × α} : e ∈ entries ↔ get? e.1 entries = some e.2 := by
  have inFilter : e ∈ entries ↔ e ∈ entries.filter fun f => f.1 = e.1 := by simp
  rw [inFilter, filter_key ordered.distinct]
  cases get? e.1 entries <;> simp [Prod.ext_iff, eq_comm]

/-- Ordered entries are the same where they have the same under every key. -/
theorem Ordered.ext {a b : List (String × α)} (left : Ordered a) (right : Ordered b)
    (same : ∀ key, get? key a = get? key b) : a = b := by
  have irrefl : Std.Irrefl fun d e : String × α => d.1 < e.1 := ⟨fun d => String.lt_irrefl d.1⟩
  have asymm : Std.Asymm fun d e : String × α => d.1 < e.1 := ⟨fun _ _ => String.lt_asymm⟩
  exact List.Pairwise.eq_of_mem_iff left right fun e => by rw [left.mem_iff, right.mem_iff, same]

/-- What is put under a key is passed over where that key is not wanted. -/
theorem filter_insert (wanted : String → Bool) {key : String} (unwanted : wanted key = false)
    (value : α) (entries : List (String × α)) :
    ((insert key value entries).filter fun e => wanted e.1) =
      entries.filter fun e => wanted e.1 := by
  induction entries with
  | nil => simp [insert, unwanted]
  | cons e rest ih =>
    obtain ⟨k, v⟩ := e
    simp only [insert]
    split
    · rw [List.filter_cons_of_neg (by simp [unwanted])]
    · split
      · rename_i same
        subst same
        rw [List.filter_cons_of_neg (by simp [unwanted]),
          List.filter_cons_of_neg (by simp [unwanted])]
      · rw [List.filter_cons, List.filter_cons, ih]

end Keyed

theorem Profile.ext_get? {p q : Profile} (same : ∀ key, p.get? key = q.get? key) : p = q := by
  have entries : p.entries = q.entries := p.ordered.ext q.ordered same
  cases p
  cases q
  cases entries
  rfl

namespace Json

variable {α : Type} {decode : Json → Option α}

/-- Whether the value of a document is read as this. -/
def Yields (decode : Json → Option α) (v : Json) (a : α) : Prop :=
  ∃ w, v.value? = some w ∧ decode w = some a

/-! Values are readable. -/

theorem isReadable_obj {entries : List (String × Json)}
    (each : ∀ e ∈ entries, e.2.isReadable = true) : (obj entries).isReadable = true := by
  have read : (entryValues? entries).isSome = true := by
    induction entries with
    | nil => rfl
    | cons e rest ih =>
      obtain ⟨k, v⟩ := e
      obtain ⟨w, head⟩ := Option.isSome_iff_exists.mp (each (k, v) List.mem_cons_self)
      obtain ⟨ws, tail⟩ := Option.isSome_iff_exists.mp
        (ih fun f member => each f (List.mem_cons_of_mem _ member))
      simp [entryValues?, head, tail]
  simpa [isReadable, value?] using read

mutual

theorem isReadable_value : ∀ {v w : Json}, v.value? = some w → w.isReadable = true
  | .arr items, w, read => by
    obtain ⟨ws, values, rfl⟩ := Option.map_eq_some_iff.mp read
    simpa [isReadable, value?] using isSome_values values
  | .obj entries, w, read => by
    obtain ⟨es, values, rfl⟩ := Option.map_eq_some_iff.mp read
    exact isReadable_obj fun e member => isReadable_entryValues values e (Keyed.mem_ofList member)
  | .unreadable, w, read => by cases read
  | .null, w, read | .bool _, w, read | .num _, w, read | .str _, w, read => by
    cases read
    rfl

theorem isSome_values : ∀ {vs ws : List Json}, values? vs = some ws → (values? ws).isSome = true
  | [], ws, read => by
    cases read
    rfl
  | v :: rest, ws, read => by
    rw [values?] at read
    obtain ⟨w, head, read⟩ := Option.bind_eq_some_iff.mp read
    obtain ⟨others, tail, read⟩ := Option.bind_eq_some_iff.mp read
    cases read
    obtain ⟨first, headRead⟩ := Option.isSome_iff_exists.mp (isReadable_value head)
    obtain ⟨others', tailRead⟩ := Option.isSome_iff_exists.mp (isSome_values tail)
    simp [values?, headRead, tailRead]

theorem isReadable_entryValues : ∀ {es ws : List (String × Json)}, entryValues? es = some ws →
    ∀ e ∈ ws, e.2.isReadable = true
  | [], ws, read => by
    cases read
    exact fun e member => nomatch member
  | (k, v) :: rest, ws, read => by
    rw [entryValues?] at read
    obtain ⟨w, head, read⟩ := Option.bind_eq_some_iff.mp read
    obtain ⟨others, tail, read⟩ := Option.bind_eq_some_iff.mp read
    cases read
    intro e member
    rcases List.mem_cons.mp member with rfl | member
    · exact isReadable_value head
    · exact isReadable_entryValues tail e member

end

/-! Single values. -/

theorem yields_str (s : String) : Yields str? (.str s) s := ⟨_, rfl, rfl⟩
theorem yields_bool (b : Bool) : Yields bool? (.bool b) b := ⟨_, rfl, rfl⟩

theorem yields_intIn {low high i : Int} (above : low ≤ i) (below : i ≤ high) :
    Yields (intIn? low high) (.int i) i :=
  ⟨_, rfl, by simp [int, intIn?, above, below]⟩

theorem yields_natBelow {limit n : Nat} (below : n < limit) :
    Yields (natBelow? limit) (.nat n) n :=
  ⟨_, rfl, by simp [nat, natBelow?, intIn?]; omega⟩

theorem yields_list {encode : α → Json} {items : List α}
    (each : ∀ a ∈ items, Yields decode (encode a) a) :
    Yields (list? decode) (.arr (items.map encode)) items := by
  have read : ∃ ws, values? (items.map encode) = some ws ∧ ws.mapM decode = some items := by
    induction items with
    | nil => exact ⟨[], rfl, rfl⟩
    | cons a rest ih =>
      obtain ⟨w, value, head⟩ := each a List.mem_cons_self
      obtain ⟨ws, values, tail⟩ := ih fun b member => each b (List.mem_cons_of_mem _ member)
      exact ⟨w :: ws, by simp [values?, value, values], by simp [head, tail]⟩
  obtain ⟨ws, values, items⟩ := read
  exact ⟨.arr ws, by simp [value?, values], items⟩

theorem yields_strings (items : List String) : Yields (list? str?) (strings items) items :=
  yields_list fun s _ => yields_str s

theorem Yields.map {β : Type} {v : Json} {a : α} (h : Yields decode v a) (f : α → β) :
    Yields (fun v => (decode v).map f) v (f a) := by
  obtain ⟨w, value, read⟩ := h
  exact ⟨w, value, by simp [read]⟩

/-! Fields. -/

/-- What the entry of a field becomes in the value of its record. -/
inductive Slot (name : String) : Option (String × Json) → Option Json → Prop where
  | kept {v w : Json} : v.value? = some w → Slot name (some (name, v)) (some w)
  | omitted : Slot name none none

inductive Slots : List String → List (Option (String × Json)) → List (Option Json) → Prop where
  | nil : Slots [] [] []
  | cons {name : String} {slot : Option (String × Json)} {field : Option Json}
      {names : List String} {slots : List (Option (String × Json))} {fields : List (Option Json)} :
      Slot name slot field → Slots names slots fields →
        Slots (name :: names) (slot :: slots) (field :: fields)

/-- Whether the field of a record is read as this. -/
def Fills (read : Option Json → Option α) (name : String) (slot : Option (String × Json))
    (a : α) : Prop :=
  ∃ field, Slot name slot field ∧ read field = some a

theorem Yields.required {v : Json} {a : α} (h : Yields decode v a) (name : String) :
    Fills (required decode) name (entry name v) a := by
  obtain ⟨w, value, read⟩ := h
  exact ⟨some w, .kept value, read⟩

theorem Yields.orElse {v : Json} {a : α} (h : Yields decode v a) (default : α) (name : String) :
    Fills (orElse decode default) name (entry name v) a := by
  obtain ⟨w, value, read⟩ := h
  exact ⟨some w, .kept value, read⟩

/-- A field left out where it has its default. -/
theorem Yields.orElse_unless {v : Json} {a : α} {omitted : Bool} (h : Yields decode v a)
    (default : α) (same : omitted = true → a = default) (name : String) :
    Fills (Json.orElse decode default) name (entryUnless omitted name v) a := by
  obtain ⟨w, value, read⟩ := h
  cases omitted with
  | true => exact ⟨none, .omitted, by rw [same rfl]; rfl⟩
  | false => exact ⟨some w, .kept value, read⟩

/-- A field left out where it is nothing. What is written must not be null, which is read as
nothing. -/
theorem fills_optional {encode : α → Json} (option : Option α)
    (each : ∀ a ∈ option, Yields decode (encode a) a) (solid : decode .null = none)
    (name : String) :
    Fills (orElse (optional? decode) none) name (option.map fun a => (name, encode a)) option := by
  cases option with
  | none => exact ⟨none, .omitted, rfl⟩
  | some a =>
    obtain ⟨w, value, read⟩ := each a rfl
    refine ⟨some w, .kept value, ?_⟩
    have notNull : w ≠ .null := by
      rintro rfl
      rw [solid] at read
      cases read
    have same : optional? decode w = (decode w).map some := by
      cases w <;> first | rfl | exact absurd rfl notNull
    rw [Json.orElse, same, read]
    rfl

/-! Records. -/

section Records

variable {names : List String} {slots : List (Option (String × Json))} {fields : List (Option Json)}

theorem Slots.entries (h : Slots names slots fields) (distinct : names.Nodup) :
    ∃ es, entryValues? (slots.filterMap id) = some es ∧ (∀ e ∈ es, e.1 ∈ names) ∧
      (es.map (·.1)).Nodup ∧ (names.map fun name => Keyed.get? name es) = fields := by
  induction h with
  | nil => exact ⟨[], rfl, by simp, List.nodup_nil, rfl⟩
  | @cons name slot field names slots fields head _ ih =>
    obtain ⟨new, distinct⟩ := List.nodup_cons.mp distinct
    obtain ⟨es, values, named, keys, read⟩ := ih distinct
    cases head with
    | omitted =>
      have absent : Keyed.get? name es = none :=
        Keyed.get?_eq_none fun e member same => new (same ▸ named e member)
      refine ⟨es, values, fun e member => List.mem_cons_of_mem _ (named e member), keys, ?_⟩
      rw [List.map_cons, absent, read]
    | @kept v w value =>
      refine ⟨(name, w) :: es, ?_, ?_, ?_, ?_⟩
      · change entryValues? ((name, v) :: slots.filterMap id) = _
        rw [entryValues?, value, values]
        rfl
      · intro e member
        rcases List.mem_cons.mp member with rfl | member
        · exact List.mem_cons_self
        · exact List.mem_cons_of_mem _ (named e member)
      · refine List.nodup_cons.mpr ⟨fun member => ?_, keys⟩
        obtain ⟨e, member, same⟩ := List.mem_map.mp member
        exact new ((show e.1 = name from same) ▸ named e member)
      · rw [List.map_cons, Keyed.get?_cons, if_pos rfl, ← read]
        refine congrArg _ (List.map_congr_left fun other member => ?_)
        rw [Keyed.get?_cons, if_neg]
        rintro rfl
        exact new member

theorem fields?_ordered {entries : List (String × Json)} (ordered : Keyed.Ordered entries)
    (names : List String) :
    (obj entries).fields? (names.map fun name => [name]) =
      some (names.map fun name => Keyed.get? name entries) := by
  unfold fields?
  induction names with
  | nil => rfl
  | cons name names ih =>
    have chosen : (entries.filter fun e => [name].contains e.1) =
        ((Keyed.get? name entries).map (name, ·)).toList := by
      rw [← Keyed.filter_key ordered.distinct name]
      exact List.filter_congr fun e _ => by simp
    dsimp only at ih ⊢
    rw [List.map_cons, List.mapM_cons, chosen, ih]
    cases found : Keyed.get? name entries <;> simp [found]

/-- A record is read field by field from its value. -/
theorem Slots.yields (h : Slots names slots fields) (distinct : names.Nodup) {a : α}
    (read : ∀ w : Json, w.fields? (names.map fun name => [name]) = some fields →
      decode w = some a) : Yields decode (record slots) a := by
  obtain ⟨es, values, -, keys, found⟩ := h.entries distinct
  refine ⟨.obj (Keyed.ofList es), by rw [record, value?, values, Option.map_some], read _ ?_⟩
  rw [fields?_ordered (Keyed.Ordered.ofList es), ← found]
  exact congrArg some (List.map_congr_left fun name _ => Keyed.get?_ofList keys name)

/-- A tagged record is read by its tag, and field by field from the rest of its value. -/
theorem Slots.yields_tagged (h : Slots names slots fields) (tag name : String)
    (distinct : (tag :: names).Nodup) {a : α}
    (read : ∀ w rest : Json, w.tagged? tag = some (name, rest) →
      rest.fields? (names.map fun name => [name]) = some fields → rest.noFields? = some () →
        decode w = some a) :
    Yields decode (record (entry tag (.str name) :: slots)) a := by
  have tagSlot : Slot tag (entry tag (.str name)) (some (.str name)) := .kept rfl
  obtain ⟨es, values, -, keys, found⟩ := (Slots.cons tagSlot h).entries distinct
  obtain ⟨tagFound, fieldsFound⟩ := List.cons.inj found
  dsimp only at tagFound
  have ordered := Keyed.Ordered.ofList es
  have chosen := Keyed.filter_key ordered.distinct tag
  rw [Keyed.get?_ofList keys, tagFound] at chosen
  have readable : (obj (Keyed.erase tag (Keyed.ofList es))).isReadable = true :=
    isReadable_obj fun e member => isReadable_entryValues values e
      (Keyed.mem_ofList (List.mem_filter.mp member).1)
  refine ⟨.obj (Keyed.ofList es), by rw [record, value?, values, Option.map_some],
    read _ (.obj (Keyed.erase tag (Keyed.ofList es))) ?_ ?_ rfl⟩
  · unfold tagged?
    dsimp only
    rw [chosen]
    exact if_pos readable
  · rw [fields?_ordered (ordered.erase tag), ← fieldsFound]
    refine congrArg some (List.map_congr_left fun other member => ?_)
    have apart : other ≠ tag := fun same => (List.nodup_cons.mp distinct).1 (same ▸ member)
    rw [Keyed.get?_erase, if_neg apart, Keyed.get?_ofList keys]

end Records

end Json
end AccessCatalog
