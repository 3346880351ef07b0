import AccessCatalog.Proofs.Json.Held

/-! Profiles and documents. A profile that is read from a document is the one made of the value of
the document, and a profile made of documents is written as it is, so that both ways in and both
ways out agree. The document of a value does not say its kind, but no kind that is tried earlier
takes it. What went in comes out, except that an integer without a signed form becomes a float where
it stands in no object. -/
namespace AccessCatalog

namespace Keyed

variable {α β : Type}

theorem insert_map (f : α → β) (key : String) (value : α) (entries : List (String × α)) :
    insert key (f value) (entries.map fun e => (e.1, f e.2)) =
      (insert key value entries).map fun e => (e.1, f e.2) := by
  induction entries with
  | nil => rfl
  | cons e rest ih =>
    obtain ⟨k, v⟩ := e
    simp only [List.map_cons, insert, ih]
    split
    · rfl
    · split <;> rfl

theorem ofList_map (f : α → β) (entries : List (String × α)) :
    ofList (entries.map fun e => (e.1, f e.2)) = (ofList entries).map fun e => (e.1, f e.2) := by
  rw [eq_comm, ofList, ofList, List.foldl_map]
  refine (List.foldl_hom (List.map fun e : String × α => (e.1, f e.2)) fun done e => ?_).symm
  exact insert_map f e.1 e.2 done

end Keyed

/-! Reading. -/

namespace ProfileValue

theorem ofJsonItems_eq (items : List Json) : ofJsonItems items = items.map ofJson := by
  induction items with
  | nil => rfl
  | cons v rest ih => rw [ofJsonItems, ih, List.map_cons]

theorem decode?_num (n : Number) : decode? (.num n) = some (ofNumber n) := by
  cases n with
  | float x => rfl
  | int i =>
    by_cases fits : Numeric.minInt64 ≤ i ∧ i ≤ Numeric.maxInt64
    · simp [decode?, Kind.first?, Kind.all, Kind.take?, Json.bool?, Json.int64?, Json.intIn?,
        ofNumber, Numeric.fitsInt64, fits]
    · simp [decode?, Kind.first?, Kind.all, Kind.take?, Json.bool?, Json.int64?, Json.intIn?,
        Json.str?, ofNumber, Numeric.fitsInt64, fits]

mutual

/-- The first kind that takes a document is the kind that its value has. -/
theorem decode?_eq : ∀ v : Json, decode? v = v.value?.map ofJson
  | .null | .bool _ | .str _ | .unreadable => rfl
  | .num n => decode?_num n
  | .arr items => by
    rw [decode?, decodeItems?_values items, Json.value?]
    cases Json.values? items <;> rfl
  | .obj entries => by
    have tried : decode? (.obj entries) = Kind.take? none .object (.obj entries) := by
      cases found : Json.entryValues? entries <;> simp [decode?, Kind.first?, Kind.all,
        Kind.take?, found, Json.bool?, Json.int64?, Json.intIn?, Json.str?]
    rw [tried, Kind.take?, Json.value?, Option.map_map]
    rfl

theorem decodeItems?_values : ∀ items : List Json,
    decodeItems? items = (Json.values? items).map ofJsonItems
  | [] => rfl
  | v :: rest => by
    rw [decodeItems?, decode?_eq v, decodeItems?_values rest, Json.values?]
    cases v.value? with
    | none => rfl
    | some w => cases Json.values? rest <;> rfl

end

end ProfileValue

namespace Profile

theorem decodeEntries?_eq (entries : List (String × Json)) :
    (entries.mapM fun e => (ProfileValue.decode? e.2).map fun v => (e.1, v)) =
      (Json.entryValues? entries).map fun es => es.map fun e => (e.1, ProfileValue.ofJson e.2) := by
  induction entries with
  | nil => rfl
  | cons e rest ih =>
    obtain ⟨k, v⟩ := e
    rw [List.mapM_cons, ih, ProfileValue.decode?_eq, Json.entryValues?]
    cases v.value? with
    | none => rfl
    | some w => cases Json.entryValues? rest <;> rfl

/-- A profile is read from an object as what the value of the object makes. -/
theorem decode?_obj (entries : List (String × Json)) :
    decode? (.obj entries) = (Json.obj entries).value?.map ofJson := by
  have same : ∀ es : List (String × Json),
      ofEntries (es.map fun e => (e.1, ProfileValue.ofJson e.2)) =
        ofJson (.obj (Keyed.ofList es)) := by
    intro es
    simp only [ofJson, ofEntries, Keyed.ofList_map,
      Keyed.ofList_ordered (Keyed.Ordered.ofList es)]
  rw [decode?, decodeEntries?_eq, Json.value?, Option.map_map, Option.map_map]
  exact congrArg (Option.map · _) (funext same)

end Profile

/-! Writing. -/

/-- Whether integers fit 64 bits, floats are numbers, and objects are values of documents. -/
inductive ProfileValue.IsValid : ProfileValue → Prop where
  | null : IsValid .null
  | bool (b : Bool) : IsValid (.bool b)
  | int {i : Int} : Numeric.fitsInt64 i = true → IsValid (.int i)
  | float {x : Numeric.Binary64} : x.isFinite = true → IsValid (.float x)
  | text (s : String) : IsValid (.text s)
  | list {items : List ProfileValue} : (∀ v ∈ items, IsValid v) → IsValid (.list items)
  | object {entries : List (String × Json)} :
      (Json.obj entries).value? = some (.obj entries) → IsValid (.object entries)

def Profile.IsValid (p : Profile) : Prop := ∀ e ∈ p.entries, e.2.IsValid

namespace ProfileValue

theorem ofJson_isValid {v : Json} (held : v.Held) : (ofJson v).IsValid := by
  induction held with
  | null => exact .null
  | bool b => exact .bool b
  | str s => exact .text s
  | @num n held =>
    cases n with
    | float x => exact .float held
    | int i =>
      rw [ofJson, ofNumber]
      split
      · rename_i fits
        exact .int fits
      · rename_i wide
        exact .float (Numeric.Binary64.isFinite_ofInt held.1 held.2 wide)
  | @arr items _ ih =>
    rw [ofJson, ofJsonItems_eq]
    refine .list fun value member => ?_
    obtain ⟨v, among, rfl⟩ := List.mem_map.mp member
    exact ih v among
  | obj ordered each _ => exact .object (Json.Held.obj ordered each).value?

theorem toJsonItems_eq (items : List ProfileValue) : toJsonItems items = items.map toJson := by
  induction items with
  | nil => rfl
  | cons v rest ih => rw [toJsonItems, ih, List.map_cons]

theorem toJson_list (items : List ProfileValue) :
    toJson (.list items) = .arr (items.map toJson) := by
  rw [toJson, toJsonItems_eq]

theorem toJson_float {x : Numeric.Binary64} (finite : x.isFinite = true) :
    toJson (.float x) = .num (.float x) := if_pos finite

/-- A value is made again of the document it is written as. -/
theorem ofJson_toJson {v : ProfileValue} (valid : v.IsValid) : ofJson v.toJson = v := by
  induction valid with
  | null | bool _ | text _ | object _ => rfl
  | @int i fits => exact if_pos fits
  | float finite =>
    rw [toJson_float finite]
    rfl
  | @list items _ ih =>
    rw [toJson_list, ofJson, ofJsonItems_eq, List.map_map]
    exact congrArg list ((List.map_congr_left ih).trans (List.map_id items))

/-- What a value is written as is its own value. -/
theorem value?_toJson {v : ProfileValue} (valid : v.IsValid) : v.toJson.value? = some v.toJson := by
  induction valid with
  | null | bool _ | text _ | int _ => rfl
  | float finite =>
    rw [toJson_float finite]
    rfl
  | @list items _ ih =>
    have each : ∀ v ∈ items.map toJson, v.value? = some v := by
      intro v member
      obtain ⟨value, among, rfl⟩ := List.mem_map.mp member
      exact ih value among
    rw [toJson_list, Json.value?, Json.values?_own each, Option.map_some]
  | object value => exact value

mutual

/-- Whether a value is serialised or converted, the document is the same. -/
theorem encode_eq_toJson : ∀ v : ProfileValue, v.encode = v.toJson
  | .null | .bool _ | .int _ | .float _ | .text _ | .object _ => rfl
  | .list items => congrArg Json.arr (encodeItems_eq_toJsonItems items)

theorem encodeItems_eq_toJsonItems : ∀ items : List ProfileValue,
    encodeItems items = toJsonItems items
  | [] => rfl
  | v :: rest => by
    rw [encodeItems, toJsonItems, encode_eq_toJson v, encodeItems_eq_toJsonItems rest]

end

/-! The kinds that are tried. -/

namespace Kind

/-- The kinds that are tried before this one. -/
def earlier (k : Kind) : List Kind := all.takeWhile (· ≠ k)

theorem all_eq (k : Kind) : ∃ later, all = k.earlier ++ k :: later :=
  ⟨(all.dropWhile (· ≠ k)).tail, by cases k <;> rfl⟩

variable {v : ProfileValue} (valid : v.IsValid) (items : Option (List ProfileValue))

include valid

/-- The document of a value is one of its own kind alone, or of floats if that is an integer. -/
theorem of_take? {k : Kind} {x : ProfileValue} (taken : k.take? items v.encode = some x) :
    k = v.kind ∨ v.kind = .int ∧ k = .float := by
  cases valid with
  | float finite =>
    rw [encode, if_pos finite] at taken
    cases k <;> simp_all [take?, kind, Json.bool?, Json.int64?, Json.intIn?, Json.str?]
  | null | bool | int | text | list | object =>
    cases k <;> simp_all [encode, take?, kind, Json.bool?, Json.int64?, Json.intIn?, Json.str?]

/-- No earlier kind takes the document of a value. -/
theorem none_earlier : ∀ k ∈ v.kind.earlier, k.take? items v.encode = none := by
  intro k member
  cases taken : k.take? items v.encode with
  | none => rfl
  | some x =>
    rcases of_take? valid items taken with own | ⟨isInt, isFloat⟩
    · have other := List.all_eq_true.mp List.all_takeWhile k member
      simp [own] at other
    · rw [isInt, isFloat] at member
      exact absurd member (by decide)

/-- So the first kind that takes it is its own. -/
theorem first?_encode {x : ProfileValue} (taken : v.kind.take? items v.encode = some x) :
    first? items v.encode = some x := by
  obtain ⟨later, order⟩ := v.kind.all_eq
  exact List.findSome?_eq_some_iff.mpr
    ⟨v.kind.earlier, v.kind, later, order, taken, none_earlier valid items⟩

end Kind

/-- The items of an array, as values. -/
def items? : Json → Option (List ProfileValue)
  | .arr items => decodeItems? items
  | _ => none

theorem decode?_first (v : Json) : decode? v = Kind.first? (items? v) v := by
  cases v <;> rfl

theorem decodeItems?_encodeItems {items : List ProfileValue}
    (each : ∀ v ∈ items, decode? v.encode = some v) :
    decodeItems? (encodeItems items) = some items := by
  induction items with
  | nil => rfl
  | cons v rest ih =>
    rw [encodeItems, decodeItems?, each v List.mem_cons_self,
      ih fun w member => each w (List.mem_cons_of_mem v member)]
    rfl

/-- A value is read again from what it is serialised as. -/
theorem decode?_encode {v : ProfileValue} (valid : v.IsValid) : decode? v.encode = some v := by
  induction valid with
  | null | bool _ | text _ =>
    rw [decode?_first]
    exact Kind.first?_encode (by constructor) _ rfl
  | @int i fits =>
    have inRange : Numeric.minInt64 ≤ i ∧ i ≤ Numeric.maxInt64 := by
      simpa [Numeric.fitsInt64] using fits
    rw [decode?_first]
    refine Kind.first?_encode (.int fits) _ ?_
    simp [kind, Kind.take?, encode, Json.int64?, Json.intIn?, inRange]
  | float finite =>
    rw [decode?_first]
    refine Kind.first?_encode (.float finite) _ ?_
    rw [encode, if_pos finite]
    rfl
  | @list items each ih =>
    rw [decode?_first]
    refine Kind.first?_encode (.list each) _ ?_
    rw [encode, kind, items?, decodeItems?_encodeItems ih]
    rfl
  | @object entries value =>
    rw [decode?_first]
    refine Kind.first?_encode (.object value) _ ?_
    obtain ⟨es, read, same⟩ := Option.map_eq_some_iff.mp value
    rw [encode, kind, Kind.take?, read, Option.map_some, Json.obj.inj same]

end ProfileValue

namespace Profile

/-- Whether a profile is serialised or converted, the document is the same. -/
theorem encode_eq_toJson (p : Profile) : p.encode = p.toJson := by
  rw [encode, toJson, Keyed.ofList_ordered (p.ordered.map_value ProfileValue.toJson)]
  simp only [ProfileValue.encode_eq_toJson]

theorem ofJson_toJson {p : Profile} (valid : p.IsValid) : ofJson p.toJson = p := by
  obtain ⟨entries, ordered⟩ := p
  have each : (entries.map fun e => (e.1, ProfileValue.ofJson e.2.toJson)) = entries := by
    refine (List.map_congr_left fun e member => ?_).trans (List.map_id entries)
    rw [ProfileValue.ofJson_toJson (valid e member)]
    rfl
  rw [← encode_eq_toJson, encode, ofJson]
  simp only [List.map_map, Function.comp_def, ProfileValue.encode_eq_toJson, each, ofEntries,
    Keyed.ofList_ordered ordered]

theorem value?_encode {p : Profile} (valid : p.IsValid) : p.encode.value? = some p.encode := by
  refine Json.value?_obj (p.ordered.map_value ProfileValue.encode) fun e member => ?_
  obtain ⟨entry, among, rfl⟩ := List.mem_map.mp member
  dsimp only
  rw [ProfileValue.encode_eq_toJson]
  exact ProfileValue.value?_toJson (valid entry among)

theorem decodeEntries?_encode {entries : List (String × ProfileValue)}
    (valid : ∀ e ∈ entries, e.2.IsValid) :
    ((entries.map fun e => (e.1, e.2.encode)).mapM fun e =>
      (ProfileValue.decode? e.2).map fun v => (e.1, v)) = some entries := by
  induction entries with
  | nil => rfl
  | cons e rest ih =>
    rw [List.map_cons, List.mapM_cons, ih fun e member => valid e (List.mem_cons_of_mem _ member),
      ProfileValue.decode?_encode (valid e List.mem_cons_self)]
    rfl

theorem decode?_encode {p : Profile} (valid : p.IsValid) : decode? p.encode = some p := by
  obtain ⟨entries, ordered⟩ := p
  rw [encode, decode?, decodeEntries?_encode valid, Option.map_some]
  simp only [ofEntries, Keyed.ofList_ordered ordered]

theorem yields {p : Profile} (valid : p.IsValid) : Json.Yields decode? p.encode p :=
  ⟨p.encode, value?_encode valid, decode?_encode valid⟩

/-! Profiles as they come about. -/

/-- Profiles that are made of an object and then changed by what documents make. -/
inductive Reached : Profile → Prop where
  | ofJson {entries : List (String × Json)} : (Json.obj entries).Held →
      Reached (ofJson (.obj entries))
  | set {p : Profile} (key : String) {v : Json} : Reached p → v.Held →
      Reached (p.set key (.ofJson v))
  | remove {p : Profile} (key : String) : Reached p → Reached (p.remove key)

theorem Reached.isValid {p : Profile} (reached : p.Reached) : p.IsValid := by
  induction reached with
  | ofJson held =>
    intro e member
    cases held with
    | obj _ each =>
      obtain ⟨entry, among, rfl⟩ := List.mem_map.mp (Keyed.mem_ofList member)
      exact ProfileValue.ofJson_isValid (each entry among)
  | set key _ held ih =>
    intro e member
    rcases Keyed.mem_insert member with rfl | before
    · exact ProfileValue.ofJson_isValid held
    · exact ih e before
  | remove key _ ih => exact fun e member => ih e (List.mem_filter.mp member).1

/-- A profile is read from any object as the value of the object makes it, and so from every object
that can be held. However it is changed by what documents make, both ways of writing it agree, and
both ways of reading give it back. -/
theorem ways_agree :
    (∀ entries, decode? (.obj entries) = (Json.obj entries).value?.map ofJson) ∧
    (∀ entries, (Json.obj entries).Held →
      decode? (.obj entries) = some (ofJson (.obj entries))) ∧
    ∀ p : Profile, p.Reached →
      p.encode = p.toJson ∧ ofJson p.toJson = p ∧ decode? p.encode = some p := by
  refine ⟨decode?_obj, fun entries held => ?_, fun p reached => ?_⟩
  · rw [decode?_obj, held.value?, Option.map_some]
  · exact ⟨encode_eq_toJson p, ofJson_toJson reached.isValid, decode?_encode reached.isValid⟩

/-- Attributes with an integer of 64 bits that stands in an object. -/
def customEntries : List (String × Json) :=
  [("costCenter", .int 4200), ("customAttr", .obj [("serial", .nat 18446744073709551615)]),
    ("ratios", .arr [.num (.float ⟨0x3ff0000000000000⟩), .null])]

theorem customEntries_held : (Json.obj customEntries).Held := by
  refine .obj (show List.Pairwise _ _ by decide) ?_
  simp only [customEntries, List.forall_mem_cons]
  refine ⟨.num (by decide), .obj (List.pairwise_singleton _ _) ?_, .arr ?_,
    List.forall_mem_nil _⟩
  · simp only [List.forall_mem_cons]
    exact ⟨.num (by decide), List.forall_mem_nil _⟩
  · simp only [List.forall_mem_cons]
    exact ⟨.num (by decide), .null, List.forall_mem_nil _⟩

/-- They get an integer without a signed form and lose their list. -/
def customProfile : Profile :=
  ((ofJson (.obj customEntries)).set "serial" (.ofJson (.nat 18446744073709551615))).remove "ratios"

theorem ways_agree_of_customEntries :
    (Json.obj customEntries).Held ∧
    decode? (.obj customEntries) = some (ofJson (.obj customEntries)) ∧
    customProfile.Reached ∧ customProfile.encode = customProfile.toJson ∧
    ofJson customProfile.toJson = customProfile ∧
    decode? customProfile.encode = some customProfile := by
  obtain ⟨-, read, written⟩ := ways_agree
  have reached : customProfile.Reached :=
    .remove "ratios" (.set "serial" (.ofJson customEntries_held)
      (.num (n := .int (18446744073709551615 : Nat)) (by decide)))
  exact ⟨customEntries_held, read _ customEntries_held, reached, written _ reached⟩

end Profile

/-! What comes out of what went in. -/

namespace Json

mutual

/-- The document with each integer beyond the signed range as the float next to it, in lists as
well, but not in objects. -/
def narrowed : Json → Json
  | .num (.int i) =>
    if Numeric.fitsInt64 i then .num (.int i) else .num (.float (Numeric.Binary64.ofInt i))
  | .arr items => .arr (narrowedItems items)
  | v => v

def narrowedItems : List Json → List Json
  | [] => []
  | v :: rest => v.narrowed :: narrowedItems rest

end

/-- Whether a number stands in a document outside its objects. -/
inductive Exposes (n : Number) : Json → Prop where
  | here : Exposes n (.num n)
  | item {items : List Json} {v : Json} : v ∈ items → Exposes n v → Exposes n (.arr items)

theorem narrowedItems_eq (items : List Json) : narrowedItems items = items.map narrowed := by
  induction items with
  | nil => rfl
  | cons v rest ih => rw [narrowedItems, ih, List.map_cons]

theorem map_eq_self_iff {α : Type} {f : α → α} {items : List α} :
    items.map f = items ↔ ∀ a ∈ items, f a = a := by
  have same : items.map f = items.map id ↔ ∀ a ∈ items, f a = id a := List.map_inj_left
  rwa [List.map_id] at same

theorem narrowed_eq_self_iff {v : Json} (held : v.Held) :
    v.narrowed = v ↔ ∀ i, Exposes (.int i) v → i ≤ Numeric.maxInt64 := by
  induction held with
  | null | bool _ | str _ | obj _ _ =>
    refine ⟨fun _ i exposed => ?_, fun _ => rfl⟩
    cases exposed
  | @num n held =>
    cases n with
    | float x =>
      refine ⟨fun _ i exposed => ?_, fun _ => rfl⟩
      cases exposed
    | int i =>
      have fits : Numeric.fitsInt64 i = true ↔ i ≤ Numeric.maxInt64 := by
        simp [Numeric.fitsInt64, held.1]
      rw [narrowed]
      constructor
      · intro same j exposed
        cases exposed
        refine fits.mp ?_
        by_contra wide
        rw [if_neg wide] at same
        cases same
      · intro low
        rw [if_pos (fits.mpr (low i .here))]
  | @arr items _ ih =>
    rw [narrowed, narrowedItems_eq, arr.injEq, map_eq_self_iff]
    constructor
    · intro same i exposed
      cases exposed with
      | item member exposed => exact (ih _ member).mp (same _ member) i exposed
    · intro low v member
      exact (ih v member).mpr fun i exposed => low i (.item member exposed)

end Json

theorem ProfileValue.toJson_ofJson {v : Json} (held : v.Held) : (ofJson v).toJson = v.narrowed := by
  induction held with
  | null | bool _ | str _ | obj _ _ => rfl
  | @num n held =>
    cases n with
    | float x => exact toJson_float held
    | int i =>
      rw [ofJson, ofNumber, Json.narrowed]
      split
      · rfl
      · rename_i wide
        exact toJson_float (Numeric.Binary64.isFinite_ofInt held.1 held.2 wide)
  | @arr items _ ih =>
    rw [ofJson, ofJsonItems_eq, toJson_list, List.map_map, Json.narrowed, Json.narrowedItems_eq]
    exact congrArg Json.arr (List.map_congr_left ih)

namespace Profile

theorem entries_ofJson {entries : List (String × Json)} (ordered : Keyed.Ordered entries) :
    (ofJson (.obj entries)).entries = entries.map fun e => (e.1, ProfileValue.ofJson e.2) :=
  Keyed.ofList_ordered (ordered.map_value ProfileValue.ofJson)

theorem toJson_ofJson {entries : List (String × Json)} (held : (Json.obj entries).Held) :
    (ofJson (.obj entries)).toJson = .obj (entries.map fun e => (e.1, e.2.narrowed)) := by
  cases held with
  | obj ordered each =>
    rw [← encode_eq_toJson, encode, entries_ofJson ordered, List.map_map]
    refine congrArg Json.obj (List.map_congr_left fun e member => ?_)
    rw [Function.comp_apply, ProfileValue.encode_eq_toJson,
      ProfileValue.toJson_ofJson (each e member)]

/-- Every object comes out of its profile with the keys it had and under each the document it had,
but for the integers that are narrowed; so it comes out as it was exactly when it has none of
those. -/
theorem passed_on {entries : List (String × Json)} (held : (Json.obj entries).Held) :
    (ofJson (.obj entries)).toJson = .obj (entries.map fun e => (e.1, e.2.narrowed)) ∧
    ((ofJson (.obj entries)).toJson = .obj entries ↔
      ∀ e ∈ entries, ∀ i, Json.Exposes (.int i) e.2 → i ≤ Numeric.maxInt64) := by
  refine ⟨toJson_ofJson held, ?_⟩
  rw [toJson_ofJson held, Json.obj.injEq, Json.map_eq_self_iff]
  cases held with
  | obj _ each =>
    refine forall₂_congr fun e member => ?_
    rw [← Json.narrowed_eq_self_iff (each e member), Prod.ext_iff]
    exact and_iff_right rfl

/-- The integer is kept as it is, since it stands in an object. -/
theorem passed_on_of_customEntries :
    (Json.obj customEntries).Held ∧ (ofJson (.obj customEntries)).toJson = .obj customEntries := by
  refine ⟨customEntries_held, (passed_on customEntries_held).2.mpr ?_⟩
  simp only [customEntries, List.forall_mem_cons]
  refine ⟨fun i exposed => ?_, fun i exposed => ?_, fun i exposed => ?_,
    List.forall_mem_nil _⟩
  · cases exposed
    decide
  · cases exposed
  · cases exposed with
    | item member exposed =>
      simp only [List.mem_cons, List.not_mem_nil, or_false] at member
      rcases member with rfl | rfl <;> cases exposed

/-- An integer that only fits 64 bits without a sign comes out as the float next to it. -/
theorem wide_integer_changed :
    (Json.obj [("serial", .nat 18446744073709551615)]).Held ∧
    (ofJson (.obj [("serial", .nat 18446744073709551615)])).toJson =
      .obj [("serial", .num (.float ⟨0x43f0000000000000⟩))] ∧
    (ofJson (.obj [("serial", .nat 18446744073709551615)])).toJson ≠
      .obj [("serial", .nat 18446744073709551615)] := by
  have held : (Json.obj [("serial", .nat 18446744073709551615)]).Held := by
    refine .obj (List.pairwise_singleton _ _) ?_
    simp only [List.forall_mem_cons]
    exact ⟨.num (by decide), List.forall_mem_nil _⟩
  have rounded : Numeric.Binary64.ofInt (18446744073709551615 : Nat) = ⟨0x43f0000000000000⟩ := by
    decide +kernel
  have changed : (Json.nat 18446744073709551615).narrowed =
      .num (.float ⟨0x43f0000000000000⟩) := by
    rw [Json.nat, Json.narrowed, if_neg (by decide), rounded]
  have written := toJson_ofJson held
  simp only [List.map_cons, List.map_nil, changed] at written
  refine ⟨held, written, fun same => ?_⟩
  rw [written] at same
  cases same

end Profile
end AccessCatalog
