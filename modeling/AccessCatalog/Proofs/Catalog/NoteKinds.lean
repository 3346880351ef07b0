import AccessCatalog.Catalog.Grant
import AccessCatalog.Proofs.Catalog.Attributes
import Mathlib.Data.List.Nodup

/-! One annotation of a kind. Putting annotations in keeps the kinds of a collection apart, so every
collection that is put together has at most one of each. A collection that is read has what its
document lists, so there the kinds are apart when no two items of the document name the same one. -/
namespace AccessCatalog

namespace Note

theorem Kind.name_of_ofName? {name : String} {k : Kind} (found : Kind.ofName? name = some k) :
    k.name = name := by
  simpa using List.find?_some found

theorem Kind.name_injective {k l : Kind} (same : k.name = l.name) : k = l := by
  cases k <;> cases l <;> first | rfl | exact absurd same (by decide)

/-- A note is read under the name of its kind. -/
theorem tagged_of_decode {v : Json} {a : Note} (read : decode? v = some a) :
    (v.tagged? "kind").map (·.1) = some a.kind.name := by
  unfold decode? at read
  obtain ⟨⟨tag, body⟩, tagged, read⟩ := Option.bind_eq_some_iff.mp read
  obtain ⟨k, found, read⟩ := Option.bind_eq_some_iff.mp read
  have sameKind : a.kind = k := by
    cases k with
    | rateLimit | eTag | rawId | externalLink | skipEntitlementsAndGrants =>
      obtain ⟨_, _, rfl⟩ := Option.map_eq_some_iff.mp read
      rfl
    | eTagMetadata =>
      obtain ⟨fields, _, read⟩ := Option.bind_eq_some_iff.mp read
      split at read
      · obtain ⟨_, _, rfl⟩ := Option.map_eq_some_iff.mp read
        rfl
      · cases read
    | grantExpandable =>
      obtain ⟨fields, _, read⟩ := Option.bind_eq_some_iff.mp read
      split at read
      · obtain ⟨ids, _, read⟩ := Option.bind_eq_some_iff.mp read
        obtain ⟨shallow, _, read⟩ := Option.bind_eq_some_iff.mp read
        cases read
        rfl
      · cases read
  rw [tagged, Option.map_some, sameKind, Kind.name_of_ofName? found]

end Note

namespace Annotations

open Note (Kind)

/-- No two annotations have the same kind. -/
def Distinct (as : Annotations) : Prop := (as.items.map Note.kind).Nodup

def ofKind (k : Kind) (as : Annotations) : List Note := as.items.filter fun a => a.kind = k

def first? (k : Kind) (as : Annotations) : Option Note := as.items.find? fun a => a.kind = k

/-! Putting annotations in. -/

/-- The kinds stay in place, and a kind that was not there comes last. -/
theorem kinds_put (a : Note) (items : List Note) :
    (put a items).map Note.kind =
      if a.kind ∈ items.map Note.kind then items.map Note.kind
      else items.map Note.kind ++ [a.kind] := by
  induction items with
  | nil => simp [put]
  | cons x rest ih =>
    by_cases same : x.kind = a.kind
    · simp [put, same]
    · simp only [put, if_neg same, List.map_cons, ih, List.mem_cons, Ne.symm same, false_or]
      split <;> rfl

theorem find?_put (a : Note) (items : List Note) (k : Kind) :
    (put a items).find? (fun x => x.kind = k) =
      if a.kind = k then some a else items.find? fun x => x.kind = k := by
  induction items with
  | nil => by_cases here : a.kind = k <;> simp [put, here]
  | cons x rest ih =>
    by_cases same : x.kind = a.kind
    · by_cases here : a.kind = k <;> simp [put, same, here]
    · by_cases here : x.kind = k
      · have other : a.kind ≠ k := fun there => same (here.trans there.symm)
        simp only [put, if_neg same, List.find?_cons_of_pos, decide_eq_true here, if_neg other]
      · simp [put, same, here, ih]

theorem first?_update (as : Annotations) (a : Note) (k : Kind) :
    (as.update a).first? k = if a.kind = k then some a else as.first? k :=
  find?_put a as.items k

theorem Distinct.empty : Distinct empty := List.nodup_nil

theorem Distinct.update {as : Annotations} (distinct : as.Distinct) (a : Note) :
    (as.update a).Distinct := by
  unfold Distinct
  rw [Annotations.update, kinds_put]
  split
  · exact distinct
  · rename_i absent
    exact List.nodup_append.mpr ⟨distinct, by simp, fun k member l last same =>
      absent (List.mem_singleton.mp last ▸ same ▸ member)⟩

/-- Whatever is put in one after the other, the kinds stay apart. -/
theorem Distinct.updates {as : Annotations} (distinct : as.Distinct) (items : List Note) :
    (items.foldl Annotations.update as).Distinct := by
  induction items generalizing as with
  | nil => exact distinct
  | cons a rest ih => exact ih (distinct.update a)

theorem Distinct.merge {as : Annotations} (distinct : as.Distinct) (bs : Annotations) :
    (as.merge bs).Distinct :=
  distinct.updates bs.items

theorem Distinct.ofList (items : List Note) : (ofList items).Distinct :=
  Distinct.empty.updates items

/-- The last one of a kind that is put in stays. -/
theorem first?_updates (as : Annotations) (items : List Note) (k : Kind) :
    (items.foldl update as).first? k =
      (items.reverse.find? fun a => a.kind = k).or (as.first? k) := by
  induction items generalizing as with
  | nil => rfl
  | cons a rest ih =>
    rw [List.foldl_cons, ih, first?_update, List.reverse_cons, List.find?_append,
      Option.or_assoc]
    by_cases here : a.kind = k <;> simp [here]

/-! Where the kinds are apart, the first of a kind is the only one. -/

theorem Distinct.ofKind_eq {as : Annotations} (distinct : as.Distinct) (k : Kind) :
    as.ofKind k = (as.first? k).toList := by
  obtain ⟨items⟩ := as
  simp only [ofKind, first?]
  induction items with
  | nil => rfl
  | cons a rest ih =>
    obtain ⟨absent, apart⟩ := List.nodup_cons.mp distinct
    by_cases here : a.kind = k
    · have others : rest.filter (fun x => x.kind = k) = [] := by
        refine List.filter_eq_nil_iff.mpr fun x member same => absent ?_
        exact here ▸ of_decide_eq_true same ▸ List.mem_map_of_mem member
      simp [here, others]
    · simpa [here] using ih apart

theorem Distinct.first?_of_mem {as : Annotations} (distinct : as.Distinct) {a : Note}
    (member : a ∈ as.items) : as.first? a.kind = some a := by
  have among : a ∈ as.ofKind a.kind := List.mem_filter.mpr ⟨member, by simp⟩
  rw [distinct.ofKind_eq] at among
  exact Option.mem_toList.mp among

theorem Distinct.find?_reverse {as : Annotations} (distinct : as.Distinct) (k : Kind) :
    (as.items.reverse.find? fun a => a.kind = k) = as.first? k := by
  have only : as.items.reverse.filter (fun a => a.kind = k) = (as.first? k).toList := by
    have turned := congrArg List.reverse (distinct.ofKind_eq k)
    rw [ofKind, ← List.filter_reverse] at turned
    rw [turned]
    cases as.first? k <;> rfl
  rw [← List.head?_filter, only]
  cases as.first? k <;> rfl

/-- Merging takes over what the other collection has, and leaves the rest. -/
theorem Distinct.first?_merge {bs : Annotations} (distinct : bs.Distinct) (as : Annotations)
    (k : Kind) : (as.merge bs).first? k = (bs.first? k).or (as.first? k) := by
  rw [Annotations.merge, first?_updates, distinct.find?_reverse]

/-! What is asked of a collection by kind. -/

variable {α : Type}

/-- Annotations of one kind answer, and no others. -/
def Answers (k : Kind) (f : Note → Option α) : Prop := ∀ a, (f a).isSome = true ↔ a.kind = k

theorem Answers.findSome? {k : Kind} {f : Note → Option α} (answers : Answers k f)
    (as : Annotations) : as.items.findSome? f = (as.first? k).bind f := by
  obtain ⟨items⟩ := as
  simp only [first?]
  induction items with
  | nil => rfl
  | cons a rest ih =>
    by_cases here : a.kind = k
    · obtain ⟨answer, found⟩ := Option.isSome_iff_exists.mp ((answers a).mpr here)
      simp [here, found]
    · have silent : f a = none := by
        simpa using mt (answers a).mp here
      simpa [here, silent] using ih

theorem Answers.merge {k : Kind} {f : Note → Option α} (answers : Answers k f)
    {bs : Annotations} (distinct : bs.Distinct) (as : Annotations) :
    (as.merge bs).items.findSome? f = (bs.items.findSome? f).or (as.items.findSome? f) := by
  rw [answers.findSome?, answers.findSome?, answers.findSome?, distinct.first?_merge]
  cases found : bs.first? k with
  | none => rfl
  | some b =>
    have ofKind : b.kind = k := by simpa using List.find?_some found
    obtain ⟨answer, answered⟩ := Option.isSome_iff_exists.mp ((answers b).mpr ofKind)
    simp [answered]

theorem Distinct.rateLimit?_merge {bs : Annotations} (distinct : bs.Distinct)
    (as : Annotations) : (as.merge bs).rateLimit? = bs.rateLimit?.or as.rateLimit? :=
  Answers.merge (k := .rateLimit) (fun a => by cases a <;> simp [Note.kind]) distinct as

theorem Distinct.eTag?_merge {bs : Annotations} (distinct : bs.Distinct)
    (as : Annotations) : (as.merge bs).eTag? = bs.eTag?.or as.eTag? :=
  Answers.merge (k := .eTag) (fun a => by cases a <;> simp [Note.kind]) distinct as

theorem Distinct.expansion?_merge {bs : Annotations} (distinct : bs.Distinct)
    (as : Annotations) : (as.merge bs).expansion? = bs.expansion?.or as.expansion? :=
  Answers.merge (k := .grantExpandable) (fun a => by cases a <;> simp [Note.kind]) distinct as

end Annotations

/-! Reading. -/

/-- The names of kinds in a list of notes, as the document has them. -/
def Json.noteKinds : Json → List String
  | .arr items => items.filterMap fun v => (v.tagged? "kind").map (·.1)
  | _ => []

/-- The document under a name of a record with fields of these names. -/
def Json.field? (names : List String) (name : String) (v : Json) : Option Json :=
  (v.fields? (names.map fun name => [name])).bind fun fields => fields[names.idxOf name]?.join

namespace Annotations

open Note (Kind)

theorem noteKinds_of_decode {v : Json} {as : Annotations} (read : decode? v = some as) :
    v.noteKinds = as.items.map fun a => a.kind.name := by
  obtain ⟨items, each, rfl⟩ := Option.map_eq_some_iff.mp read
  obtain ⟨parts, rfl, same⟩ := Json.map_of_list? each
  have named : ∀ part ∈ parts,
      (part.tagged? "kind").map (·.1) = (Note.decode? part).map fun a => a.kind.name := by
    intro part member
    have among : Note.decode? part ∈ items.map some := same ▸ List.mem_map_of_mem member
    obtain ⟨a, _, read⟩ := List.mem_map.mp among
    rw [← read, Note.tagged_of_decode read.symm, Option.map_some]
  calc parts.filterMap (fun part => (part.tagged? "kind").map (·.1))
    _ = (parts.map Note.decode?).filterMap (Option.map fun a => a.kind.name) := by
      rw [List.filterMap_map]
      exact List.filterMap_congr named
    _ = items.map fun a => a.kind.name := by
      simp [same, List.filterMap_map]

theorem distinct_iff_noteKinds {v : Json} {as : Annotations} (read : decode? v = some as) :
    as.Distinct ↔ v.noteKinds.Nodup := by
  have names : (as.items.map fun a => a.kind.name) = (as.items.map Note.kind).map Kind.name := by
    rw [List.map_map]
    rfl
  rw [noteKinds_of_decode read, names, List.nodup_map_iff fun _ _ => Kind.name_injective]
  rfl

end Annotations

/-! The records that have annotations. -/

theorem Json.field?_eq {v : Json} {fields : List (Option Json)} (names : List String)
    (found : v.fields? (names.map fun name => [name]) = some fields) {name : String} {i : Nat}
    (place : names.idxOf name = i) : v.field? names name = fields[i]?.join := by
  rw [field?, found, Option.bind_some, place]

def ResourceType.names : List String := ["id", "display_name", "traits", "annotations"]

theorem ResourceType.annotations_of_decode {v : Json} {r : ResourceType}
    (read : decode? v = some r) :
    Json.orElse Annotations.decode? .empty (v.field? names "annotations") = some r.annotations := by
  unfold decode? at read
  obtain ⟨fields, found, read⟩ := Option.bind_eq_some_iff.mp read
  split at read
  · rw [Json.field?_eq names found (show _ = 3 by decide)]
    simp only [Option.bind_eq_bind, Option.bind_eq_some_iff] at read
    obtain ⟨_, _, _, _, _, _, notes, notesRead, same⟩ := read
    cases same
    exact notesRead
  · cases read

def Resource.names : List String := ["id", "display_name", "parent", "traits", "annotations"]

theorem Resource.annotations_of_decode {v : Json} {r : Resource} (read : decode? v = some r) :
    Json.orElse Annotations.decode? .empty (v.field? names "annotations") = some r.annotations := by
  unfold decode? at read
  obtain ⟨fields, found, read⟩ := Option.bind_eq_some_iff.mp read
  split at read
  · rw [Json.field?_eq names found (show _ = 4 by decide)]
    simp only [Option.bind_eq_bind, Option.bind_eq_some_iff] at read
    obtain ⟨_, _, _, _, _, _, _, _, notes, notesRead, same⟩ := read
    cases same
    exact notesRead
  · cases read

def Entitlement.names : List String :=
  ["id", "resource", "slug", "display_name", "description", "purpose", "grantable_to",
    "annotations"]

theorem Entitlement.annotations_of_decode {v : Json} {e : Entitlement}
    (read : decode? v = some e) :
    Json.orElse Annotations.decode? .empty (v.field? names "annotations") = some e.annotations := by
  unfold decode? at read
  obtain ⟨fields, found, read⟩ := Option.bind_eq_some_iff.mp read
  split at read
  · rw [Json.field?_eq names found (show _ = 7 by decide)]
    simp only [Option.bind_eq_bind, Option.bind_eq_some_iff] at read
    obtain ⟨_, _, _, _, _, _, _, _, _, _, _, _, _, _, notes, notesRead, same⟩ := read
    cases same
    exact notesRead
  · cases read

def Grant.names : List String := ["id", "entitlement", "principal", "annotations"]

theorem Grant.annotations_of_decode {v : Json} {g : Grant} (read : decode? v = some g) :
    Json.orElse Annotations.decode? .empty (v.field? names "annotations") = some g.annotations := by
  unfold decode? at read
  obtain ⟨fields, found, read⟩ := Option.bind_eq_some_iff.mp read
  split at read
  · rw [Json.field?_eq names found (show _ = 3 by decide)]
    simp only [Option.bind_eq_bind, Option.bind_eq_some_iff] at read
    obtain ⟨_, _, _, _, _, _, notes, notesRead, same⟩ := read
    cases same
    exact notesRead
  · cases read

/-- The entitlement of a grant is read from a field of it. -/
theorem Grant.entitlement_of_decode {v : Json} {g : Grant} (read : decode? v = some g) :
    ∃ w, v.field? names "entitlement" = some w ∧ Entitlement.decode? w = some g.entitlement := by
  unfold decode? at read
  obtain ⟨fields, found, read⟩ := Option.bind_eq_some_iff.mp read
  split at read
  · rw [Json.field?_eq names found (show _ = 1 by decide)]
    simp only [Option.bind_eq_bind, Option.bind_eq_some_iff] at read
    obtain ⟨_, _, entitlement, entitlementRead, _, _, _, _, same⟩ := read
    cases same
    exact Option.bind_eq_some_iff.mp entitlementRead
  · cases read

namespace Annotations

/-- Annotations that were read, alone or in a record, and the document of the annotations themselves.
A record may leave that out. -/
inductive Read : Option Json → Annotations → Prop where
  | alone {v : Json} {as : Annotations} : decode? v = some as → Read (some v) as
  | ofType {v : Json} {r : ResourceType} : ResourceType.decode? v = some r →
      Read (v.field? ResourceType.names "annotations") r.annotations
  | ofResource {v : Json} {r : Resource} : Resource.decode? v = some r →
      Read (v.field? Resource.names "annotations") r.annotations
  | ofEntitlement {v : Json} {e : Entitlement} : Entitlement.decode? v = some e →
      Read (v.field? Entitlement.names "annotations") e.annotations
  | ofGrant {v : Json} {g : Grant} : Grant.decode? v = some g →
      Read (v.field? Grant.names "annotations") g.annotations
  | ofGranted {v : Json} {g : Grant} : Grant.decode? v = some g →
      Read ((v.field? Grant.names "entitlement").bind (Json.field? Entitlement.names "annotations"))
        g.entitlement.annotations

theorem Read.decoded {source : Option Json} {as : Annotations} (read : Read source as) :
    Json.orElse decode? .empty source = some as := by
  cases read with
  | alone read => exact read
  | ofType read => exact ResourceType.annotations_of_decode read
  | ofResource read => exact Resource.annotations_of_decode read
  | ofEntitlement read => exact Entitlement.annotations_of_decode read
  | ofGrant read => exact Grant.annotations_of_decode read
  | ofGranted read =>
    obtain ⟨w, found, entitlement⟩ := Grant.entitlement_of_decode read
    rw [found]
    exact Entitlement.annotations_of_decode entitlement

/-- Collections as they come about, where some documents are accepted: put together, or read. -/
inductive Obtained (accepts : Json → Prop) : Annotations → Prop where
  | new : Obtained accepts .empty
  | update {as : Annotations} (a : Note) : Obtained accepts as → Obtained accepts (as.update a)
  | merge {as bs : Annotations} : Obtained accepts as → Obtained accepts bs →
      Obtained accepts (as.merge bs)
  | ofList (items : List Note) : Obtained accepts (.ofList items)
  | read {source : Option Json} {as : Annotations} : Read source as →
      (∀ notes ∈ source, accepts notes) → Obtained accepts as

theorem Obtained.distinct {accepts : Json → Prop}
    (once : ∀ v as, accepts v → decode? v = some as → v.noteKinds.Nodup) {as : Annotations}
    (obtained : Obtained accepts as) : as.Distinct := by
  induction obtained with
  | new => exact Distinct.empty
  | update a _ ih => exact ih.update a
  | merge _ _ ih _ => exact ih.merge _
  | ofList items => exact Distinct.ofList items
  | @read source as read accepted =>
    have decoded := read.decoded
    cases source with
    | none =>
      cases decoded
      exact Distinct.empty
    | some v =>
      exact (distinct_iff_noteKinds decoded).mpr (once v as (accepted v rfl) decoded)

/-- Every collection has at most one annotation of a kind exactly when no list of annotations that
is accepted names a kind twice. Where that is so, a collection answers for a kind with its only one,
and merging takes over each annotation of the second collection and leaves the other kinds of the
first. -/
theorem one_of_a_kind (accepts : Json → Prop) :
    ((∀ as, Obtained accepts as → as.Distinct) ↔
      ∀ v as, accepts v → decode? v = some as → v.noteKinds.Nodup) ∧
    ∀ as bs : Annotations, as.Distinct → bs.Distinct →
      (∀ b ∈ bs.items, bs.first? b.kind = some b) ∧
      (∀ k, (as.merge bs).ofKind k = ((bs.first? k).or (as.first? k)).toList) ∧
      (as.merge bs).rateLimit? = bs.rateLimit?.or as.rateLimit? ∧
      (as.merge bs).eTag? = bs.eTag?.or as.eTag? ∧
      (as.merge bs).expansion? = bs.expansion?.or as.expansion? := by
  refine ⟨⟨fun all v as accepted decoded => ?_, fun once as obtained => obtained.distinct once⟩,
    fun as bs distinct others => ⟨fun b member => others.first?_of_mem member, fun k => ?_,
      others.rateLimit?_merge as, others.eTag?_merge as, others.expansion?_merge as⟩⟩
  · refine (distinct_iff_noteKinds decoded).mp (all as (.read (.alone decoded) fun w same => ?_))
    cases same
    exact accepted
  · rw [(distinct.merge bs).ofKind_eq, others.first?_merge]

theorem one_of_a_kind_of_stamp :
    (∀ as, Obtained (· = .arr [Note.encode (.eTag "v2"), Note.encode (.rawId "00g1")]) as →
      as.Distinct) ∧
    (merge ⟨[.eTag "v1", .externalLink "acme.okta.com"]⟩
      ⟨[.eTag "v2", .rawId "00g1"]⟩).ofKind .eTag = [.eTag "v2"] := by
  obtain ⟨obtained, merging⟩ :=
    one_of_a_kind (· = .arr [Note.encode (.eTag "v2"), Note.encode (.rawId "00g1")])
  refine ⟨obtained.mpr fun v as accepted _ => accepted ▸ show List.Nodup _ by decide, ?_⟩
  obtain ⟨_, entries, _⟩ := merging ⟨[.eTag "v1", .externalLink "acme.okta.com"]⟩
    ⟨[.eTag "v2", .rawId "00g1"]⟩ (show List.Nodup _ by decide) (show List.Nodup _ by decide)
  exact entries .eTag

/-- A list that names a kind twice is read as it is. The collection answers with the first of the
two, and what it is merged into with the last. -/
theorem stamped_twice :
    ∃ v as, decode? v = some as ∧ Obtained (fun _ => True) as ∧ ¬ as.Distinct ∧
      as.eTag? = some "v1" ∧ (empty.merge as).eTag? = some "v2" := by
  have decoded : decode? (.arr [Note.encode (.eTag "v1"), Note.encode (.eTag "v2")]) =
      some ⟨[.eTag "v1", .eTag "v2"]⟩ := rfl
  exact ⟨_, _, decoded, .read (.alone decoded) fun _ _ => trivial, show ¬ List.Nodup _ by decide,
    rfl, rfl⟩

end Annotations
end AccessCatalog
