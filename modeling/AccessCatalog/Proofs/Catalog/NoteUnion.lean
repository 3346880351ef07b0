import AccessCatalog.Proofs.Catalog.NoteKinds

/-! Merging annotations. Collections that have each kind at most once are known by the order of
their kinds and by what they have of each, and merging is followed in both. Kinds keep their place,
new ones go to the end, and of each kind the annotation that came last stays. -/
namespace AccessCatalog.Annotations

open Note (Kind)

/-- The kinds of a collection, in its order. -/
def kinds (as : Annotations) : List Kind := as.items.map Note.kind

theorem mem_kinds_iff {as : Annotations} {k : Kind} :
    k ∈ as.kinds ↔ (as.first? k).isSome = true := by
  simp [kinds, first?]

theorem kinds_update (as : Annotations) (a : Note) :
    (as.update a).kinds = if a.kind ∈ as.kinds then as.kinds else as.kinds ++ [a.kind] :=
  kinds_put a as.items

/-- What is put in adds its kinds in the order in which they first occur, those apart that are
there. -/
theorem kinds_updates (as : Annotations) (items : List Note) :
    (items.foldl update as).kinds =
      as.kinds ++ ((items.map Note.kind).filter (· ∉ as.kinds)).eraseDups := by
  induction items generalizing as with
  | nil => simp
  | cons a rest ih =>
    rw [List.foldl_cons, ih, kinds_update, List.map_cons]
    by_cases listed : a.kind ∈ as.kinds
    · rw [if_pos listed, List.filter_cons_of_neg (by simpa using listed)]
    · have others : (rest.map Note.kind).filter (· ∉ as.kinds ++ [a.kind]) =
          ((rest.map Note.kind).filter (· ∉ as.kinds)).filter fun k => !k == a.kind := by
        rw [List.filter_filter]
        exact List.filter_congr fun k _ => by grind
      rw [if_neg listed, List.filter_cons_of_pos (by simpa using listed), List.eraseDups_cons,
        others, List.append_assoc, List.singleton_append]

theorem eraseDups_of_nodup {ks : List Kind} (once : ks.Nodup) : ks.eraseDups = ks := by
  induction ks with
  | nil => rfl
  | cons k rest ih =>
    obtain ⟨absent, once⟩ := List.nodup_cons.mp once
    have others : (rest.filter fun l => !l == k) = rest := by
      refine List.filter_eq_self.mpr fun l member => ?_
      have other : l ≠ k := fun same => absent (same ▸ member)
      simpa using other
    rw [List.eraseDups_cons, others, ih once]

/-- Where the kinds are apart, their order and the annotation of each are all there is. -/
theorem Distinct.items_eq {as : Annotations} (distinct : as.Distinct) :
    as.items = as.kinds.filterMap fun k => as.first? k := by
  rw [kinds, List.filterMap_map]
  calc as.items
    _ = as.items.filterMap some := List.filterMap_some.symm
    _ = as.items.filterMap ((fun k => as.first? k) ∘ Note.kind) :=
      List.filterMap_congr fun a member => (distinct.first?_of_mem member).symm

theorem Distinct.ext {as bs : Annotations} (distinct : as.Distinct) (others : bs.Distinct)
    (kinds : as.kinds = bs.kinds) (each : ∀ k, as.first? k = bs.first? k) : as = bs := by
  have items : as.items = bs.items := by
    rw [distinct.items_eq, others.items_eq, kinds, funext each]
  cases as
  exact congrArg mk items

/-! Merging two collections. -/

section Merging

variable {as bs : Annotations}

theorem kinds_merge (as : Annotations) (others : bs.Distinct) :
    (as.merge bs).kinds = as.kinds ++ bs.kinds.filter (· ∉ as.kinds) := by
  rw [merge, kinds_updates]
  exact congrArg _ (eraseDups_of_nodup (others.filter _))

theorem ofKind_merge (distinct : as.Distinct) (others : bs.Distinct) (k : Kind) :
    (as.merge bs).ofKind k = if k ∈ bs.kinds then bs.ofKind k else as.ofKind k := by
  rw [(distinct.merge bs).ofKind_eq, others.ofKind_eq, distinct.ofKind_eq, others.first?_merge]
  cases found : bs.first? k with
  | none => rw [if_neg (by simp [mem_kinds_iff, found]), Option.none_or]
  | some b => rw [if_pos (by simp [mem_kinds_iff, found]), Option.some_or]

/-- What is put into the second collection before merging may as well be put in after it. -/
theorem merge_update (distinct : as.Distinct) (others : bs.Distinct) (b : Note) :
    as.merge (bs.update b) = (as.merge bs).update b := by
  refine (distinct.merge _).ext ((distinct.merge bs).update b) ?_ fun k => ?_
  · rw [kinds_merge as (others.update b), kinds_update, kinds_update, kinds_merge as others]
    by_cases inFirst : b.kind ∈ as.kinds <;> by_cases inSecond : b.kind ∈ bs.kinds <;>
      simp [inFirst, inSecond]
  · rw [(others.update b).first?_merge, first?_update, first?_update, others.first?_merge]
    split <;> rfl

theorem merge_updates (distinct : as.Distinct) (others : bs.Distinct) (items : List Note) :
    as.merge (items.foldl update bs) = items.foldl update (as.merge bs) := by
  induction items generalizing bs with
  | nil => rfl
  | cons c rest ih =>
    rw [List.foldl_cons, List.foldl_cons, ih (others.update c), merge_update distinct others]

theorem merge_assoc (distinct : as.Distinct) (others : bs.Distinct) (cs : Annotations) :
    (as.merge bs).merge cs = as.merge (bs.merge cs) :=
  (merge_updates distinct others cs.items).symm

theorem merge_self (distinct : as.Distinct) : as.merge as = as := by
  refine (distinct.merge as).ext distinct ?_ fun k => ?_
  · rw [kinds_merge as distinct]
    simp
  · rw [distinct.first?_merge, Option.or_self]

theorem empty_merge (distinct : as.Distinct) : empty.merge as = as := by
  refine (Distinct.empty.merge as).ext distinct ?_ fun k => ?_
  · rw [kinds_merge empty distinct]
    simp [kinds, empty]
  · rw [distinct.first?_merge]
    exact Option.or_none

end Merging

/-! Collections made of lists. -/

theorem kinds_ofList (xs : List Note) : (ofList xs).kinds = (xs.map Note.kind).eraseDups := by
  rw [ofList, kinds_updates]
  simp [kinds, empty]

theorem ofKind_ofList (xs : List Note) (k : Kind) :
    (ofList xs).ofKind k = (xs.filter fun a => a.kind = k).getLast?.toList := by
  rw [(Distinct.ofList xs).ofKind_eq, ofList, first?_updates, List.getLast?_filter]
  exact congrArg _ Option.or_none

theorem ofList_append (xs ys : List Note) : ofList (xs ++ ys) = (ofList xs).merge (ofList ys) := by
  rw [ofList, List.foldl_append]
  exact (merge_updates (Distinct.ofList xs) Distinct.empty ys).symm

/-- Merging is a union in which the second collection wins. It keeps the kinds of the first in place
and appends the others in the order of the second, it is associative and idempotent, and the empty
collection is its identity. A list gives each of its kinds where it comes first and with what it has
last, and one list after the other gives what merging the two gives. -/
theorem merge_ordered_union :
    (∀ as bs : Annotations, as.Distinct → bs.Distinct →
      (as.merge bs).Distinct ∧
      (as.merge bs).kinds = as.kinds ++ bs.kinds.filter (· ∉ as.kinds) ∧
      (∀ k, (as.merge bs).ofKind k = if k ∈ bs.kinds then bs.ofKind k else as.ofKind k) ∧
      (∀ cs, (as.merge bs).merge cs = as.merge (bs.merge cs)) ∧
      as.merge as = as ∧ empty.merge as = as ∧ as.merge empty = as) ∧
    ∀ xs ys : List Note,
      (ofList xs).kinds = (xs.map Note.kind).eraseDups ∧
      (∀ k, (ofList xs).ofKind k = (xs.filter fun a => a.kind = k).getLast?.toList) ∧
      ofList (xs ++ ys) = (ofList xs).merge (ofList ys) :=
  ⟨fun as _ distinct others =>
    ⟨distinct.merge _, kinds_merge as others, ofKind_merge distinct others,
      merge_assoc distinct others, merge_self distinct, empty_merge distinct, rfl⟩,
    fun xs ys => ⟨kinds_ofList xs, ofKind_ofList xs, ofList_append xs ys⟩⟩

/-- A newer stamp takes the place of the older one, and the link comes last. -/
theorem merge_ordered_union_of_stamps :
    (merge ⟨[.eTag "v1", .rawId "00g1"]⟩ ⟨[.externalLink "acme.okta.com", .eTag "v2"]⟩).kinds =
      [.eTag, .rawId, .externalLink] ∧
    (merge ⟨[.eTag "v1", .rawId "00g1"]⟩ ⟨[.externalLink "acme.okta.com", .eTag "v2"]⟩).ofKind
      .eTag = [.eTag "v2"] ∧
    (ofList [.eTag "v1", .rawId "00g1", .eTag "v2"]).kinds = [.eTag, .rawId] ∧
    (ofList [.eTag "v1", .rawId "00g1", .eTag "v2"]).ofKind .eTag = [.eTag "v2"] := by
  obtain ⟨union, lists⟩ := merge_ordered_union
  obtain ⟨_, kinds, each, _⟩ := union ⟨[.eTag "v1", .rawId "00g1"]⟩
    ⟨[.externalLink "acme.okta.com", .eTag "v2"]⟩
    (show List.Nodup _ by decide) (show List.Nodup _ by decide)
  obtain ⟨order, last, _⟩ := lists [.eTag "v1", .rawId "00g1", .eTag "v2"] []
  exact ⟨kinds, each .eTag, order, last .eTag⟩

end AccessCatalog.Annotations
