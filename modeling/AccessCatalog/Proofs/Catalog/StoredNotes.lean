import AccessCatalog.Catalog.Annotations
import AccessCatalog.Proofs.Catalog.ProfileDocuments
import AccessCatalog.Proofs.Time.Timestamps

/-! Annotations come back from the documents they are stored as. A note is read by the name of its
kind. -/
namespace AccessCatalog

open Json (Slots Yields)

theorem Instant.yields {t : Instant} (valid : t.IsValid) : Yields decode? t.encode t := by
  have written : t.encode = .str (t.text .shortest) := rfl
  have read := parse?_text valid
  rw [written]
  generalize t.text .shortest = text at read
  exact ⟨.str text, rfl, read⟩

structure RateLimit.IsValid (r : RateLimit) : Prop where
  limit : Numeric.fitsInt64 r.limit = true
  remaining : Numeric.fitsInt64 r.remaining = true
  resetAt : r.resetAt.IsValid

theorem Json.yields_int64 {i : Int} (fits : Numeric.fitsInt64 i = true) :
    Yields int64? (.int i) i :=
  have inBounds : Numeric.minInt64 ≤ i ∧ i ≤ Numeric.maxInt64 := of_decide_eq_true fits
  yields_intIn inBounds.1 inBounds.2

def Note.IsValid : Note → Prop
  | .rateLimit r => r.IsValid
  | .eTagMetadata metadata => metadata.IsValid
  | _ => True

namespace Note

theorem Kind.ofName?_name (k : Kind) : ofName? k.name = some k := by
  cases k <;> decide

/-- A text alone is what some kinds have, under a name of their own. -/
theorem text_filled (name text : String) :
    ∃ fields, Slots [name] [Json.entry name (.str text)] fields ∧ ∀ v : Json,
      v.fields? [[name]] = some fields → textField? name v = some text := by
  obtain ⟨field, slot, read⟩ := (Json.yields_str text).required name
  exact ⟨_, .cons slot .nil, fun v fields => by simp [textField?, fields, read]⟩

theorem yields {a : Note} (valid : a.IsValid) : Yields decode? a.encode a := by
  cases a with
  | rateLimit r =>
    obtain ⟨limit, limitSlot, limitRead⟩ := (Json.yields_int64 valid.limit).required "limit"
    obtain ⟨remaining, remainingSlot, remainingRead⟩ :=
      (Json.yields_int64 valid.remaining).required "remaining"
    obtain ⟨resetAt, resetSlot, resetRead⟩ := (Instant.yields valid.resetAt).required "reset_at"
    refine (Slots.cons limitSlot (.cons remainingSlot (.cons resetSlot .nil))).yields_tagged
      "kind" Kind.rateLimit.name (by decide) fun v body tagged fields _ => ?_
    simp only [List.map] at fields
    simp [decode?, tagged, Kind.ofName?_name, RateLimit.decode?, fields, limitRead, remainingRead,
      resetRead]
  | eTag value =>
    obtain ⟨fields, slots, read⟩ := text_filled "value" value
    refine slots.yields_tagged "kind" Kind.eTag.name (by decide) fun v body tagged found _ => ?_
    simp [decode?, tagged, Kind.ofName?_name, read body found]
  | eTagMetadata metadata =>
    obtain ⟨field, slot, read⟩ := (Profile.yields valid).required "metadata"
    refine (Slots.cons slot .nil).yields_tagged "kind" Kind.eTagMetadata.name (by decide)
      fun v body tagged fields _ => ?_
    simp only [List.map] at fields
    simp [decode?, tagged, Kind.ofName?_name, fields, read]
  | grantExpandable entitlementIds shallow =>
    obtain ⟨ids, idsSlot, idsRead⟩ :=
      (Json.yields_strings entitlementIds).required "entitlement_ids"
    obtain ⟨flag, flagSlot, flagRead⟩ := (Json.yields_bool shallow).required "shallow"
    refine (Slots.cons idsSlot (.cons flagSlot .nil)).yields_tagged
      "kind" Kind.grantExpandable.name (by decide) fun v body tagged fields _ => ?_
    simp only [List.map] at fields
    simp [decode?, tagged, Kind.ofName?_name, fields, idsRead, flagRead]
  | rawId id =>
    obtain ⟨fields, slots, read⟩ := text_filled "id" id
    refine slots.yields_tagged "kind" Kind.rawId.name (by decide) fun v body tagged found _ => ?_
    simp [decode?, tagged, Kind.ofName?_name, read body found]
  | externalLink url =>
    obtain ⟨fields, slots, read⟩ := text_filled "url" url
    refine slots.yields_tagged "kind" Kind.externalLink.name (by decide) fun v body tagged found _ => ?_
    simp [decode?, tagged, Kind.ofName?_name, read body found]
  | skipEntitlementsAndGrants =>
    refine Slots.nil.yields_tagged "kind" Kind.skipEntitlementsAndGrants.name (by decide)
      fun v body tagged _ none => ?_
    simp [decode?, tagged, Kind.ofName?_name, none]

end Note

def Annotations.IsValid (as : Annotations) : Prop := ∀ a ∈ as.items, a.IsValid

namespace Annotations

theorem yields {as : Annotations} (valid : as.IsValid) : Yields decode? as.encode as :=
  (Json.yields_list fun a member => Note.yields (valid a member)).map Annotations.mk

/-- Annotations are left out where there are none. -/
theorem fills {as : Annotations} (valid : as.IsValid) :
    Json.Fills (Json.orElse decode? .empty) "annotations" as.entry as :=
  (yields valid).orElse_unless .empty (fun none => congrArg mk (List.isEmpty_iff.mp none))
    "annotations"

end Annotations

end AccessCatalog
