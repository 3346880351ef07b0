import AccessCatalog.Proofs.Json.ReadBack
import AccessCatalog.Proofs.Paging.Frames

/-! A token stands for the bag it was made from. Empty cursors and ids, missing suspended frames
and exhausted bags leave nothing in the token, and all of them come back. -/
namespace AccessCatalog

theorem Json.entryUnless_some {omitted : Bool} {key : String} {value : Json} {e : String × Json}
    (h : entryUnless omitted key value = some e) : e = (key, value) := by
  unfold entryUnless at h
  split at h
  · contradiction
  · exact (Option.some.inj h).symm

/-- A list is read back where each of its items is. -/
theorem Json.list?_map {α : Type} {encode : α → Json} {decode : Json → Option α} {xs : List α}
    (each : ∀ x ∈ xs, decode (encode x) = some x) :
    list? decode (.arr (xs.map encode)) = some xs := by
  unfold list?
  induction xs with
  | nil => rfl
  | cons x rest ih =>
    have head := each x List.mem_cons_self
    have tail := ih fun y member => each y (List.mem_cons_of_mem _ member)
    dsimp only at tail
    simp [head, tail]

namespace PageState

theorem encode_textual (s : PageState) : Json.Textual 1 s.encode := by
  refine .obj fun e member => ?_
  simp only [List.mem_filterMap, List.mem_cons, id_eq, List.not_mem_nil, or_false] at member
  obtain ⟨slot, rfl | rfl | rfl, filled⟩ := member
  · cases filled
    exact .str _
  · cases Json.entryUnless_some filled
    exact .str _
  · cases Json.entryUnless_some filled
    exact .str _

/-- An empty cursor or id is left out, and is what a missing one is read as. -/
theorem decode?_encode (s : PageState) : decode? s.encode = some s := by
  obtain ⟨resourceType, cursor, resourceId⟩ := s
  by_cases atStart : cursor = "" <;> by_cases unscoped : resourceId = "" <;>
    simp [decode?, encode, atStart, unscoped, Json.record, Json.entry, Json.entryUnless,
      Json.fields?, Json.required, Json.orElse, Json.str?]

theorem decodeOptional?_encode (s : PageState) :
    Json.optional? decode? s.encode = some (some s) := by
  have object : Json.optional? decode? s.encode = (decode? s.encode).map some := rfl
  rw [object, decode?_encode, Option.map_some]

end PageState

namespace Bag

theorem encode_textual (b : Bag) : Json.Textual 3 b.encode := by
  refine .obj fun e member => ?_
  simp only [List.mem_filterMap, List.mem_cons, id_eq, List.not_mem_nil, or_false] at member
  obtain ⟨slot, rfl | rfl, filled⟩ := member
  · cases Json.entryUnless_some filled
    refine .arr fun v inStates => ?_
    obtain ⟨s, _, rfl⟩ := List.mem_map.mp inStates
    exact s.encode_textual
  · obtain ⟨s, _, rfl⟩ := Option.map_eq_some_iff.mp filled
    exact s.encode_textual.deeper

theorem encode_fields (b : Bag) :
    b.encode.fields? [["states"], ["current"]] =
      some [if b.suspended.isEmpty then none
        else some (.arr (b.suspended.reverse.map PageState.encode)),
      b.active.map PageState.encode] := by
  obtain ⟨suspended, active⟩ := b
  cases suspended <;> cases active <;>
    simp [encode, Json.record, Json.entryUnless, Json.fields?]

theorem decode?_encode (b : Bag) : decode? b.encode = some b := by
  obtain ⟨suspended, active⟩ := b
  have states : Json.orElse (Json.list? PageState.decode?) [] (if suspended.isEmpty then none
      else some (.arr (suspended.reverse.map PageState.encode))) = some suspended.reverse := by
    cases suspended with
    | nil => rfl
    | cons t rest => exact Json.list?_map fun s _ => s.decode?_encode
  have current : Json.orElse (Json.optional? PageState.decode?) none
      (active.map PageState.encode) = some active := by
    cases active with
    | none => rfl
    | some s => exact s.decodeOptional?_encode
  simp only [decode?, encode_fields, Option.bind_eq_bind, Option.bind_some, states, current,
    List.reverse_reverse]

/-- The text of a bag, which is its token if a frame is active. -/
def written (b : Bag) : String := Text.Base64.encode (Text.utf8 b.encode.write)

theorem written_ne_empty (b : Bag) : b.written ≠ "" := by
  refine Text.Base64.encode_ne_empty ?_
  simp [encode, Json.record, Json.write, Text.utf8]

theorem token_of_active {b : Bag} {s : PageState} (active : b.active = some s) :
    b.token = b.written := by
  simp [token, written, isExhausted, active]

theorem token_of_exhausted {b : Bag} (exhausted : b.active = none) : b.token = "" := by
  simp [token, isExhausted, exhausted]

/-- The text of a bag stands for the bag, with an active frame or without one. -/
theorem ofToken_written {b : Bag} (distinct : b.Distinct) : ofToken b.written = .ok b := by
  have filled := b.written_ne_empty
  have bytes := Text.Base64.decode?_encode (Text.utf8 b.encode.write)
  have document := Json.readBytes?_write b.encode_textual (by decide)
  have scan : firstRepeated? [] (b.states.map (·.resourceType)) = none :=
    firstRepeated?_eq_none.mpr ⟨distinct, fun _ _ => List.not_mem_nil⟩
  rw [written] at filled ⊢
  simp [ofToken, filled, bytes, document, decode?_encode, scan]

theorem ofToken_token {b : Bag} (distinct : b.Distinct) (compact : b.Compact) :
    ofToken b.token = .ok b := by
  cases active : b.active with
  | none =>
    obtain ⟨suspended, _⟩ := b
    cases active
    cases compact rfl
    rfl
  | some s => rw [token_of_active active, ofToken_written distinct]

theorem ofToken_of_active {b : Bag} {s : PageState} (active : b.active = some s)
    (distinct : b.Distinct) : b.token ≠ "" ∧ ofToken b.token = .ok b := by
  have compact : b.Compact := fun none => absurd (active.symm.trans none) (by simp)
  exact ⟨token_of_active active ▸ b.written_ne_empty, ofToken_token distinct compact⟩

def single (resourceType cursor : String) : Bag := ⟨[], some { resourceType, cursor }⟩

theorem next_single (resourceType cursor next : String) :
    (single resourceType cursor).next next =
      .ok (if next = "" then empty else single resourceType next) :=
  next_eq (s := { resourceType, cursor }) rfl next

theorem ofToken_single (resourceType cursor : String) :
    (single resourceType cursor).token ≠ "" ∧
      ofToken (single resourceType cursor).token = .ok (single resourceType cursor) := by
  refine ofToken_of_active (s := { resourceType, cursor }) rfl ?_
  have types : (single resourceType cursor).types = [resourceType] := rfl
  simp [Distinct, types]

/-- A bag with an active frame is resumed as it was; any other starts with the first frame. -/
theorem resume_token {b : Bag} (distinct : b.Distinct) (compact : b.Compact) (first : PageState) :
    resume b.token first = .ok (if b.isExhausted then ⟨[], some first⟩ else b) := by
  have read := ofToken_token distinct compact
  cases active : b.active with
  | none =>
    have noTypes : b.types = [] := by
      simp [types_eq, active, compact active]
    simp [resume, read, bind, Except.bind, isExhausted, active, push_eq, noTypes, pushed,
      compact active]
  | some s => simp [resume, read, bind, Except.bind, isExhausted, active]

/-- Every bag that edits of the empty one lead to, refused edits included, comes back from its
token as it was, and is resumed where it stood. -/
theorem edited_token_round_trip (edits : List Edit) (first : PageState) :
    ofToken (empty.edited edits).token = .ok (empty.edited edits) ∧
      resume (empty.edited edits).token first =
        .ok (if (empty.edited edits).isExhausted then ⟨[], some first⟩
          else empty.edited edits) := by
  have distinct := distinct_kept.edited edits empty List.nodup_nil
  have compact := compact_kept.edited edits empty fun _ => rfl
  exact ⟨ofToken_token distinct compact, resume_token distinct compact first⟩

end Bag
end AccessCatalog
