import AccessCatalog.Proofs.Paging.Token

/-! Exhausted bags. An accepted edit leaves an active frame or no frame at all, and so does resuming
from a token. A bag that is only read from a token may hold suspended frames without an active one.
It counts as exhausted and its token is empty, until an edit is accepted. -/
namespace AccessCatalog.Bag

/-- A bag that is exhausted has nothing left to drain, and none of its frames is lost on the way
through its token. -/
structure Drains (b : Bag) : Prop where
  exhausted : b.isExhausted = true ↔ b.states = []
  token_empty : b.token = "" ↔ b.states = []
  restored : ofToken b.token = .ok b

theorem states_eq_nil {b : Bag} : b.states = [] ↔ b.active = none ∧ b.suspended = [] := by
  cases active : b.active <;> simp [states, active]

theorem token_eq_empty {b : Bag} : b.token = "" ↔ b.active = none := by
  cases active : b.active with
  | none => simp [token_of_exhausted active]
  | some s => simp [token_of_active active, b.written_ne_empty]

theorem Compact.drains {b : Bag} (compact : b.Compact) (distinct : b.Distinct) : b.Drains := by
  have nothing : b.active = none ↔ b.states = [] := by
    rw [states_eq_nil]
    exact ⟨fun none => ⟨none, compact none⟩, And.left⟩
  refine ⟨?_, token_eq_empty.trans nothing, ofToken_token distinct compact⟩
  rw [← nothing, isExhausted, Option.isNone_iff_eq_none]

theorem Drains.compact {b : Bag} (drains : b.Drains) : b.Compact := by
  intro none
  exact (states_eq_nil.mp (drains.token_empty.mp (token_eq_empty.mpr none))).2

/-- Until the first edit that is accepted, a bag stays as it was. -/
theorem settled_kept (start : Bag) : Kept fun b => b = start ∨ b.Compact where
  push b s _ _ := .inr (b.pushed_compact s)
  pop b _ := .inr b.pop_compact
  move b s cursor _ _ := .inr (b.moved_compact s cursor)

/-- A bag that was resumed has an active frame, whatever the token held. -/
theorem resume_compact {token : String} {first : PageState} {b : Bag}
    (accepted : resume token first = .ok b) : b.Compact := by
  intro none
  obtain ⟨_, moved⟩ := resume_next accepted ""
  obtain ⟨s, active, -⟩ := next_ok moved
  cases none.symm.trans active

/-- A bag that a token is resumed to drains, whatever edits follow. So does one that is read from a
token, unless the token leaves frames suspended without an active one; that bag keeps its frames
hidden until an edit is accepted, and drains from there on. -/
theorem exhausted_drained (token : String) (edits : List Edit) :
    (∀ (first : PageState) (b : Bag), resume token first = .ok b → (b.edited edits).Drains) ∧
    ∀ b : Bag, ofToken token = .ok b →
      (b.Drains ↔ (b.active = none → b.suspended = [])) ∧
      (b.Drains → (b.edited edits).Drains) ∧
      (b.edited edits = b ∨ (b.edited edits).Drains) := by
  constructor
  · intro first b resumed
    have compact := compact_kept.edited edits b (resume_compact resumed)
    exact compact.drains (distinct_kept.edited edits b (resume_distinct resumed))
  · intro b read
    have distinct := ofToken_distinct read
    have changed := distinct_kept.edited edits b distinct
    refine ⟨⟨Drains.compact, fun compact => Compact.drains compact distinct⟩, ?_, ?_⟩
    · intro drains
      exact (compact_kept.edited edits b drains.compact).drains changed
    · rcases (settled_kept b).edited edits b (.inl rfl) with same | compact
      · exact .inl same
      · exact .inr (compact.drains changed)

/-- Users suspended, and nothing active. -/
def stranded : Bag := { suspended := [{ resourceType := "user" }] }

/-- A frame that is suspended in vain comes to light when the bag is popped, after which everything
drains. -/
theorem exhausted_drained_of_stranded :
    ofToken (single "user" "c1").token = .ok (single "user" "c1") ∧
    ((single "user" "c1").edited [.seed ["role"], .next "", .next ""]).Drains ∧
    ofToken stranded.written = .ok stranded ∧ (stranded.edited [.next "c1", .pop]).Drains := by
  have read := (ofToken_single "user" "c1").2
  have resumed : resume (single "user" "c1").token { resourceType := "group" } =
      .ok (single "user" "c1") := by
    rw [resume, read]
    rfl
  have accepted : ofToken stranded.written = .ok stranded :=
    ofToken_written (by simp [Distinct, types, states, stranded])
  refine ⟨read, ?_, accepted, ?_⟩
  · exact (exhausted_drained _ [.seed ["role"], .next "", .next ""]).1 _ _ resumed
  · refine ((exhausted_drained _ [.next "c1", .pop]).2 _ accepted).2.2.resolve_left ?_
    decide

/-- The token of suspended users alone is accepted. The bag counts as exhausted, its own token is the
one of the empty bag, and yet popping it makes the users active. -/
theorem stranded_frame_lost :
    stranded.written = "eyJzdGF0ZXMiOlt7InR5cGUiOiJ1c2VyIn1dfQ" ∧
    (ofToken "eyJzdGF0ZXMiOlt7InR5cGUiOiJ1c2VyIn1dfQ").toOption = some stranded ∧
    stranded.isExhausted = true ∧ stranded.states ≠ [] ∧
    stranded.token = "" ∧ (ofToken stranded.token).toOption = some empty ∧ stranded ≠ empty ∧
    stranded.pop.isExhausted = false := by
  decide +kernel

end AccessCatalog.Bag
