import AccessCatalog.Paging.Bag

/-! The frames of a bag under every sequence of operations. No resource type has two frames, and
as long as no foreign token is read, no frame is suspended when none is active. -/
namespace AccessCatalog.Bag

/-- The resource types of all frames, the oldest first and the active one last. -/
def types (b : Bag) : List String := b.states.map (·.resourceType)

def Distinct (b : Bag) : Prop := b.types.Nodup

/-- A bag without an active frame has no suspended one. -/
def Compact (b : Bag) : Prop := b.active = none → b.suspended = []

/-- The bag with one more frame, which becomes the active one. -/
def pushed (b : Bag) (s : PageState) : Bag := ⟨b.active.toList ++ b.suspended, some s⟩

def moved (b : Bag) (s : PageState) (cursor : String) : Bag :=
  { b with active := some { s with cursor } }

theorem types_eq (b : Bag) :
    b.types = b.suspended.reverse.map (·.resourceType) ++
      b.active.toList.map (·.resourceType) := by
  simp [types, states]

theorem pushed_types (b : Bag) (s : PageState) :
    (b.pushed s).types = b.types ++ [s.resourceType] := by
  cases active : b.active <;> simp [types_eq, pushed, active]

theorem pop_types (b : Bag) : b.pop.types = b.suspended.reverse.map (·.resourceType) := by
  cases suspended : b.suspended <;> simp [types_eq, pop, suspended]

theorem moved_types {b : Bag} {s : PageState} (active : b.active = some s) (cursor : String) :
    (b.moved s cursor).types = b.types := by
  simp [types_eq, moved, active]

theorem push_eq (b : Bag) (s : PageState) :
    b.push s = if s.resourceType ∈ b.types then
        .error (.invalidToken ("frame for resource type '" ++ s.resourceType ++ "' already active"))
      else .ok (b.pushed s) := by
  have same : (b.states.any fun t => t.resourceType = s.resourceType) = true ↔
      s.resourceType ∈ b.types := by
    simp [types]
  simp only [push, pushed, same]

theorem push_ok {b b' : Bag} {s : PageState} (h : b.push s = .ok b') :
    s.resourceType ∉ b.types ∧ b' = b.pushed s := by
  rw [push_eq] at h
  split at h
  · contradiction
  · rename_i fresh
    exact ⟨fresh, (Except.ok.inj h).symm⟩

theorem next_eq {b : Bag} {s : PageState} (active : b.active = some s) (cursor : String) :
    b.next cursor = .ok (if cursor = "" then b.pop else b.moved s cursor) := by
  simp [next, active, moved]

theorem active_of_type {b : Bag} (running : b.resourceType ≠ "") : ∃ s, b.active = some s := by
  cases active : b.active with
  | none => simp [resourceType, active] at running
  | some s => exact ⟨s, rfl⟩

theorem resourceType_eq {b : Bag} {s : PageState} (active : b.active = some s) :
    b.resourceType = s.resourceType := by
  rw [resourceType, active]
  rfl

theorem resourceType_mem {b : Bag} (running : b.resourceType ≠ "") : b.resourceType ∈ b.types := by
  obtain ⟨s, active⟩ := active_of_type running
  rw [resourceType_eq active, types_eq, active]
  exact List.mem_append_right _ List.mem_cons_self

theorem next_running {b : Bag} (running : b.resourceType ≠ "") (cursor : String) :
    ∃ next, b.next cursor = .ok next := by
  obtain ⟨_, active⟩ := active_of_type running
  exact ⟨_, next_eq active cursor⟩

theorem next_ok {b b' : Bag} {cursor : String} (h : b.next cursor = .ok b') :
    ∃ s, b.active = some s ∧ (b' = b.pop ∨ b' = b.moved s cursor) := by
  cases active : b.active with
  | none => simp [next, active] at h
  | some s =>
    rw [next_eq active] at h
    refine ⟨s, rfl, ?_⟩
    have ended := Except.ok.inj h
    split at ended
    · exact .inl ended.symm
    · exact .inr ended.symm

inductive Edit where
  | push (frame : PageState)
  | seed (phases : List String)
  | next (cursor : String)
  | pop

/-- The bag of a result, or the one that a failure leaves as it was. -/
def orKeep (b : Bag) : Except Fault Bag → Bag
  | .ok b' => b'
  | .error _ => b

def Edit.apply (b : Bag) : Edit → Bag
  | .push frame => b.orKeep (b.push frame)
  | .seed phases => (b.seed phases).1
  | .next cursor => b.orKeep (b.next cursor)
  | .pop => b.pop

def edited (b : Bag) (edits : List Edit) : Bag := edits.foldl Edit.apply b

/-- What the three ways of changing the frames keep, every edit keeps. -/
structure Kept (P : Bag → Prop) : Prop where
  push : ∀ b s, P b → s.resourceType ∉ b.types → P (b.pushed s)
  pop : ∀ b, P b → P b.pop
  move : ∀ b s cursor, P b → b.active = some s → P (b.moved s cursor)

section Kept

variable {P : Bag → Prop}

theorem orKeep_kept {b : Bag} {result : Except Fault Bag} (here : P b)
    (accepted : ∀ b', result = .ok b' → P b') : P (b.orKeep result) := by
  cases result with
  | error fault => exact here
  | ok b' => exact accepted b' rfl

theorem Kept.pushAll (kept : Kept P) (phases : List String) (b : Bag) (h : P b) :
    P (b.pushAll phases).1 := by
  induction phases generalizing b with
  | nil => exact h
  | cons phase rest ih =>
    cases result : b.push { resourceType := phase } with
    | error fault => simpa [Bag.pushAll, result] using h
    | ok b' =>
      obtain ⟨fresh, rfl⟩ := push_ok result
      simpa [Bag.pushAll, result] using ih _ (kept.push b _ h fresh)

theorem Kept.apply (kept : Kept P) (e : Edit) (b : Bag) (h : P b) : P (e.apply b) := by
  cases e with
  | push frame =>
    refine orKeep_kept h fun b' pushed => ?_
    obtain ⟨fresh, rfl⟩ := push_ok pushed
    exact kept.push b frame h fresh
  | seed phases => exact kept.pushAll phases.reverse b h
  | next cursor =>
    refine orKeep_kept h fun b' advanced => ?_
    obtain ⟨s, active, rfl | rfl⟩ := next_ok advanced
    · exact kept.pop b h
    · exact kept.move b s cursor h active
  | pop => exact kept.pop b h

theorem Kept.edited (kept : Kept P) (edits : List Edit) (b : Bag) (h : P b) :
    P (b.edited edits) := by
  induction edits generalizing b with
  | nil => exact h
  | cons e rest ih => exact ih _ (kept.apply e b h)

end Kept

theorem distinct_kept : Kept Distinct where
  push b s h fresh := by
    rw [Distinct, pushed_types]
    exact List.nodup_append.mpr
      ⟨h, (by simp), fun a ha c hc same =>
        fresh (List.mem_singleton.mp hc ▸ same ▸ ha)⟩
  pop b h := by
    rw [Distinct, pop_types]
    rw [Distinct, types_eq] at h
    exact (List.nodup_append.mp h).1
  move b s cursor h active := by
    rw [Distinct, moved_types active]
    exact h

theorem pushed_compact (b : Bag) (s : PageState) : (b.pushed s).Compact := by
  intro none
  cases none

theorem pop_compact (b : Bag) : b.pop.Compact := by
  intro none
  cases suspended : b.suspended with
  | nil => simp [pop, suspended]
  | cons s rest => simp [pop, suspended] at none

theorem moved_compact (b : Bag) (s : PageState) (cursor : String) : (b.moved s cursor).Compact := by
  intro none
  cases none

theorem compact_kept : Kept Compact where
  push b s _ _ := b.pushed_compact s
  pop b _ := b.pop_compact
  move b s cursor _ _ := b.moved_compact s cursor

theorem next_distinct {b next : Bag} {cursor : String} (distinct : b.Distinct)
    (accepted : b.next cursor = .ok next) : next.Distinct := by
  obtain ⟨s, active, rfl | rfl⟩ := next_ok accepted
  · exact distinct_kept.pop b distinct
  · exact distinct_kept.move b s cursor distinct active

theorem next_compact {b next : Bag} {cursor : String} (accepted : b.next cursor = .ok next) :
    next.Compact := by
  obtain ⟨s, -, rfl | rfl⟩ := next_ok accepted
  · exact b.pop_compact
  · exact b.moved_compact s cursor

/-- The active frame goes with an empty cursor, and then no other one of its type is left. -/
theorem next_type {b next : Bag} {cursor : String} (distinct : b.Distinct)
    (running : b.resourceType ≠ "") (accepted : b.next cursor = .ok next) :
    (b.resourceType ∉ next.types ↔ cursor = "") ∧
      (next.resourceType ≠ b.resourceType ↔ cursor = "") := by
  obtain ⟨s, active⟩ := active_of_type running
  have moved := Except.ok.inj ((next_eq active cursor).symm.trans accepted)
  by_cases ended : cursor = ""
  · -- What is left was below the active frame, and no type is there twice.
    have gone : b.resourceType ∉ next.types := by
      rw [if_pos ended] at moved
      rw [Distinct, types_eq, active, List.nodup_append] at distinct
      rw [← moved, pop_types, resourceType_eq active]
      exact fun left => distinct.2.2 _ left _ List.mem_cons_self rfl
    have other : next.resourceType ≠ b.resourceType := by
      intro same
      exact gone (same ▸ resourceType_mem (same ▸ running))
    exact ⟨iff_of_true gone ended, iff_of_true other ended⟩
  · rw [if_neg ended] at moved
    have kept : b.resourceType ∈ next.types := by
      rw [← moved, moved_types active]
      exact resourceType_mem running
    have same : next.resourceType = b.resourceType := by
      rw [← moved, resourceType_eq active]
      rfl
    exact ⟨iff_of_false (not_not_intro kept) ended, iff_of_false (not_not_intro same) ended⟩

/-- The scan finds no repetition exactly when there is none, not even of a name seen before. -/
theorem firstRepeated?_eq_none {seen names : List String} :
    firstRepeated? seen names = none ↔ names.Nodup ∧ ∀ name ∈ names, name ∉ seen := by
  induction names generalizing seen with
  | nil => simp [firstRepeated?]
  | cons name rest ih =>
    by_cases again : name ∈ seen
    · simp [firstRepeated?, again]
    · simp only [firstRepeated?, List.contains_iff_mem, again, if_false, ih, List.nodup_cons]
      constructor
      · rintro ⟨nodup, fresh⟩
        refine ⟨⟨fun inRest => ?_, nodup⟩, ?_⟩
        · exact fresh name inRest List.mem_cons_self
        · intro other member
          rcases List.mem_cons.mp member with rfl | member
          · exact again
          · exact fun inSeen => fresh other member (List.mem_cons_of_mem _ inSeen)
      · rintro ⟨⟨notInRest, nodup⟩, fresh⟩
        refine ⟨nodup, fun other member inSeen => ?_⟩
        rcases List.mem_cons.mp inSeen with rfl | inSeen
        · exact notInRest member
        · exact fresh other (List.mem_cons_of_mem _ member) inSeen

/-- Whatever its text, a token that is accepted has no resource type twice. -/
theorem ofToken_distinct {token : String} {b : Bag} (accepted : ofToken token = .ok b) :
    b.Distinct := by
  unfold ofToken at accepted
  split at accepted
  · cases accepted
    exact List.nodup_nil
  · split at accepted
    · contradiction
    · split at accepted
      · contradiction
      · split at accepted
        · contradiction
        · rename_i decoded _ scan
          cases accepted
          exact (firstRepeated?_eq_none.mp scan).1

theorem resume_distinct {token : String} {first : PageState} {b : Bag}
    (accepted : resume token first = .ok b) : b.Distinct := by
  cases read : ofToken token with
  | error fault => simp [resume, read, bind, Except.bind] at accepted
  | ok start =>
    have distinct := ofToken_distinct read
    by_cases exhausted : start.isExhausted = true
    · have push : start.push first = .ok b := by
        simpa [resume, read, bind, Except.bind, exhausted] using accepted
      obtain ⟨fresh, rfl⟩ := push_ok push
      exact distinct_kept.push start first distinct fresh
    · have same : start = b := by
        simpa [resume, read, bind, Except.bind, exhausted] using accepted
      exact same ▸ distinct

/-- A bag that is resumed can be moved on. -/
theorem resume_next {token : String} {first : PageState} {b : Bag}
    (accepted : resume token first = .ok b) (cursor : String) : ∃ b', b.next cursor = .ok b' := by
  have active : ∃ s, b.active = some s := by
    cases read : ofToken token with
    | error fault => simp [resume, read, bind, Except.bind] at accepted
    | ok b' =>
      cases running : b'.active with
      | none =>
        have pushed : b'.push first = .ok b := by
          simpa [resume, read, bind, Except.bind, isExhausted, running] using accepted
        exact ⟨first, (push_ok pushed).2.symm ▸ rfl⟩
      | some s =>
        have same : b' = b := by
          simpa [resume, read, bind, Except.bind, isExhausted, running] using accepted
        exact ⟨s, same ▸ running⟩
  obtain ⟨s, active⟩ := active
  exact ⟨_, next_eq active cursor⟩

/-- Everything a caller can do with a bag: change it, replace it by what a token stands for, or
write its token. -/
inductive Operation where
  | edit (e : Edit)
  | read (token : String)
  | resume (token : String) (first : PageState)
  | write

def Operation.apply (b : Bag) : Operation → Bag
  | .edit e => e.apply b
  | .read token => b.orKeep (ofToken token)
  | .resume token first => b.orKeep (Bag.resume token first)
  | .write => b

theorem Operation.apply_distinct (o : Operation) (b : Bag) (h : b.Distinct) :
    (o.apply b).Distinct := by
  cases o with
  | edit e => exact distinct_kept.apply e b h
  | read token => exact orKeep_kept h fun _ => ofToken_distinct
  | resume token first => exact orKeep_kept h fun _ => resume_distinct
  | write => exact h

/-- No sequence of operations, accepted or refused, leads to two frames of one type. -/
theorem operations_distinct (operations : List Operation) :
    (operations.foldl Operation.apply empty).Distinct := by
  have run : ∀ b : Bag, b.Distinct → (operations.foldl Operation.apply b).Distinct := by
    induction operations with
    | nil => exact fun _ h => h
    | cons o rest ih => exact fun b h => ih _ (o.apply_distinct b h)
  exact run empty List.nodup_nil

end AccessCatalog.Bag
