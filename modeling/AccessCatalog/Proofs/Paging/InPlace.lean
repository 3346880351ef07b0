import AccessCatalog.Proofs.Paging.Draining

/-! Edits of a bag in place. A refusal does not undo what was done before it. Pushing a frame and
moving on look first and change nothing when they refuse. Seeding pushes one phase after the other,
so that the phases behind the refused one stay on the bag. -/
namespace AccessCatalog.Bag

/-- Work on a bag in place. What was done before a refusal stays done. -/
abbrev Work (α : Type) := ExceptT Fault (StateM Bag) α

namespace Work

/-- Looks for a frame of the type, suspends the active frame, and puts the new one in its place. -/
def push (s : PageState) : Work Unit := do
  if (← get).states.any fun t => t.resourceType = s.resourceType then
    throw (alreadyListed s.resourceType)
  else
    modify fun b => ⟨b.active.toList ++ b.suspended, none⟩
    modify fun b => { b with active := some s }

def next (cursor : String) : Work Unit := do
  match (← get).active with
  | none => throw (.invalidToken "no active page state")
  | some s =>
    if cursor.isEmpty then modify pop
    else modify fun b => { b with active := some { s with cursor } }

def seed (phases : List String) : Work Unit :=
  forM phases.reverse fun phase => push (.fresh phase)

/-- The outcome of a change that is made as a whole or not at all. -/
def settled (b : Bag) (result : Except Fault Bag) : Except Fault Unit × Bag :=
  (result.map fun _ => (), b.orKeep result)

theorem unchanged_of_settled {b b' : Bag} {result : Except Fault Bag} {fault : Fault}
    (refused : settled b result = (.error fault, b')) : b' = b := by
  cases result with
  | ok changed => cases congrArg Prod.fst refused
  | error fault => exact (congrArg Prod.snd refused).symm

theorem push_eq (s : PageState) (b : Bag) : push s b = settled b (b.push s) := by
  change (if (b.states.any fun t => t.resourceType = s.resourceType) = true then
      throw (alreadyListed s.resourceType)
    else do
      modify fun b => ⟨b.active.toList ++ b.suspended, none⟩
      modify fun b => { b with active := some s } : Work Unit) b = _
  rw [Bag.push]
  split <;> rfl

theorem next_eq (cursor : String) (b : Bag) : next cursor b = settled b (b.next cursor) := by
  obtain ⟨suspended, active⟩ := b
  cases active with
  | none => rfl
  | some s =>
    change (if cursor.isEmpty = true then modify pop
      else modify fun b => { b with active := some { s with cursor } } : Work Unit) _ = _
    rw [Bag.next]
    split <;> rfl

theorem bind_ok {α β : Type} {w : Work α} {f : α → Work β} {b b' : Bag} {a : α}
    (done : w b = (.ok a, b')) : (w >>= f) b = f a b' := by
  change ExceptT.bindCont f (w b).1 (w b).2 = _
  rw [done]
  rfl

theorem bind_error {α β : Type} {w : Work α} {f : α → Work β} {b b' : Bag} {fault : Fault}
    (refused : w b = (.error fault, b')) : (w >>= f) b = (.error fault, b') := by
  change ExceptT.bindCont f (w b).1 (w b).2 = _
  rw [refused]
  rfl

theorem pushes_eq (phases : List String) (b : Bag) :
    (forM phases fun phase => push (.fresh phase)) b = (b.pushAll phases).swap := by
  induction phases generalizing b with
  | nil => rfl
  | cons phase rest ih =>
    rw [List.forM_cons]
    have pushed : push (.fresh phase) b = settled b (if phase ∈ b.types then
        .error (alreadyListed phase) else .ok (b.pushed (.fresh phase))) := by
      rw [push_eq, b.push_eq]
      rfl
    by_cases listed : phase ∈ b.types
    · rw [if_pos listed] at pushed
      rw [bind_error pushed, pushAll_listed listed]
      rfl
    · rw [if_neg listed] at pushed
      rw [bind_ok pushed, pushAll_unlisted listed]
      exact ih _

theorem seed_eq (phases : List String) (b : Bag) : seed phases b = (b.seed phases).swap :=
  pushes_eq phases.reverse b

end Work

/-- The edit as work in place. -/
def Edit.work : Edit → Work Unit
  | .push frame => Work.push frame
  | .seed phases => Work.seed phases
  | .next cursor => Work.next cursor
  | .pop => modify Bag.pop

/-- Work in place ends with the bag that the edit leads to, accepted or refused. -/
theorem Edit.work_snd (e : Edit) (b : Bag) : (e.work b).2 = e.apply b := by
  cases e with
  | push frame => rw [work, Work.push_eq]; rfl
  | seed phases => rw [work, Work.seed_eq]; rfl
  | next cursor => rw [work, Work.next_eq]; rfl
  | pop => rfl

/-! What a refused seed leaves behind. -/

section Refused

variable {b : Bag}

/-- Pushes end at the first phase that is listed by then. -/
theorem pushAll_refused {phases : List String} {fault : Fault}
    (refused : (b.pushAll phases).2 = .error fault) :
    ∃ done phase rest, phases = done ++ phase :: rest ∧ (b.pushAll done).2 = .ok () ∧
      phase ∈ (b.pushAll done).1.types ∧
      b.pushAll phases = ((b.pushAll done).1, .error (alreadyListed phase)) := by
  induction phases generalizing b with
  | nil => cases refused
  | cons phase rest ih =>
    by_cases listed : phase ∈ b.types
    · exact ⟨[], phase, rest, rfl, rfl, listed, pushAll_listed listed rest⟩
    · rw [pushAll_unlisted listed] at refused ⊢
      obtain ⟨done, last, others, rfl, accepted, again, stopped⟩ := ih refused
      refine ⟨phase :: done, last, others, rfl, ?_⟩
      rw [pushAll_unlisted listed]
      exact ⟨accepted, again, stopped⟩

/-- A refused seed leaves what seeding the phases behind the refused one would. -/
theorem seed_refused {phases : List String} {fault : Fault}
    (refused : (b.seed phases).2 = .error fault) :
    ∃ front phase behind, phases = front ++ phase :: behind ∧ (b.seed behind).2 = .ok () ∧
      phase ∈ (b.seed behind).1.types ∧
      b.seed phases = ((b.seed behind).1, .error (alreadyListed phase)) := by
  obtain ⟨done, phase, rest, order, accepted, listed, stopped⟩ := pushAll_refused refused
  refine ⟨rest.reverse, phase, done.reverse, ?_, ?_⟩
  · simpa using congrArg List.reverse order
  · rw [seed, seed, List.reverse_reverse]
    exact ⟨accepted, listed, stopped⟩

theorem mem_seed_types {phases : List String} {type : String}
    (accepted : (b.seed phases).2 = .ok ()) :
    type ∈ (b.seed phases).1.types ↔ type ∈ phases ∨ type ∈ b.types := by
  rw [types_eq_frames, types_eq_frames, seed_frames accepted]
  simp [PageState.fresh, or_comm]

theorem seed_unchanged {phases : List String} (accepted : (b.seed phases).2 = .ok ()) :
    (b.seed phases).1 = b ↔ phases = [] := by
  constructor
  · intro same
    have frames := seed_frames accepted
    rw [same] at frames
    have length := congrArg List.length frames
    rw [List.length_append, List.length_map] at length
    exact List.eq_nil_of_length_eq_zero (by omega)
  · rintro rfl
    rfl

end Refused

/-- A frame that is refused and a bag that cannot move on are left as they were. A refused seed has
put the phases behind the refused one on top of what was there, so that the bag is as it was only
where nothing stood behind it. -/
theorem refused_edits {b b' : Bag} {e : Edit} {fault : Fault}
    (refused : e.work b = (.error fault, b')) :
    b' = e.apply b ∧
    ((∀ phases, e ≠ .seed phases) → b' = b) ∧
    ∀ phases, e = .seed phases → ∃ front phase behind,
      phases = front ++ phase :: behind ∧ fault = alreadyListed phase ∧
      behind.Nodup ∧ (∀ other ∈ behind, other ∉ b.types) ∧ (phase ∈ behind ∨ phase ∈ b.types) ∧
      b'.frames = behind.map PageState.fresh ++ b.frames ∧ (b' = b ↔ behind = []) := by
  have applied : b' = e.apply b := by
    rw [← e.work_snd, refused]
  refine ⟨applied, fun notSeed => ?_, fun phases seeding => ?_⟩
  · cases e with
    | push frame =>
      rw [Edit.work, Work.push_eq] at refused
      exact Work.unchanged_of_settled refused
    | seed phases => exact absurd rfl (notSeed phases)
    | next cursor =>
      rw [Edit.work, Work.next_eq] at refused
      exact Work.unchanged_of_settled refused
    | pop => cases congrArg Prod.fst refused
  · subst seeding
    rw [Edit.work, Work.seed_eq] at refused
    have stopped : (b.seed phases).2 = .error fault := congrArg Prod.fst refused
    obtain ⟨front, phase, behind, order, accepted, listed, left⟩ := seed_refused stopped
    rw [left] at refused
    cases refused
    obtain ⟨nodup, unlisted⟩ := seed_accepts.mp accepted
    exact ⟨front, phase, behind, order, rfl, nodup, unlisted, (mem_seed_types accepted).mp listed,
      seed_frames accepted, seed_unchanged accepted⟩

/-- Roles are listed already, so that only the groups get onto the bag. -/
theorem refused_edits_of_midRoles :
    (Edit.push { resourceType := "role" }).work midRoles =
      (.error (alreadyListed "role"), (Edit.push { resourceType := "role" }).apply midRoles) ∧
    (Edit.push { resourceType := "role" }).apply midRoles = midRoles ∧
    (Edit.seed ["role", "group"]).work midRoles =
      (.error (alreadyListed "role"), (Edit.seed ["role", "group"]).apply midRoles) ∧
    ((Edit.seed ["role", "group"]).apply midRoles).frames = .fresh "group" :: midRoles.frames := by
  have pushed : (Edit.push { resourceType := "role" }).work midRoles =
      (.error (alreadyListed "role"), (Edit.push { resourceType := "role" }).apply midRoles) := rfl
  have seeded : (Edit.seed ["role", "group"]).work midRoles =
      (.error (alreadyListed "role"), (Edit.seed ["role", "group"]).apply midRoles) := rfl
  obtain ⟨-, kept, -⟩ := refused_edits pushed
  obtain ⟨-, -, left⟩ := refused_edits seeded
  obtain ⟨front, phase, behind, order, -, -, -, listed, frames, -⟩ := left _ rfl
  refine ⟨pushed, kept (fun _ => Edit.noConfusion), seeded, ?_⟩
  rw [frames]
  cases front with
  | nil =>
    cases order
    rfl
  | cons first front =>
    -- The groups would be the refused phase, but they are not listed.
    obtain ⟨rfl, rfl, rfl⟩ : front = [] ∧ phase = "group" ∧ behind = [] := by
      cases front <;> simp_all
    exact absurd listed (by decide)

/-- An empty bag is seeded with phases that repeat. Seeding is refused, and the bag is left with
roles to be listed before users. -/
theorem half_seeded :
    (Edit.seed ["user", "role", "user"]).work empty =
      (.error (alreadyListed "user"), ⟨[.fresh "user"], some (.fresh "role")⟩) ∧
    (empty.seed ["user", "role", "user"]).2 = .error (alreadyListed "user") ∧
    (empty.seed ["user", "role", "user"]).1 ≠ empty :=
  ⟨rfl, rfl, by decide⟩

end AccessCatalog.Bag
