import AccessCatalog.Proofs.Paging.Frames
import Mathlib.Data.List.Induction
import Mathlib.Data.List.Nodup

/-! Draining a bag from the top. The frames of a bag are a stack with the active frame on top, and
seeding puts fresh frames on it, the first phase topmost. However the calls to move on follow each
other, the empty cursors alone decide which frame is active, and the frames below it wait as they
are. -/
namespace AccessCatalog

/-- The frame that a phase starts with. -/
def PageState.fresh (phase : String) : PageState := { resourceType := phase }

namespace Bag

/-- The frames from the top of the stack down. -/
def frames (b : Bag) : List PageState := b.active.toList ++ b.suspended

/-- The bag with this stack, its top frame active. -/
def ofFrames (stack : List PageState) : Bag := ⟨stack.tail, stack.head?⟩

theorem ofFrames_frames {b : Bag} (compact : b.Compact) : ofFrames b.frames = b := by
  obtain ⟨suspended, active⟩ := b
  cases active with
  | none =>
    have nothing : suspended = [] := compact rfl
    subst nothing
    rfl
  | some s => rfl

theorem types_eq_frames (b : Bag) : b.types = (b.frames.map (·.resourceType)).reverse := by
  cases active : b.active <;> simp [types_eq, frames, active]

theorem pushed_frames (b : Bag) (s : PageState) : (b.pushed s).frames = s :: b.frames := rfl

/-! Seeding. -/

/-- The refusal of a second frame for a resource type. -/
def alreadyListed (resourceType : String) : Fault :=
  .invalidToken ("frame for resource type '" ++ resourceType ++ "' already active")

section Seeding

variable {b : Bag} {phase : String}

theorem pushAll_listed (listed : phase ∈ b.types) (rest : List String) :
    b.pushAll (phase :: rest) = (b, .error (alreadyListed phase)) := by
  have refused := b.push_eq (PageState.fresh phase)
  rw [PageState.fresh, if_pos listed] at refused
  rw [pushAll, refused]
  rfl

theorem pushAll_unlisted (unlisted : phase ∉ b.types) (rest : List String) :
    b.pushAll (phase :: rest) = (b.pushed (PageState.fresh phase)).pushAll rest := by
  have pushed := b.push_eq (PageState.fresh phase)
  rw [PageState.fresh, if_neg unlisted] at pushed
  rw [pushAll, pushed, PageState.fresh]

theorem pushAll_accepts {phases : List String} :
    (b.pushAll phases).2 = .ok () ↔ phases.Nodup ∧ ∀ phase ∈ phases, phase ∉ b.types := by
  induction phases generalizing b with
  | nil => simp [pushAll]
  | cons phase rest ih =>
    by_cases listed : phase ∈ b.types
    · simp [pushAll_listed listed rest, listed]
    · have types : (b.pushed (PageState.fresh phase)).types = b.types ++ [phase] :=
        b.pushed_types _
      rw [pushAll_unlisted listed, ih, types, List.nodup_cons]
      simp only [List.forall_mem_cons, List.mem_append, List.mem_singleton]
      constructor
      · rintro ⟨nodup, unlisted⟩
        refine ⟨⟨fun again => ?_, nodup⟩, listed, fun other member => ?_⟩
        · exact unlisted phase again (.inr rfl)
        · exact fun inBag => unlisted other member (.inl inBag)
      · rintro ⟨⟨once, nodup⟩, -, unlisted⟩
        refine ⟨nodup, fun other member => ?_⟩
        rintro (inBag | rfl)
        · exact unlisted other member inBag
        · exact once member

theorem pushAll_frames {phases : List String} (accepted : (b.pushAll phases).2 = .ok ()) :
    (b.pushAll phases).1.frames = phases.reverse.map PageState.fresh ++ b.frames := by
  induction phases generalizing b with
  | nil => rfl
  | cons phase rest ih =>
    have unlisted := (pushAll_accepts.mp accepted).2 phase List.mem_cons_self
    rw [pushAll_unlisted unlisted] at accepted ⊢
    rw [ih accepted, pushed_frames]
    simp

theorem seed_accepts {phases : List String} :
    (b.seed phases).2 = .ok () ↔ phases.Nodup ∧ ∀ phase ∈ phases, phase ∉ b.types := by
  rw [seed, pushAll_accepts, List.nodup_reverse]
  simp only [List.mem_reverse]

theorem seed_frames {phases : List String} (accepted : (b.seed phases).2 = .ok ()) :
    (b.seed phases).1.frames = phases.map PageState.fresh ++ b.frames := by
  rw [seed, pushAll_frames accepted, List.reverse_reverse]

/-- What is seeded has an active frame, even where the bag before had only suspended ones. -/
theorem seed_compact {phases : List String} (topped : b.Compact ∨ phases ≠ [])
    (accepted : (b.seed phases).2 = .ok ()) : (b.seed phases).1.Compact := by
  rcases topped with compact | some
  · exact compact_kept.pushAll phases.reverse b compact
  · obtain ⟨last, front, reversed⟩ :=
      List.exists_cons_of_ne_nil (mt List.reverse_eq_nil_iff.mp some)
    rw [seed, reversed] at accepted ⊢
    rw [pushAll_unlisted ((pushAll_accepts.mp accepted).2 last List.mem_cons_self)]
    exact compact_kept.pushAll front _ (b.pushed_compact _)

theorem seed_eq {phases : List String} (topped : b.Compact ∨ phases ≠ [])
    (accepted : (b.seed phases).2 = .ok ()) :
    (b.seed phases).1 = ofFrames (phases.map PageState.fresh ++ b.frames) := by
  rw [← seed_frames accepted, ofFrames_frames (seed_compact topped accepted)]

end Seeding

/-! Moving on. -/

/-- The bag after calls to move on, refused ones included. -/
def advanced (b : Bag) (cursors : List String) : Bag := b.edited (cursors.map .next)

/-- The last of the cursors that the frame active after them was given, or else the one it had in
store. It was given those behind the last empty one. -/
def lastGiven (stored : String) (cursors : List String) : String :=
  (cursors.reverse.takeWhile (· ≠ "")).head?.getD stored

theorem advanced_append (b : Bag) (cursors : List String) (cursor : String) :
    b.advanced (cursors ++ [cursor]) =
      (b.advanced cursors).orKeep ((b.advanced cursors).next cursor) := by
  simp [advanced, edited, Edit.apply]

theorem lastGiven_append (stored : String) (cursors : List String) (cursor : String) :
    lastGiven stored (cursors ++ [cursor]) = if cursor = "" then stored else cursor := by
  by_cases ended : cursor = "" <;> simp [lastGiven, ended]

theorem empty_next (cursor : String) :
    empty.next cursor = .error (.invalidToken "no active page state") := rfl

section Draining

variable {stack : List PageState}

/-- After as many empty cursors as there are frames above it, a frame is active at the last cursor
that it was given, and those below it are as they were. -/
theorem advanced_active {above below : List PageState} {s : PageState}
    (here : stack = above ++ s :: below) {cursors : List String}
    (ended : cursors.count "" = above.length) :
    (ofFrames stack).advanced cursors =
      ⟨below, some { s with cursor := lastGiven s.cursor cursors }⟩ := by
  -- By the last call: it either moved this frame, or ended the one just above it.
  induction cursors using List.reverseRecOn generalizing above below s with
  | nil =>
    have top : above = [] := List.eq_nil_of_length_eq_zero ended.symm
    rw [here, top]
    rfl
  | append_singleton cursors cursor ih =>
    rw [advanced_append, lastGiven_append]
    by_cases last : cursor = ""
    · subst last
      rw [List.count_append, List.count_singleton_self] at ended
      obtain ⟨higher, t, rfl⟩ : ∃ higher t, above = higher ++ [t] :=
        ⟨_, _, (List.dropLast_concat_getLast (List.ne_nil_of_length_pos (by omega))).symm⟩
      have higherEnded : (ofFrames stack).advanced cursors =
          ⟨s :: below, some { t with cursor := lastGiven t.cursor cursors }⟩ :=
        ih (by rw [here, List.append_assoc, List.singleton_append]) (by simpa using ended)
      rw [higherEnded, next_eq rfl, if_pos rfl, if_pos rfl]
      rfl
    · rw [List.count_append, List.count_singleton, if_neg (by simpa using last)] at ended
      rw [ih here ended, next_eq rfl, if_neg last, if_neg last]
      rfl

/-- Once there were as many empty cursors as frames, nothing is left, whatever comes then. -/
theorem advanced_exhausted {cursors : List String} (ended : stack.length ≤ cursors.count "") :
    (ofFrames stack).advanced cursors = empty := by
  induction cursors using List.reverseRecOn with
  | nil =>
    rw [List.eq_nil_of_length_eq_zero (Nat.le_zero.mp ended)]
    rfl
  | append_singleton cursors cursor ih =>
    rw [advanced_append]
    by_cases before : stack.length ≤ cursors.count ""
    · rw [ih before]
      rfl
    · have last : cursor = "" := by
        by_contra more
        rw [List.count_append, List.count_singleton, if_neg (by simpa using more)] at ended
        exact before ended
      subst last
      rw [List.count_append, List.count_singleton_self] at ended
      obtain ⟨above, s, rfl⟩ : ∃ above s, stack = above ++ [s] :=
        ⟨_, _, (List.dropLast_concat_getLast (List.ne_nil_of_length_pos (by omega))).symm⟩
      rw [List.length_append, List.length_singleton] at ended before
      rw [advanced_active rfl (by omega), next_eq rfl, if_pos rfl]
      rfl

/-- While a frame is left, calls to move on are accepted. -/
theorem advanced_running {cursors : List String} (left : cursors.count "" < stack.length) :
    (ofFrames stack).advanced cursors ≠ empty ∧
      ∀ cursor, ∃ next, ((ofFrames stack).advanced cursors).next cursor = .ok next := by
  have split : stack = stack.take (cursors.count "") ++
      stack[cursors.count ""] :: stack.drop (cursors.count "" + 1) := by
    rw [← List.drop_eq_getElem_cons left, List.take_append_drop]
  rw [advanced_active split (by rw [List.length_take, Nat.min_eq_left (Nat.le_of_lt left)])]
  refine ⟨fun nothing => ?_, fun cursor => ⟨_, next_eq rfl cursor⟩⟩
  cases congrArg active nothing

end Draining

/-- Phases can be seeded just if they are distinct and none of them is listed already. Where that
leaves an active frame on top, the phases are drained in their order, and after them the frames that
the bag held, from the top down. Each frame ends with its first empty cursor; the one active after
some calls to move on is at the last cursor that it was given, and those below it are as they were.
Nothing is left, and the calls are refused, after as many empty cursors as there are frames and no
sooner. -/
theorem seeded_drained (b : Bag) (phases : List String) :
    ((b.seed phases).2 = .ok () ↔ phases.Nodup ∧ ∀ phase ∈ phases, phase ∉ b.types) ∧
    ((b.seed phases).2 = .ok () → b.Compact ∨ phases ≠ [] → ∀ cursors : List String,
      (∀ above s below, phases.map PageState.fresh ++ b.frames = above ++ s :: below →
        cursors.count "" = above.length →
        (b.seed phases).1.advanced cursors =
          ⟨below, some { s with cursor := lastGiven s.cursor cursors }⟩) ∧
      ((b.seed phases).1.advanced cursors = empty ↔
        phases.length + b.frames.length ≤ cursors.count "") ∧
      ∀ cursor, (∃ fault, ((b.seed phases).1.advanced cursors).next cursor = .error fault) ↔
        phases.length + b.frames.length ≤ cursors.count "") := by
  refine ⟨seed_accepts, fun accepted topped cursors => ?_⟩
  have length : (phases.map PageState.fresh ++ b.frames).length =
      phases.length + b.frames.length := by
    rw [List.length_append, List.length_map]
  rw [seed_eq topped accepted, ← length]
  refine ⟨fun above s below here ended => advanced_active here ended, ?_, fun cursor => ?_⟩
  · refine ⟨fun nothing => ?_, advanced_exhausted⟩
    exact Nat.le_of_not_lt fun left => (advanced_running left).1 nothing
  · constructor
    · rintro ⟨fault, refused⟩
      refine Nat.le_of_not_lt fun left => ?_
      obtain ⟨next, accepted⟩ := (advanced_running left).2 cursor
      cases accepted.symm.trans refused
    · intro ended
      rw [advanced_exhausted ended]
      exact ⟨_, empty_next cursor⟩

/-- Roles that are listed from the cursor `r5` on. -/
def midRoles : Bag := ⟨[], some { resourceType := "role", cursor := "r5" }⟩

/-- Users and groups go before the roles, which then go on from where they were. -/
theorem seeded_drained_of_midRoles :
    (midRoles.seed ["user", "group"]).2 = .ok () ∧ midRoles.Compact ∧
    (midRoles.seed ["user", "group"]).1.advanced ["u2", "u3", "", "g2", ""] = midRoles ∧
    (midRoles.seed ["user", "group"]).1.advanced ["", "g2", "g3"] =
      ⟨[{ resourceType := "role", cursor := "r5" }],
        some { resourceType := "group", cursor := "g3" }⟩ ∧
    (midRoles.seed ["user", "group"]).1.advanced ["", "", "r6", ""] = empty := by
  obtain ⟨accepts, drains⟩ := seeded_drained midRoles ["user", "group"]
  have accepted := accepts.mpr (by decide)
  have compact : midRoles.Compact := by
    intro none
    cases none
  have run := drains accepted (.inl compact)
  refine ⟨accepted, compact, ?_, ?_, ?_⟩
  · exact (run ["u2", "u3", "", "g2", ""]).1 [.fresh "user", .fresh "group"] _ [] rfl rfl
  · exact (run ["", "g2", "g3"]).1 [.fresh "user"] (.fresh "group") _ rfl rfl
  · exact (run ["", "", "r6", ""]).2.1.mpr (by decide)

end Bag
end AccessCatalog
