import AccessCatalog.Proofs.Json.ReadBack
import AccessCatalog.Proofs.Text.Cuts

/-! Documents that were cut. The text of a document of texts, lists and objects is complete with its
last character and not before, so no front of it is read as a document, of whatever bytes the cut
leaves. -/
namespace AccessCatalog.Json

/-! Literals and numbers. -/

theorem wordToken?_scalar {letters : List Char} {t : Token} (word : wordToken? letters = some t) :
    ∃ v, t = .scalar v := by
  unfold wordToken? at word
  split at word <;> cases word <;> exact ⟨_, rfl⟩

theorem numberToken?_scalar {chars : List Char} {t : Token}
    (number : numberToken? chars = some t) : ∃ v, t = .scalar v := by
  obtain ⟨_, _, rfl⟩ := Option.map_eq_some_iff.mp number
  exact ⟨_, rfl⟩

def Mode.IsScalar : Mode → Prop
  | .word _ | .number _ => True
  | _ => False

/-- A literal or a number that was begun goes on, or else it is a token and another one starts. -/
theorem step_scalar {mode next : Mode} {c : Char} {found : List Token} (scalar : mode.IsScalar)
    (step : mode.step c = some (found, next)) :
    (next.IsScalar ∧ c ≠ '"') ∨
      ∃ v more, found = .scalar v :: more ∧ startToken c = some (more, next) := by
  cases mode with
  | word letters =>
    rw [Mode.step] at step
    split at step
    · rename_i letter
      cases step
      refine .inl ⟨trivial, ?_⟩
      rintro rfl
      exact absurd letter (by decide)
    · simp only [Option.bind_eq_bind, Option.bind_eq_some_iff, Prod.exists] at step
      obtain ⟨token, word, more, _, start, ended⟩ := step
      obtain ⟨v, rfl⟩ := wordToken?_scalar word
      cases ended
      exact .inr ⟨v, more, rfl, start⟩
  | number chars =>
    rw [Mode.step] at step
    split at step
    · rename_i digit
      cases step
      refine .inl ⟨trivial, ?_⟩
      rintro rfl
      exact absurd digit (by decide)
    · simp only [Option.bind_eq_bind, Option.bind_eq_some_iff, Prod.exists] at step
      obtain ⟨token, number, more, _, start, ended⟩ := step
      obtain ⟨v, rfl⟩ := numberToken?_scalar number
      cases ended
      exact .inr ⟨v, more, rfl, start⟩
  | _ => cases scalar

/-! Text that ends inside a string. -/

/-- Where the automaton stands, as far as strings go. -/
def Mode.place : Mode → Place
  | .between | .word _ | .number _ => .outside
  | .text _ | .hex _ _ _ => .inside
  | .escape _ => .escaped

theorem Mode.IsScalar.place {mode : Mode} (scalar : mode.IsScalar) : mode.place = .outside := by
  cases mode <;> first | rfl | cases scalar

theorem outside_next {c : Char} (plain : c ≠ '"') : Place.outside.next c = .outside := if_neg plain

theorem startToken_place {c : Char} {found : List Token} {next : Mode}
    (start : startToken c = some (found, next)) : next.place = Place.outside.next c := by
  by_cases quote : c = '"'
  · subst quote
    cases start
    rfl
  · rw [outside_next quote]
    simp only [startToken, quote, if_false] at start
    repeat' split at start
    all_goals
      cases start
      try rfl

theorem hexDigit?_plain {c : Char} {d : Nat} (digit : hexDigit? c = some d) :
    c ≠ '"' ∧ c ≠ '\\' := by
  constructor <;>
    · rintro rfl
      cases digit

theorem step_place {mode next : Mode} {c : Char} {found : List Token}
    (step : mode.step c = some (found, next)) : next.place = mode.place.next c := by
  cases mode with
  | between => exact startToken_place step
  | word _ | number _ =>
    rcases step_scalar (by trivial) step with ⟨scalar, plain⟩ | ⟨_, _, -, start⟩
    · rw [scalar.place]
      exact (outside_next plain).symm
    · exact startToken_place start
  | text pieces =>
    rw [Mode.step] at step
    by_cases quote : c = '"'
    · rw [if_pos quote] at step
      cases step
      exact (if_pos quote).symm
    · rw [if_neg quote] at step
      by_cases backslash : c = '\\'
      · rw [if_pos backslash] at step
        cases step
        subst backslash
        rfl
      · rw [if_neg backslash] at step
        split at step
        · cases step
        · cases step
          simp [Mode.place, Place.next, quote, backslash]
  | escape pieces =>
    rw [Mode.step] at step
    split at step
    · cases step
      rfl
    · obtain ⟨_, _, ended⟩ := Option.map_eq_some_iff.mp step
      cases ended
      rfl
  | hex pieces count value =>
    simp only [Mode.step, Option.bind_eq_bind, Option.bind_eq_some_iff] at step
    obtain ⟨d, digit, ended⟩ := step
    obtain ⟨quote, backslash⟩ := hexDigit?_plain digit
    have stays : Place.inside.next c = .inside := by simp [Place.next, quote, backslash]
    split at ended <;>
      · cases ended
        exact stays.symm

theorem run_outside {mode : Mode} {cs : List Char} {tokens : List Token}
    (read : mode.run cs = some tokens) : cs.foldl Place.next mode.place = .outside := by
  induction cs generalizing mode tokens with
  | nil => cases mode <;> first | rfl | cases read
  | cons c cs ih =>
    cases step : mode.step c with
    | none => simp [Mode.run, step] at read
    | some result =>
      obtain ⟨found, next⟩ := result
      rw [run_cons step] at read
      obtain ⟨more, readMore, -⟩ := Option.map_eq_some_iff.mp read
      rw [List.foldl_cons, ← step_place step]
      exact ih readMore

/-- What a broken last piece is mended to ends inside a string. -/
theorem mend?_broken {place : Place} {found : List (Option Char)} {text : List Char}
    (mended : mend? place (found ++ [none]) = some text) :
    text.foldl Place.next place = .inside := by
  induction found generalizing place text with
  | nil =>
    cases place <;> cases mended
    rfl
  | cons piece found ih =>
    cases piece with
    | some c =>
      rw [List.cons_append, mend?] at mended
      obtain ⟨rest, mendedRest, rfl⟩ := Option.map_eq_some_iff.mp mended
      rw [List.foldl_cons]
      exact ih mendedRest
    | none =>
      cases place with
      | outside => cases mended
      | escaped => cases mended
      | inside =>
        rw [List.cons_append, mend?] at mended
        obtain ⟨rest, mendedRest, rfl⟩ := Option.map_eq_some_iff.mp mended
        have stays : ['\\', 'u', 'd', '8', '0', '0'].foldl Place.next .inside = .inside := rfl
        rw [List.foldl_append, stays]
        exact ih mendedRest

theorem read?_inside {text : List Char} (ends : text.foldl Place.next .outside = .inside) :
    read? text = none := by
  cases tokens : tokens? text with
  | none => simp [read?, tokens]
  | some found => cases ends.symm.trans (run_outside tokens)

/-! Text that ends anywhere else. -/

/-- Where the automaton is after the front of a text it takes, and what it found by then. -/
theorem run_front {mode : Mode} {cs rest : List Char} {tokens : List Token}
    (read : mode.run (cs ++ rest) = some tokens) :
    ∃ (found : List Token) (next : Mode), ∀ more,
      mode.run (cs ++ more) = (next.run more).map (found ++ ·) := by
  induction cs generalizing mode tokens with
  | nil => exact ⟨[], mode, fun more => by simp⟩
  | cons c cs ih =>
    cases step : mode.step c with
    | none => simp [Mode.run, step] at read
    | some result =>
      obtain ⟨first, begun⟩ := result
      rw [List.cons_append, run_cons step] at read
      obtain ⟨_, readRest, _⟩ := Option.map_eq_some_iff.mp read
      obtain ⟨found, next, goesOn⟩ := ih readRest
      refine ⟨first ++ found, next, fun more => ?_⟩
      rw [List.cons_append, run_cons step, goesOn, Option.map_map]
      simp [Function.comp_def]

/-- A literal or a number that was begun becomes a token. -/
theorem run_scalar {mode : Mode} (scalar : mode.IsScalar) {cs : List Char} {tokens : List Token}
    (read : mode.run cs = some tokens) : ∃ v, Token.scalar v ∈ tokens := by
  induction cs generalizing mode tokens with
  | nil =>
    cases mode with
    | word letters =>
      obtain ⟨t, word, rfl⟩ := Option.map_eq_some_iff.mp read
      obtain ⟨v, rfl⟩ := wordToken?_scalar word
      exact ⟨v, List.mem_singleton_self _⟩
    | number chars =>
      obtain ⟨t, number, rfl⟩ := Option.map_eq_some_iff.mp read
      obtain ⟨v, rfl⟩ := numberToken?_scalar number
      exact ⟨v, List.mem_singleton_self _⟩
    | _ => cases scalar
  | cons c cs ih =>
    cases step : mode.step c with
    | none => simp [Mode.run, step] at read
    | some result =>
      obtain ⟨found, next⟩ := result
      rw [run_cons step] at read
      obtain ⟨more, readMore, rfl⟩ := Option.map_eq_some_iff.mp read
      rcases step_scalar scalar step with ⟨goesOn, -⟩ | ⟨v, _, rfl, -⟩
      · obtain ⟨v, member⟩ := ih goesOn readMore
        exact ⟨v, List.mem_append_right _ member⟩
      · exact ⟨v, List.mem_cons_self⟩

theorem mem_itemTokens {items : List Json} {w : Json} (member : .scalar w ∈ itemTokens items) :
    ∃ v ∈ items, .scalar w ∈ tokensOf v := by
  induction items with
  | nil => simp [itemTokens] at member
  | cons v items ih =>
    cases items with
    | nil => exact ⟨v, List.mem_cons_self, member⟩
    | cons u items =>
      simp only [itemTokens, List.mem_append, List.mem_cons, reduceCtorEq, false_or] at member
      rcases member with inFirst | inRest
      · exact ⟨v, List.mem_cons_self, inFirst⟩
      · obtain ⟨x, inItems, inside⟩ := ih inRest
        exact ⟨x, List.mem_cons_of_mem _ inItems, inside⟩

theorem mem_entryTokens {entries : List (String × Json)} {w : Json}
    (member : .scalar w ∈ entryTokens entries) : ∃ e ∈ entries, .scalar w ∈ tokensOf e.2 := by
  induction entries with
  | nil => simp [entryTokens] at member
  | cons e entries ih =>
    cases entries with
    | nil =>
      simp only [entryTokens, List.mem_cons, reduceCtorEq, false_or] at member
      exact ⟨e, List.mem_cons_self, member⟩
    | cons f entries =>
      simp only [entryTokens, List.mem_append, List.mem_cons, reduceCtorEq, false_or] at member
      rcases member with inFirst | inRest
      · exact ⟨e, List.mem_cons_self, inFirst⟩
      · obtain ⟨x, inEntries, inside⟩ := ih inRest
        exact ⟨x, List.mem_cons_of_mem _ inEntries, inside⟩

theorem Textual.no_scalar {n : Nat} {v : Json} (textual : Textual n v) (w : Json) :
    .scalar w ∉ tokensOf v := by
  induction textual with
  | str s => simp [tokensOf]
  | arr _ ih =>
    intro member
    simp only [tokensOf, List.mem_cons, reduceCtorEq, false_or, List.mem_append, List.not_mem_nil,
      or_false] at member
    obtain ⟨v, inItems, member⟩ := mem_itemTokens member
    exact ih v inItems member
  | obj _ ih =>
    intro member
    simp only [tokensOf, List.mem_cons, reduceCtorEq, false_or, List.mem_append, List.not_mem_nil,
      or_false] at member
    obtain ⟨e, inEntries, member⟩ := mem_entryTokens member
    exact ih e inEntries member

/-- A text ends with a mark that completes a token. -/
theorem Textual.write_ends {n : Nat} {v : Json} (textual : Textual n v) :
    ∃ front mark, v.write = front ++ [mark] ∧ mark ∈ ['"', ']', '\x7d'] := by
  cases textual with
  | str s => exact ⟨_, '"', (List.cons_append ..).symm, by simp⟩
  | arr _ => exact ⟨'[' :: _, ']', by rw [write, List.cons_append], by simp⟩
  | obj _ => exact ⟨'\x7b' :: _, '\x7d', by rw [write, List.cons_append], by simp⟩

theorem run_mark {mode : Mode} {cs : List Char} {mark : Char} {tokens : List Token}
    (isMark : mark ∈ ['"', ']', '\x7d']) (read : mode.run (cs ++ [mark]) = some tokens) :
    tokens ≠ [] := by
  obtain ⟨found, next, goesOn⟩ := run_front read
  rw [goesOn] at read
  obtain ⟨last, readLast, rfl⟩ := Option.map_eq_some_iff.mp read
  suffices completed : last ≠ [] by simp [completed]
  rintro rfl
  -- The mark opens a string, which stays open, or else it is the end of a token.
  cases next with
  | word _ | number _ =>
    obtain ⟨_, member⟩ := run_scalar (by trivial) readLast
    cases member
  | between | text _ | escape _ | hex _ _ _ =>
    simp only [List.mem_cons, List.not_mem_nil, or_false] at isMark
    rcases isMark with rfl | rfl | rfl <;>
      simp [Mode.run, Mode.step, Mode.finish, startToken, escaped?, hexDigit?] at readLast

/-- A document that is complete takes no further token. -/
theorem State.run_complete {s : State} {found : List Token} {w : Json}
    (complete : s.run found = some (.after w [])) (t : Token) (ts : List Token) :
    s.run (found ++ t :: ts) = none := by
  have refused : State.step (.after w []) t = none := by cases t <;> rfl
  rw [State.run] at complete ⊢
  rw [List.foldlM_append, complete]
  simp [refused]

/-- No front of the text of a document is read, but for the whole. -/
theorem read?_cut {n : Nat} {v : Json} (textual : Textual n v) (shallow : n ≤ maxDepth)
    {cut rest : List Char} (whole : v.write = cut ++ rest) (more : rest ≠ []) :
    read? cut = none := by
  have tokens := tokens?_write textual
  rw [tokens?, whole] at tokens
  obtain ⟨found, next, goesOn⟩ := run_front tokens
  rw [goesOn] at tokens
  obtain ⟨tail, behind, split⟩ := Option.map_eq_some_iff.mp tokens
  have here := goesOn []
  rw [List.append_nil, Mode.run] at here
  cases next with
  | between =>
    have machine := State.run_tokensOf textual [] (by simpa using shallow) []
    rw [List.append_nil, ← split] at machine
    have completed : tail ≠ [] := by
      obtain ⟨front, mark, ends, isMark⟩ := textual.write_ends
      rw [← List.dropLast_concat_getLast more] at whole behind
      rw [ends, ← List.append_assoc] at whole
      cases List.append_inj_right' whole rfl
      exact run_mark isMark behind
    obtain ⟨t, ts, rfl⟩ := List.exists_cons_of_ne_nil completed
    have tokens : tokens? cut = some found := by simpa [tokens?, Mode.finish] using here
    cases read : read? cut with
    | none => rfl
    | some w =>
      rw [read?, tokens, Option.bind_eq_bind, Option.bind_some] at read
      obtain ⟨state, ran, ended⟩ := Option.bind_eq_some_iff.mp read
      split at ended
      · rw [State.run_complete ran] at machine
        cases machine
      · cases ended
  | word _ | number _ =>
    obtain ⟨w, member⟩ := run_scalar (by trivial) behind
    exact absurd (split ▸ List.mem_append_right found member) (textual.no_scalar w)
  | text _ | escape _ | hex _ _ _ => simp [read?, tokens?, here, Mode.finish]

/-- No front of the bytes of a document is read, wherever the bytes are cut. -/
theorem readBytes?_cut {n : Nat} {v : Json} (textual : Textual n v) (shallow : n ≤ maxDepth)
    {cut rest : List UInt8} (whole : Text.utf8 v.write = cut ++ rest) (more : rest ≠ []) :
    readBytes? cut = none := by
  obtain ⟨cs, broken, rfl, ⟨behind, chars⟩, state⟩ := Text.utf8_cut ⟨rest, whole.symm⟩
  rcases state with rfl | isBroken
  · rw [List.append_nil] at whole ⊢
    rw [readBytes?, Text.ofUtf8?_utf8]
    refine read?_cut textual shallow chars.symm ?_
    rintro rfl
    rw [List.append_nil] at chars
    rw [chars] at whole
    exact more (List.self_eq_append_right.mp whole)
  · obtain ⟨found, scanned⟩ := Text.scannedChars_broken cs isBroken
    rw [readBytes?, isBroken.unread cs, scanned]
    cases mended : mend? .outside (found ++ [none]) with
    | none => rfl
    | some text => exact read?_inside (mend?_broken mended)

end AccessCatalog.Json
