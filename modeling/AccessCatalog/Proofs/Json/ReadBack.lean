import AccessCatalog.Json.Bytes
import AccessCatalog.Json.Writer
import AccessCatalog.Proofs.Text.Codes

/-! Reading inverts writing, for documents of texts, lists and objects. The text of a document is
first taken apart into the tokens it was made of, and the machine that reads them then ends with
the document it started from. -/
namespace AccessCatalog.Json

/-- A document of texts, lists and objects alone, nested no deeper than so many levels. -/
inductive Textual : Nat → Json → Prop where
  | str {n : Nat} (s : String) : Textual n (.str s)
  | arr {n : Nat} {items : List Json} : (∀ v ∈ items, Textual n v) → Textual (n + 1) (.arr items)
  | obj {n : Nat} {entries : List (String × Json)} :
      (∀ e ∈ entries, Textual n e.2) → Textual (n + 1) (.obj entries)

theorem Textual.deeper {n : Nat} {v : Json} (h : Textual n v) : Textual (n + 1) v := by
  induction h with
  | str s => exact .str s
  | arr _ ih => exact .arr ih
  | obj _ ih => exact .obj ih

mutual

def tokensOf : Json → List Token
  | .str s => [.text (some s)]
  | .arr items => .openArray :: (itemTokens items ++ [.closeArray])
  | .obj entries => .openObject :: (entryTokens entries ++ [.closeObject])
  | v => [.scalar v]

def itemTokens : List Json → List Token
  | [] => []
  | [v] => tokensOf v
  | v :: rest => tokensOf v ++ .comma :: itemTokens rest

def entryTokens : List (String × Json) → List Token
  | [] => []
  | [(k, v)] => .text (some k) :: .colon :: tokensOf v
  | (k, v) :: rest => .text (some k) :: .colon :: (tokensOf v ++ .comma :: entryTokens rest)

end

theorem run_cons {mode next : Mode} {c : Char} {found : List Token}
    (step : mode.step c = some (found, next)) (cs : List Char) :
    mode.run (c :: cs) = (next.run cs).map (found ++ ·) := by
  cases result : next.run cs <;> simp [Mode.run, step, result]

theorem run_silent {mode : Mode} (next : Mode) {c : Char} (step : mode.step c = some ([], next))
    (cs : List Char) : mode.run (c :: cs) = next.run cs := by
  rw [run_cons step]
  simp

/-! Strings, character by character. -/

def pieceOf (c : Char) : Piece :=
  if c = '\x08' ∨ c = '\x0c' ∨ c = '\n' ∨ c = '\r' ∨ c = '\t' ∨ 32 ≤ c.toNat then .char c
  else .unit c.toNat

theorem hexDigit?_hexChar : ∀ d : Nat, d < 16 → hexDigit? (hexChar d) = some d := by decide

theorem lt_space {c : Char} : c < ' ' ↔ c.toNat < 32 := Iff.rfl

theorem run_writeChar (pieces : List Piece) (c : Char) (cs : List Char) :
    (Mode.text pieces).run (writeChar c ++ cs) = (Mode.text (pieceOf c :: pieces)).run cs := by
  have letter : ∀ e d : Char, escaped? e = some d → e ≠ 'u' →
      (Mode.text pieces).run ('\\' :: e :: cs) = (Mode.text (.char d :: pieces)).run cs := by
    intro e d escaped plain
    rw [run_silent (.escape pieces) (by simp [Mode.step]),
      run_silent (.text (.char d :: pieces)) (by simp [Mode.step, plain, escaped])]
  by_cases quote : c = '"'
  · subst quote
    exact letter '"' '"' rfl (by decide)
  by_cases backslash : c = '\\'
  · subst backslash
    exact letter '\\' '\\' rfl (by decide)
  by_cases named : c = '\x08' ∨ c = '\x0c' ∨ c = '\n' ∨ c = '\r' ∨ c = '\t'
  · rcases named with rfl | rfl | rfl | rfl | rfl
    · exact letter 'b' _ rfl (by decide)
    · exact letter 'f' _ rfl (by decide)
    · exact letter 'n' _ rfl (by decide)
    · exact letter 'r' _ rfl (by decide)
    · exact letter 't' _ rfl (by decide)
  · simp only [not_or] at named
    obtain ⟨backspace, formFeed, newline, ret, tab⟩ := named
    by_cases control : c < ' '
    · have small : c.toNat < 32 := lt_space.mp control
      have high := hexDigit?_hexChar (c.toNat / 16) (by omega)
      have low := hexDigit?_hexChar (c.toNat % 16) (by omega)
      have zero : hexDigit? '0' = some 0 := rfl
      have whole : c.toNat / 16 * 16 + c.toNat % 16 = c.toNat := by omega
      have piece : pieceOf c = .unit c.toNat := by
        simp [pieceOf, backspace, formFeed, newline, ret, tab, small]
      simp only [writeChar, quote, backslash, backspace, formFeed, newline, ret, tab, control,
        if_true, if_false, List.cons_append, List.nil_append, piece]
      rw [run_silent (.escape pieces) (by simp [Mode.step]),
        run_silent (.hex pieces 0 0) (by simp [Mode.step]),
        run_silent (.hex pieces 1 0) (by simp [Mode.step, zero]),
        run_silent (.hex pieces 2 0) (by simp [Mode.step, zero]),
        run_silent (.hex pieces 3 (c.toNat / 16)) (by simp [Mode.step, high]),
        run_silent (.text (.unit c.toNat :: pieces)) (by simp [Mode.step, low, whole])]
    · have large : 32 ≤ c.toNat := Nat.le_of_not_lt (mt lt_space.mpr control)
      have piece : pieceOf c = .char c := by simp [pieceOf, large]
      simp only [writeChar, quote, backslash, backspace, formFeed, newline, ret, tab, control,
        if_false, List.cons_append, List.nil_append, piece]
      exact run_silent _ (by simp [Mode.step, quote, backslash, control]) cs

theorem joinPieces_pieceOf (c : Char) (rest : List Piece) :
    joinPieces (pieceOf c :: rest) = (joinPieces rest).map (c :: ·) := by
  unfold pieceOf
  split
  · rfl
  · rename_i control
    simp only [not_or] at control
    have small : c.toNat < 32 := by omega
    have notHigh : isHighSurrogate c.toNat = false := by
      simp only [isHighSurrogate, decide_eq_false_iff_not]
      omega
    have notLow : isLowSurrogate c.toNat = false := by
      simp only [isLowSurrogate, decide_eq_false_iff_not]
      omega
    cases rest with
    | nil => simp [joinPieces, notHigh, notLow]
    | cons piece rest => cases piece <;> simp [joinPieces, notHigh, notLow]

theorem joinPieces_map (cs : List Char) : joinPieces (cs.map pieceOf) = some cs := by
  induction cs with
  | nil => rfl
  | cons c cs ih => rw [List.map_cons, joinPieces_pieceOf, ih, Option.map_some]

theorem run_writeChars (cs : List Char) (pieces : List Piece) (rest : List Char) :
    (Mode.text pieces).run (cs.flatMap writeChar ++ rest) =
      (Mode.text ((cs.map pieceOf).reverse ++ pieces)).run rest := by
  induction cs generalizing pieces with
  | nil => rfl
  | cons c cs ih =>
    rw [List.flatMap_cons, List.append_assoc, run_writeChar, ih]
    simp

theorem run_writeString (s : String) (rest : List Char) :
    Mode.between.run (writeString s ++ rest) =
      (Mode.between.run rest).map ([.text (some s)] ++ ·) := by
  have opened : Mode.between.step '"' = some ([], .text []) := rfl
  have closed : (Mode.text (s.toList.map pieceOf).reverse).step '"' =
      some ([.text (some s)], .between) := by
    simp [Mode.step, textToken, joinPieces_map]
  simp only [writeString, List.cons_append, List.append_assoc, List.nil_append]
  rw [run_silent _ opened, run_writeChars, List.append_nil, run_cons closed]
  rfl

/-! Documents. -/

theorem run_append {cs : List Char} {found : List Token}
    (reads : ∀ rest, Mode.between.run (cs ++ rest) = (Mode.between.run rest).map (found ++ ·))
    (c : Char) (mark : Token) (step : Mode.between.step c = some ([mark], .between))
    (rest : List Char) :
    Mode.between.run (cs ++ c :: rest) =
      (Mode.between.run rest).map ((found ++ [mark]) ++ ·) := by
  rw [reads, run_cons step, Option.map_map]
  simp [Function.comp_def]

theorem run_writeItems {items : List Json}
    (each : ∀ v ∈ items, ∀ rest, Mode.between.run (v.write ++ rest) =
      (Mode.between.run rest).map (tokensOf v ++ ·)) (rest : List Char) :
    Mode.between.run (writeItems items ++ rest) =
      (Mode.between.run rest).map (itemTokens items ++ ·) := by
  induction items with
  | nil => simp [writeItems, itemTokens]
  | cons v items ih =>
    have head := each v List.mem_cons_self
    have tail := ih fun w member => each w (List.mem_cons_of_mem _ member)
    cases items with
    | nil => exact head rest
    | cons w items =>
      simp only [writeItems, itemTokens, List.append_assoc, List.cons_append] at tail ⊢
      rw [run_append head ',' .comma rfl, tail, Option.map_map]
      simp [Function.comp_def]

theorem run_writeEntries {entries : List (String × Json)}
    (each : ∀ e ∈ entries, ∀ rest, Mode.between.run (e.2.write ++ rest) =
      (Mode.between.run rest).map (tokensOf e.2 ++ ·)) (rest : List Char) :
    Mode.between.run (writeEntries entries ++ rest) =
      (Mode.between.run rest).map (entryTokens entries ++ ·) := by
  induction entries with
  | nil => simp [writeEntries, entryTokens]
  | cons e entries ih =>
    obtain ⟨k, v⟩ := e
    have key := run_append (run_writeString k) ':' .colon rfl
    have head := each (k, v) List.mem_cons_self
    have tail := ih fun f member => each f (List.mem_cons_of_mem _ member)
    cases entries with
    | nil =>
      simp only [writeEntries, entryTokens, List.append_assoc, List.cons_append] at tail ⊢
      rw [key, head, Option.map_map]
      simp [Function.comp_def]
    | cons f entries =>
      simp only [writeEntries, entryTokens, List.append_assoc, List.cons_append] at tail ⊢
      rw [key, run_append head ',' .comma rfl, tail, Option.map_map, Option.map_map]
      simp [Function.comp_def]

/-- The text of a document is taken apart into its tokens, whatever follows it. -/
theorem run_write {n : Nat} {v : Json} (textual : Textual n v) (rest : List Char) :
    Mode.between.run (v.write ++ rest) = (Mode.between.run rest).map (tokensOf v ++ ·) := by
  induction textual generalizing rest with
  | str s => exact run_writeString s rest
  | @arr n items all ih =>
    have opened : Mode.between.step '[' = some ([.openArray], .between) := rfl
    have inner := run_append (run_writeItems ih) ']' .closeArray rfl
    simp only [write, tokensOf, List.cons_append, List.append_assoc, List.nil_append]
    rw [run_cons opened, inner, Option.map_map]
    simp [Function.comp_def]
  | @obj n entries all ih =>
    have opened : Mode.between.step '\x7b' = some ([.openObject], .between) := rfl
    have inner := run_append (run_writeEntries ih) '\x7d' .closeObject rfl
    simp only [write, tokensOf, List.cons_append, List.append_assoc, List.nil_append]
    rw [run_cons opened, inner, Option.map_map]
    simp [Function.comp_def]

theorem tokens?_write {n : Nat} {v : Json} (textual : Textual n v) :
    tokens? v.write = some (tokensOf v) := by
  have whole := run_write textual []
  rw [List.append_nil] at whole
  rw [tokens?, whole]
  simp [Mode.run, Mode.finish]

/-! The machine that reads tokens. -/

theorem State.run_cons {s s' : State} {t : Token} (step : s.step t = some s') (ts : List Token) :
    s.run (t :: ts) = s'.run ts := by
  simp [State.run, List.foldlM_cons, step]

/-- No document begins with the end of a list, so the first item is read like any value. -/
theorem State.run_firstItem (v : Json) (stack : List Frame) (ts : List Token) :
    (State.firstItem stack).run (tokensOf v ++ ts) =
      (State.value (.array [] :: stack)).run (tokensOf v ++ ts) := by
  cases v <;> rfl

theorem objectOf_keys (entries : List (String × Json)) :
    objectOf (entries.map fun e => (some e.1, e.2)) = .obj entries := by
  have keys : (entries.map fun e => (some e.1, e.2)).mapM
      (fun e : Option String × Json => e.1.map (·, e.2)) = some entries := by
    induction entries with
    | nil => rfl
    | cons e entries ih => simp [ih]
  rw [objectOf, keys]

section Containers

variable {stack : List Frame}

theorem State.run_items (v : Json) {items : List Json} (done : List Json)
    (each : ∀ w ∈ v :: items, ∀ done ts,
      (State.value (.array done :: stack)).run (tokensOf w ++ ts) =
        (State.after w (.array done :: stack)).run ts) (ts : List Token) :
    (State.value (.array done :: stack)).run (itemTokens (v :: items) ++ .closeArray :: ts) =
      (State.after (closeIn stack (.arr (done.reverse ++ v :: items))) stack).run ts := by
  induction items generalizing v done with
  | nil =>
    rw [itemTokens, each v List.mem_cons_self, State.run_cons rfl]
    simp
  | cons w items ih =>
    have tail := ih w (v :: done) fun u member =>
      each u (List.mem_cons_of_mem _ member)
    simp only [itemTokens, List.append_assoc, List.cons_append]
    rw [each v List.mem_cons_self, State.run_cons rfl, tail]
    simp

theorem State.run_entries (e : String × Json) {entries : List (String × Json)}
    (held : List (Option String × Json))
    (each : ∀ f ∈ e :: entries, ∀ held ts,
      (State.value (.object held (some f.1) :: stack)).run (tokensOf f.2 ++ ts) =
        (State.after f.2 (.object held (some f.1) :: stack)).run ts) (ts : List Token) :
    (State.nextKey held stack).run (entryTokens (e :: entries) ++ .closeObject :: ts) =
      (State.after (closeIn stack
        (objectOf (held.reverse ++ (e :: entries).map fun f => (some f.1, f.2))))
        stack).run ts := by
  induction entries generalizing e held with
  | nil =>
    simp only [entryTokens, List.cons_append]
    rw [State.run_cons rfl, State.run_cons rfl, each e List.mem_cons_self, State.run_cons rfl]
    simp
  | cons f entries ih =>
    have tail := ih f ((some e.1, e.2) :: held) fun g member =>
      each g (List.mem_cons_of_mem _ member)
    simp only [entryTokens, List.append_assoc, List.cons_append]
    rw [State.run_cons rfl, State.run_cons rfl, each e List.mem_cons_self, State.run_cons rfl, tail]
    simp

end Containers

/-- Reading the tokens of a document ends with that document, if there is room for its depth. -/
theorem State.run_tokensOf {n : Nat} {v : Json} (textual : Textual n v) (stack : List Frame)
    (room : stack.length + n ≤ maxDepth) (ts : List Token) :
    (State.value stack).run (tokensOf v ++ ts) = (State.after v stack).run ts := by
  induction textual generalizing stack ts with
  | str s => exact State.run_cons rfl ts
  | @arr n items all ih =>
    have closed : ∀ v, closeIn stack v = v := fun v => if_pos (by omega)
    simp only [tokensOf, List.cons_append, List.append_assoc, List.nil_append]
    rw [State.run_cons rfl]
    cases items with
    | nil => rw [itemTokens, List.nil_append, State.run_cons rfl, closed]
    | cons v items =>
      have each : ∀ w ∈ v :: items, ∀ done ts,
          (State.value (.array done :: stack)).run (tokensOf w ++ ts) =
            (State.after w (.array done :: stack)).run ts :=
        fun w member done ts => ih w member _ (by simp only [List.length_cons]; omega) ts
      have first : ∃ rest, itemTokens (v :: items) ++ .closeArray :: ts = tokensOf v ++ rest := by
        cases items <;> simp [itemTokens]
      obtain ⟨rest, split⟩ := first
      rw [split, State.run_firstItem, ← split, State.run_items v [] each, closed]
      rfl
  | @obj n entries all ih =>
    have closed : ∀ v, closeIn stack v = v := fun v => if_pos (by omega)
    simp only [tokensOf, List.cons_append, List.append_assoc, List.nil_append]
    rw [State.run_cons rfl]
    cases entries with
    | nil => rw [entryTokens, List.nil_append, State.run_cons rfl, closed]
    | cons e entries =>
      have each : ∀ f ∈ e :: entries, ∀ held ts,
          (State.value (.object held (some f.1) :: stack)).run (tokensOf f.2 ++ ts) =
            (State.after f.2 (.object held (some f.1) :: stack)).run ts :=
        fun f member held ts => ih f member _ (by simp only [List.length_cons]; omega) ts
      -- the first key is read like one after a comma
      have first : (State.firstKey stack).run (entryTokens (e :: entries) ++ .closeObject :: ts) =
          (State.nextKey [] stack).run (entryTokens (e :: entries) ++ .closeObject :: ts) := by
        cases entries <;> rfl
      rw [first, State.run_entries e [] each, closed, List.reverse_nil, List.nil_append,
        objectOf_keys]

theorem read?_write {n : Nat} {v : Json} (textual : Textual n v) (shallow : n ≤ maxDepth) :
    read? v.write = some v := by
  have machine : (State.value []).run (tokensOf v) = some (.after v []) := by
    have whole := State.run_tokensOf textual [] (by simpa using shallow) []
    rwa [List.append_nil] at whole
  rw [read?, tokens?_write textual]
  simp [machine]

theorem readBytes?_write {n : Nat} {v : Json} (textual : Textual n v) (shallow : n ≤ maxDepth) :
    readBytes? (Text.utf8 v.write) = some v := by
  rw [readBytes?, Text.ofUtf8?_utf8]
  exact read?_write textual shallow

end AccessCatalog.Json
