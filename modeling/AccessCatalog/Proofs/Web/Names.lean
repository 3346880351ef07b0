import AccessCatalog.Proofs.Web.LinkEntries
import AccessCatalog.Proofs.Web.Site

/-! Names of hosts. Whatever a name is written with, its form in ASCII has none of the characters
that part an address, and a name of ASCII is its own form once its letters are small. -/
namespace AccessCatalog.Web

theorem mapM_some_iff {α β : Type} {f : α → Option β} {xs : List α} {ys : List β} :
    xs.mapM f = some ys ↔ xs.map f = ys.map some := by
  induction xs generalizing ys with
  | nil => cases ys <;> simp
  | cons x xs ih => cases ys <;> simp [List.mapM_cons, Option.bind_eq_some_iff, ih]

/-- What lists read one by one give was read from one of them each. -/
theorem mem_of_mapM {α β : Type} {f : α → Option β} {xs : List α} {ys : List β} {y : β}
    (read : xs.mapM f = some ys) (member : y ∈ ys) : ∃ x ∈ xs, f x = some y := by
  have inMap : some y ∈ xs.map f := by
    rw [mapM_some_iff.mp read]
    exact List.mem_map_of_mem member
  obtain ⟨x, inList, same⟩ := List.mem_map.mp inMap
  exact ⟨x, inList, same⟩

/-- Reading that can be undone is undone entry by entry. -/
theorem map_of_mapM {α β : Type} {f : α → Option β} {g : β → α} {xs : List α} {ys : List β}
    (back : ∀ x ∈ xs, ∀ y, f x = some y → g y = x) (read : xs.mapM f = some ys) :
    ys.map g = xs := by
  induction xs generalizing ys with
  | nil =>
    cases read
    rfl
  | cons x xs ih =>
    rw [List.mapM_cons] at read
    obtain ⟨y, first, read⟩ := Option.bind_eq_some_iff.mp read
    obtain ⟨zs, others, read⟩ := Option.bind_eq_some_iff.mp read
    cases read
    rw [List.map_cons, back x List.mem_cons_self y first,
      ih (fun z member => back z (List.mem_cons_of_mem _ member)) others]

theorem intercalate_splitAt {α : Type} [BEq α] [LawfulBEq α] (mark : α) (xs : List α) :
    [mark].intercalate (Form.splitAt mark xs) = xs := by
  induction xs with
  | nil => simp [Form.splitAt]
  | cons x xs ih =>
    cases pieces : Form.splitAt mark xs with
    | nil => exact absurd pieces (Form.splitAt_ne_nil mark xs)
    | cons piece rest =>
      rw [pieces] at ih
      by_cases hit : (x == mark) = true
      · simp [Form.splitAt, pieces, List.intercalate_cons_cons, ih, eq_of_beq hit]
      · cases rest <;> simp_all [Form.splitAt, List.intercalate_cons_cons]

theorem splitAt_pieces {α : Type} [BEq α] [LawfulBEq α] {mark : α} {pieces : List (List α)}
    (some : pieces ≠ []) (absent : ∀ piece ∈ pieces, mark ∉ piece) :
    Form.splitAt mark ([mark].intercalate pieces) = pieces := by
  rw [splitAt_intercalate some]
  have each : pieces.map (Form.splitAt mark) = pieces.map fun piece => [piece] :=
    List.map_congr_left fun piece member => Form.splitAt_of_not_mem (absent piece member)
  rw [List.flatMap_def, each]
  exact (List.map_eq_flatMap (f := id)).symm.trans (List.map_id pieces)

theorem mem_intercalate {α : Type} {mark x : α} {pieces : List (List α)}
    (member : x ∈ [mark].intercalate pieces) : x = mark ∨ ∃ piece ∈ pieces, x ∈ piece := by
  induction pieces with
  | nil => simp [List.intercalate] at member
  | cons piece rest ih =>
    cases rest with
    | nil => simp_all [List.intercalate]
    | cons next rest =>
      rw [List.intercalate_cons_cons, List.mem_append, List.mem_append, List.mem_singleton] at member
      rcases member with (here | same) | behind
      · exact .inr ⟨piece, List.mem_cons_self, here⟩
      · exact .inl same
      · rcases ih behind with same | ⟨other, inRest, inside⟩
        · exact .inl same
        · exact .inr ⟨other, List.mem_cons_of_mem _ inRest, inside⟩
 
namespace Name

/-! What codes are made of. -/

namespace Punycode

def IsDigit (c : Char) : Prop := (digit? c).isSome = true

theorem isDigit_digitChar : ∀ d : Nat, d < 36 → IsDigit (digitChar d) := by
  unfold IsDigit
  decide

theorem IsDigit.ascii {c : Char} (digit : IsDigit c) : c.toNat < 128 := by
  unfold IsDigit digit? at digit
  have below : ∀ d : Char, d.toNat < 128 → c ≤ d → c.toNat < 128 := fun d bound le =>
    Nat.lt_of_le_of_lt (UInt32.le_iff_toNat_le.mp le) bound
  split at digit
  · rename_i range
    exact below 'z' (by decide) range.2
  · split at digit
    · rename_i range
      exact below 'Z' (by decide) range.2
    · split at digit
      · rename_i range
        exact below '9' (by decide) range.2
      · contradiction

theorem IsDigit.not_forbidden {c : Char} (digit : IsDigit c) : isForbidden c = false := by
  refine forall_ascii (P := fun c => IsDigit c → isForbidden c = false) ?_ c digit.ascii digit
  unfold IsDigit
  decide

theorem digits_isDigit (bias position n : Nat) : ∀ c ∈ digits bias position n, IsDigit c := by
  fun_induction digits bias position n with
  | case1 position n t small =>
    intro c member
    rw [List.mem_singleton.mp member]
    exact isDigit_digitChar n (by simp only [t, threshold] at small; omega)
  | case2 position n t large ih =>
    intro c member
    rcases List.mem_cons.mp member with rfl | behind
    · have low : 1 ≤ t := one_le_threshold position bias
      have high : t ≤ 26 := by simp only [t, threshold]; omega
      have digit := Nat.mod_lt (n - t) (show 0 < 36 - t by omega)
      exact isDigit_digitChar _ (by omega)
    · exact ih c behind

theorem Encoder.pass_code (basics point : Nat) (e : Encoder) (c : Char) :
    ∀ d ∈ (e.pass basics point c).code, d ∈ e.code ∨ IsDigit d := by
  intro d member
  unfold Encoder.pass at member
  split at member
  · exact .inl member
  · split at member
    · exact (List.mem_append.mp member).imp_right (digits_isDigit _ _ _ d)
    · exact .inl member

theorem Encoder.passes_code (basics point : Nat) (cs : List Char) (e : Encoder) :
    ∀ d ∈ (cs.foldl (Encoder.pass basics point) e).code, d ∈ e.code ∨ IsDigit d := by
  induction cs generalizing e with
  | nil => exact fun d member => .inl member
  | cons c cs ih =>
    intro d member
    rcases ih _ d member with inStep | digit
    · exact Encoder.pass_code basics point e c d inStep
    · exact .inr digit

/-- Every step of the encoder writes digits behind what it has. -/
theorem Encoder.run_code (text : List Char) (basics next : Nat) (e : Encoder)
    (points : List Nat) : ∀ d ∈ Encoder.run text basics next e points, d ∈ e.code ∨ IsDigit d := by
  induction points generalizing next e with
  | nil => exact fun d member => .inl member
  | cons point points ih =>
    intro d member
    rcases ih _ _ d member with inStep | digit
    · exact Encoder.passes_code basics point text
        { e with delta := e.delta + (point - next) * (e.count + 1) } d inStep
    · exact .inr digit

theorem encode_written (text : List Char) :
    ∀ c ∈ encode text, c ∈ text ∨ c = '-' ∨ IsDigit c := by
  intro c member
  rcases List.mem_append.mp member with inBasic | inCode
  · split at inBasic
    · cases inBasic
    · rcases List.mem_append.mp inBasic with kept | hyphen
      · exact .inl (List.mem_filter.mp kept).1
      · exact .inr (.inl (List.mem_singleton.mp hyphen))
  · rcases Encoder.run_code _ _ _ _ _ c inCode with none | digit
    · cases none
    · exact .inr (.inr digit)

theorem Decoder.put?_text {d d' : Decoder} (put : d.put? = some d') :
    ∀ c ∈ d.text, c ∈ d'.text := by
  obtain ⟨c, _, put⟩ := Option.bind_eq_some_iff.mp put
  cases put
  intro x member
  rw [← List.take_append_drop (d.place % (d.text.length + 1)) d.text] at member
  rcases List.mem_append.mp member with before | after
  · exact List.mem_append_left _ before
  · exact List.mem_append_right _ (List.mem_cons_of_mem _ after)

/-- The decoder reads digits alone, and keeps the text that it has. -/
theorem Decoder.run?_text {d : Decoder} {cs text : List Char} (run : d.run? cs = some text) :
    (∀ c ∈ d.text, c ∈ text) ∧ ∀ c ∈ cs, IsDigit c := by
  induction cs generalizing d with
  | nil =>
    unfold Decoder.run? at run
    split at run
    · cases run
      exact ⟨fun c member => member, by simp⟩
    · contradiction
  | cons x rest ih =>
    obtain ⟨digit, read, run⟩ := Option.bind_eq_some_iff.mp run
    have isDigit : IsDigit x := by simp [IsDigit, read]
    dsimp only at run
    split at run
    · contradiction
    · split at run
      · obtain ⟨d', put, run⟩ := Option.bind_eq_some_iff.mp run
        obtain ⟨kept, digits⟩ := ih run
        refine ⟨fun c member => kept c (Decoder.put?_text put c member), ?_⟩
        exact List.forall_mem_cons.mpr ⟨isDigit, digits⟩
      · split at run
        · contradiction
        · obtain ⟨kept, digits⟩ := ih run
          exact ⟨kept, List.forall_mem_cons.mpr ⟨isDigit, digits⟩⟩

theorem decode?_written {code text : List Char} (read : decode? code = some text) :
    ∀ c ∈ code, c ∈ text ∨ c = '-' ∨ IsDigit c := by
  unfold decode? at read
  dsimp only at read
  by_cases hyphen : '-' ∈ code
  · obtain ⟨basic, digits, rfl, absent⟩ := exists_last hyphen
    rw [takeLast_at absent, take_front] at read
    cases basic with
    | nil => contradiction
    | cons b basic =>
      obtain ⟨c, others, same⟩ := List.exists_cons_of_ne_nil
        (show basic ++ ['-'] ≠ [] by simp)
      rw [List.cons_append, same] at read
      dsimp only at read
      rw [← same, ← List.cons_append, List.dropLast_concat] at read
      obtain ⟨kept, isDigit⟩ := Decoder.run?_text read
      intro x member
      rcases List.mem_append.mp member with inBasic | behind
      · exact .inl (kept x inBasic)
      · rcases List.mem_cons.mp behind with rfl | inDigits
        · exact .inr (.inl rfl)
        · exact .inr (.inr (isDigit x inDigits))
  · rw [takeLast_of_not_mem hyphen, Nat.sub_self, List.take_zero] at read
    exact fun c member => .inr (.inr ((Decoder.run?_text read).2 c member))

end Punycode

namespace Label

theorem isForbidden_hyphen : isForbidden '-' = false := by decide

theorem codeMark_plain : ∀ c ∈ codeMark, isForbidden c = false := forall_of_all (by decide)

theorem decode?_some {code text : List Char} (read : decode? code = some text) :
    Punycode.decode? code = some text ∧ isAscii text = false := by
  unfold decode? at read
  dsimp only at read
  split at read
  · contradiction
  · obtain ⟨decoded, found, read⟩ := Option.bind_eq_some_iff.mp read
    split at read
    · rename_i allowed
      cases read
      simp only [Bool.and_eq_true, Bool.not_eq_true'] at allowed
      exact ⟨found, allowed.1.1⟩
    · contradiction

/-- A label is read from its code, or has one made when it is beyond ASCII. -/
theorem read?_cases {cs : List Char} {l : Label} (read : read? cs = some l) :
    l.text.any isForbidden = false ∧
      (cs.take 4 = codeMark ∧ Punycode.decode? (cs.drop 4) = some l.text ∧ l.ascii = cs ∨
        l.text = cs ∧ l.ascii = if isAscii cs then cs else codeMark ++ Punycode.encode cs) := by
  unfold read? at read
  dsimp only at read
  split at read
  · rename_i marked
    obtain ⟨text, found, read⟩ := Option.bind_eq_some_iff.mp read
    obtain ⟨decoded, beyond⟩ := decode?_some found
    split at read
    · contradiction
    · rename_i allowed
      rw [if_neg (by simp [beyond])] at read
      split at read
      · cases read
        exact ⟨by simpa using allowed, .inl ⟨marked, decoded, rfl⟩⟩
      · contradiction
  · rename_i unmarked
    rw [Option.bind_eq_bind, Option.bind_some] at read
    split at read
    · contradiction
    · rename_i allowed
      split at read
      · rename_i ascii
        cases read
        exact ⟨by simpa using allowed, .inr ⟨rfl, (if_pos ascii).symm⟩⟩
      · rename_i beyond
        split at read
        · cases read
          exact ⟨by simpa using allowed, .inr ⟨rfl, (if_neg beyond).symm⟩⟩
        · contradiction

/-- A code of a label that has no such character has none either. -/
theorem plain_of_written {text : List Char} (plain : text.any isForbidden = false) {c : Char}
    (written : c ∈ text ∨ c = '-' ∨ Punycode.IsDigit c) : isForbidden c = false := by
  rcases written with inText | rfl | digit
  · simpa using List.any_eq_false.mp plain c inText
  · exact isForbidden_hyphen
  · exact digit.not_forbidden

theorem read?_plain {cs : List Char} {l : Label} (read : read? cs = some l) :
    ∀ c ∈ l.ascii, isForbidden c = false := by
  intro c member
  obtain ⟨plain, ⟨marked, decoded, same⟩ | ⟨same, made⟩⟩ := read?_cases read
  · rw [same, ← List.take_append_drop 4 cs, marked] at member
    rcases List.mem_append.mp member with inMark | inCode
    · exact codeMark_plain c inMark
    · exact plain_of_written plain (Punycode.decode?_written decoded c inCode)
  · rw [made] at member
    rw [same] at plain
    split at member
    · exact plain_of_written plain (.inl member)
    · rcases List.mem_append.mp member with inMark | inCode
      · exact codeMark_plain c inMark
      · exact plain_of_written plain (Punycode.encode_written cs c inCode)

end Label

theorem toAscii?_plain {name ascii : List Char} (read : toAscii? name = some ascii) :
    ∀ c ∈ ascii, isForbidden c = false := by
  obtain ⟨text, _, read⟩ := Option.bind_eq_some_iff.mp read
  obtain ⟨labels, found, read⟩ := Option.bind_eq_some_iff.mp read
  split at read
  · cases read
    intro c member
    rcases mem_intercalate member with rfl | ⟨piece, inPieces, inside⟩
    · decide
    · obtain ⟨l, inLabels, rfl⟩ := List.mem_map.mp inPieces
      obtain ⟨cs, _, read⟩ := mem_of_mapM found inLabels
      exact Label.read?_plain read c inside
  · contradiction

/-! Names of ASCII. -/

section Ascii

variable {cs : List Char} (ascii : ∀ c ∈ cs, c.toNat < 128)

include ascii

theorem isAscii_of_forall : isAscii cs = true := by
  simpa [isAscii] using ascii

theorem mapped?_ascii : mapped? cs = some (cs.map Char.toLower) := by
  have small : ∀ c : Char, c.toNat < 128 → c.isUpper = false → c.toLower = c :=
    forall_ascii (by decide)
  have text : (cs.map fun c => [c.toLower]).flatten = cs.map Char.toLower :=
    List.map_eq_flatMap.symm
  refine Option.map_eq_some_iff.mpr ⟨_, mapM_some_iff.mpr ?_, text⟩
  rw [List.map_map]
  refine List.map_congr_left fun c member => ?_
  have inAscii := ascii c member
  cases upper : c.isUpper with
  | true => simp [treatment, inAscii, upper]
  | false => simp [treatment, inAscii, upper, small c inAscii upper]

theorem ascii_toLower : ∀ c ∈ cs.map Char.toLower, c.toNat < 128 := by
  have lower : ∀ c : Char, c.toNat < 128 → c.toLower.toNat < 128 := forall_ascii (by decide)
  intro c member
  obtain ⟨d, inName, rfl⟩ := List.mem_map.mp member
  exact lower d (ascii d inName)

theorem map_toLower : (cs.map Char.toLower).map Char.toLower = cs.map Char.toLower := by
  have again : ∀ c : Char, c.toNat < 128 → c.toLower.toLower = c.toLower :=
    forall_ascii (by decide)
  rw [List.map_map]
  exact List.map_congr_left fun c member => again c (ascii c member)

theorem labels_ascii {labels : List Label}
    (read : (Form.splitAt '.' cs).mapM Label.read? = some labels) :
    labels.map (·.ascii) = Form.splitAt '.' cs := by
  have pieces : ∀ piece ∈ Form.splitAt '.' cs, isAscii piece = true := by
    intro piece cut
    refine isAscii_of_forall fun c member => ?_
    by_cases dot : c = '.'
    · rw [dot]
      decide
    · exact ascii c (mem_of_splitAt cut member dot)
  refine map_of_mapM (fun piece cut l read => ?_) read
  obtain ⟨_, ⟨_, _, same⟩ | ⟨_, made⟩⟩ := Label.read?_cases read
  · exact same
  · rw [made, if_pos (pieces piece cut)]

/-- A name of ASCII is its own form, but for capital letters. -/
theorem toAscii?_ascii {name : List Char} (read : toAscii? cs = some name) :
    name = cs.map Char.toLower ∧ toAscii? name = some name := by
  have lower := ascii_toLower ascii
  have mapped := mapped?_ascii ascii
  have same : composed (cs.map Char.toLower) = cs.map Char.toLower := by
    rw [composed, if_pos (isAscii_of_forall lower)]
  have again : toAscii? (cs.map Char.toLower) = toAscii? cs := by
    simp only [toAscii?, mapped, mapped?_ascii lower, map_toLower ascii]
  have written : name = cs.map Char.toLower := by
    rw [toAscii?, mapped, Option.bind_eq_bind, Option.bind_some, same] at read
    obtain ⟨labels, found, read⟩ := Option.bind_eq_some_iff.mp read
    split at read
    · cases read
      rw [labels_ascii lower found, intercalate_splitAt]
    · contradiction
  exact ⟨written, by rw [written, again, read, written]⟩

end Ascii

theorem direction_ascii {c : Char} (ascii : c.toNat < 128) : runsLeftward c = false :=
  forall_ascii (P := fun c => runsLeftward c = false) (by decide) c ascii

/-- A character of ASCII that a name keeps as it is, inside one label. -/
def IsLabelChar (c : Char) : Prop :=
  c.toNat < 128 ∧ isForbidden c = false ∧ c ≠ '.' ∧ c.toLower = c

theorem Label.read?_ascii {cs : List Char} (plain : ∀ c ∈ cs, IsLabelChar c)
    (noCode : cs.take 4 ≠ codeMark) : read? cs = some ⟨cs, cs⟩ := by
  have ascii : isAscii cs = true := isAscii_of_forall fun c member => (plain c member).1
  have allowed : cs.any isForbidden = false :=
    List.any_eq_false.mpr fun c member => by simp [(plain c member).2.1]
  unfold read?
  dsimp only
  rw [if_neg noCode, Option.bind_eq_bind, Option.bind_some, allowed, ascii]
  rfl

/-- Labels of small letters, digits and the like are a name in ASCII. -/
theorem toAscii?_labels {labels : List (List Char)} (some : labels ≠ [])
    (plain : ∀ l ∈ labels, ∀ c ∈ l, IsLabelChar c)
    (noCode : ∀ l ∈ labels, l.take 4 ≠ Label.codeMark) :
    toAscii? (['.'].intercalate labels) = .some (['.'].intercalate labels) := by
  have ascii : ∀ c ∈ ['.'].intercalate labels, c.toNat < 128 ∧ c.toLower = c := by
    intro c member
    rcases mem_intercalate member with rfl | ⟨l, inLabels, inside⟩
    · decide
    · exact ⟨(plain l inLabels c inside).1, (plain l inLabels c inside).2.2.2⟩
  have lower : (['.'].intercalate labels).map Char.toLower = ['.'].intercalate labels :=
    (List.map_congr_left fun c member => (ascii c member).2).trans (List.map_id _)
  have mapped := mapped?_ascii fun c member => (ascii c member).1
  rw [lower] at mapped
  have same : composed (['.'].intercalate labels) = ['.'].intercalate labels := by
    rw [composed, if_pos (isAscii_of_forall fun c member => (ascii c member).1)]
  have pieces : Form.splitAt '.' (['.'].intercalate labels) = labels :=
    splitAt_pieces some fun l member dot => (plain l member '.' dot).2.2.1 rfl
  have read : labels.mapM Label.read? = .some (labels.map fun l => ⟨l, l⟩) := by
    rw [mapM_some_iff, List.map_map]
    exact List.map_congr_left fun l member => Label.read?_ascii (plain l member) (noCode l member)
  have fit : directionsFit labels = true := by
    have noLeftward : (labels.any fun l => l.any runsLeftward) = false :=
      List.any_eq_false.mpr fun l inLabels => by
        simpa using fun c member => direction_ascii (plain l inLabels c member).1
    rw [directionsFit, noLeftward]
    simp
  simp [toAscii?, mapped, same, pieces, read, fit, Function.comp_def]

end Name
end AccessCatalog.Web
