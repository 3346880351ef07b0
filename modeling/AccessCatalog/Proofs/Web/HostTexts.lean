import AccessCatalog.Proofs.Web.Names
import Mathlib.Algebra.Group.Nat.Defs

/-! The texts of hosts. An internet address is read again from its text, of either version, and so
is a name that is its own form in ASCII. -/
namespace AccessCatalog.Web.Host

/-! Digits. -/

theorem foldl_digits_lt {base : Nat} {digits : List Nat} (small : ∀ d ∈ digits, d < base)
    (n : Nat) :
    digits.foldl (fun n d => n * base + d) n < (n + 1) * base ^ digits.length := by
  induction digits generalizing n with
  | nil => simp
  | cons d rest ih =>
    have bound := small d List.mem_cons_self
    have tail := ih (fun e member => small e (List.mem_cons_of_mem _ member)) (n * base + d)
    calc (d :: rest).foldl (fun n d => n * base + d) n
        < (n * base + d + 1) * base ^ rest.length := tail
      _ ≤ ((n + 1) * base) * base ^ rest.length :=
        Nat.mul_le_mul_right _ (by rw [Nat.succ_mul]; omega)
      _ = (n + 1) * base ^ (d :: rest).length := by
        rw [List.length_cons, Nat.pow_succ, Nat.mul_assoc, Nat.mul_comm base]

theorem digitIn?_lt {base d : Nat} {c : Char} (read : digitIn? base c = some d) : d < base := by
  unfold digitIn? at read
  simpa using (Option.filter_eq_some_iff.mp read).2

theorem number?_lt {base n : Nat} {cs : List Char} (read : number? base cs = some n) :
    n < base ^ cs.length := by
  obtain ⟨ds, digits, rfl⟩ := Option.map_eq_some_iff.mp read
  have small : ∀ d ∈ ds, d < base := by
    intro d member
    obtain ⟨c, _, digit⟩ := mem_of_mapM digits member
    exact digitIn?_lt digit
  have length : cs.length = ds.length := by
    simpa using congrArg List.length (mapM_some_iff.mp digits)
  have below := foldl_digits_lt small 0
  rwa [Nat.zero_add, Nat.one_mul, ← length] at below

section Digits

variable {base : Nat} (two : 1 < base) (hex : base ≤ 16)

theorem digitIn?_digitChar {d : Nat} (below : d < base) (hex : base ≤ 16) :
    digitIn? base (Nat.digitChar d) = some d := by
  have value : ∀ d : Nat, d < 16 → digitIn? 16 (Nat.digitChar d) = some d := by decide
  have read := value d (by omega)
  unfold digitIn? at read ⊢
  obtain ⟨same, _⟩ := Option.filter_eq_some_iff.mp read
  rw [same]
  simpa using below

theorem number?_concat {cs : List Char} {c : Char} {n d : Nat} (front : number? base cs = some n)
    (last : digitIn? base c = some d) : number? base (cs ++ [c]) = some (n * base + d) := by
  obtain ⟨ds, read, rfl⟩ := Option.map_eq_some_iff.mp front
  have whole : (cs ++ [c]).mapM (digitIn? base) = some (ds ++ [d]) := by
    rw [mapM_some_iff, List.map_append, List.map_append, mapM_some_iff.mp read]
    simp [last]
  rw [number?, whole, Option.map_some, List.foldl_append]
  rfl

include two

theorem number?_toDigits (hex : base ≤ 16) (n : Nat) :
    number? base (Nat.toDigits base n) = some n := by
  induction n using Nat.strongRecOn with
  | ind n ih =>
    by_cases small : n < base
    · rw [Nat.toDigits_of_lt_base small, number?]
      simp [digitIn?_digitChar small hex]
    · rw [Nat.toDigits_of_base_le two (by omega)]
      have less : n / base < n := Nat.div_lt_self (by omega) two
      have last := digitIn?_digitChar (Nat.mod_lt n (show 0 < base by omega)) hex
      rw [number?_concat (ih _ less) last, Nat.div_add_mod']

theorem mem_toDigits {n : Nat} : ∀ c ∈ Nat.toDigits base n, ∃ d < base, c = Nat.digitChar d := by
  induction n using Nat.strongRecOn with
  | ind n ih =>
    intro c member
    by_cases small : n < base
    · rw [Nat.toDigits_of_lt_base small, List.mem_singleton] at member
      exact ⟨n, small, member⟩
    · rw [Nat.toDigits_of_base_le two (by omega), List.mem_append, List.mem_singleton] at member
      rcases member with front | last
      · exact ih _ (Nat.div_lt_self (by omega) two) c front
      · exact ⟨_, Nat.mod_lt n (by omega), last⟩

end Digits

theorem toDigits_plain {base n : Nat} (two : 1 < base) (hex : base ≤ 16) :
    ∀ c ∈ Nat.toDigits base n, Name.IsLabelChar c ∧ c ≠ 'x' := by
  have each : ∀ d : Nat, d < 16 →
      Name.IsLabelChar (Nat.digitChar d) ∧ Nat.digitChar d ≠ 'x' := by
    unfold Name.IsLabelChar
    decide
  intro c member
  obtain ⟨d, below, rfl⟩ := mem_toDigits two c member
  exact each d (by omega)

/-! Names. -/

theorem percentDecode_of_not_mem {bytes : List UInt8} (absent : (37 : UInt8) ∉ bytes) :
    percentDecode bytes = bytes := by
  induction bytes with
  | nil => rfl
  | cons b rest ih =>
    rw [percentDecode_plain (fun same => absent (same ▸ List.mem_cons_self)),
      ih fun member => absent (List.mem_cons_of_mem _ member)]

/-- The bytes of a character beyond ASCII are beyond ASCII. -/
theorem ascii_of_mem_utf8 {c : Char} {b : UInt8} (small : b.toNat < 128)
    (member : b ∈ String.utf8EncodeChar c) : c.toNat < 128 := by
  unfold String.utf8EncodeChar at member
  dsimp only at member
  have number : c.toNat = c.val.toNat := rfl
  split at member
  · omega
  · exfalso
    repeat' split at member
    all_goals
      simp only [List.mem_cons, List.not_mem_nil, or_false] at member
      rcases member with rfl | rfl | rfl | rfl <;> simp at small <;> omega

theorem percentDecode_utf8 {cs : List Char} (absent : '%' ∉ cs) :
    percentDecode (Text.utf8 cs) = Text.utf8 cs := by
  refine percentDecode_of_not_mem fun member => ?_
  obtain ⟨c, inText, inChar⟩ := List.mem_flatMap.mp member
  have ascii := ascii_of_mem_utf8 (by decide) inChar
  rw [utf8EncodeChar_ascii ascii, List.mem_singleton] at inChar
  have percent : c = '%' := byteOf_inj (d := '%') ascii (by decide) inChar.symm
  exact absent (percent ▸ inText)

/-- A host outside brackets and without percent signs is what its form in ASCII is. -/
theorem parse_text {cs ascii : List Char} (noPercent : '%' ∉ cs) (noBracket : '[' ∉ cs)
    (read : Name.toAscii? cs = some ascii) (filled : ascii ≠ []) :
    parse cs = if endsInNumber ascii then
        match address4? ascii with
        | some n => .ok (.address4 n)
        | none => .error .invalidAddress4
      else .ok (.name ascii) := by
  have outside : ¬cs.head? = some '[' := fun head => noBracket (List.mem_of_head? head)
  obtain ⟨c, rest, rfl⟩ := List.exists_cons_of_ne_nil filled
  have decoded : (Text.ofUtf8? (percentDecode (Text.utf8 cs))).bind Name.toAscii? =
      some (c :: rest) := by
    rw [percentDecode_utf8 noPercent, Text.ofUtf8?_utf8, Option.bind_some, read]
  unfold parse
  rw [if_neg outside]
  split
  · rename_i failed
    rw [decoded] at failed
    cases failed
  · rename_i empty
    rw [decoded] at empty
    cases empty
  · rename_i found
    rw [decoded] at found
    cases found
    rfl

/-- What a host is read from. -/
theorem parse_cases {cs : List Char} {h : Host} (read : parse cs = .ok h) :
    (∃ name ascii, Text.ofUtf8? (percentDecode (Text.utf8 cs)) = some name ∧
      Name.toAscii? name = some ascii ∧ ascii ≠ [] ∧ endsInNumber ascii = false ∧
        h = .name ascii) ∨
    (∃ name n, address4? name = some n ∧ h = .address4 n) ∨
    (∃ inner pieces, address6? inner = some pieces ∧ h = .address6 pieces) := by
  unfold parse at read
  split at read
  · unfold bracketed? at read
    split at read
    · split at read
      · rename_i pieces found
        cases read
        exact .inr (.inr ⟨_, pieces, found, rfl⟩)
      · contradiction
    · contradiction
  · split at read
    · contradiction
    · contradiction
    · rename_i ascii filled form
      obtain ⟨name, decoded, form⟩ := Option.bind_eq_some_iff.mp form
      split at read
      · split at read
        · rename_i n found
          cases read
          exact .inr (.inl ⟨ascii, n, found, rfl⟩)
        · contradiction
      · rename_i noNumber
        cases read
        exact .inl ⟨name, ascii, decoded, form, filled, by
          simpa using noNumber, rfl⟩

theorem parse_name {name : List Char} (same : Name.toAscii? name = some name) (filled : name ≠ [])
    (noNumber : endsInNumber name = false) : parse name = .ok (.name name) := by
  have plain := Name.toAscii?_plain same
  have absent : ∀ c : Char, Name.isForbidden c = true → c ∉ name := fun c forbidden member => by
    rw [plain c member] at forbidden
    contradiction
  rw [parse_text (absent '%' (by decide)) (absent '[' (by decide)) same filled,
    if_neg (by simp [noNumber])]

/-- A host that is written in ASCII, without percent signs, is its own form. -/
theorem parse_ascii {cs name : List Char} (ascii : ∀ c ∈ cs, c.toNat < 128) (noPercent : '%' ∉ cs)
    (read : parse cs = .ok (.name name)) : Name.toAscii? name = some name := by
  rcases parse_cases read with ⟨text, form, decoded, found, _, _, same⟩ | ⟨_, _, _, same⟩ |
    ⟨_, _, _, same⟩
  · rw [percentDecode_utf8 noPercent, Text.ofUtf8?_utf8] at decoded
    cases decoded
    cases same
    exact (Name.toAscii?_ascii ascii found).2
  · cases same
  · cases same

/-! Addresses of version 4. -/

def bytesOf (n : Nat) : List Nat := [3, 2, 1, 0].map fun i => n / Nat.pow 256 i % 256

def partsOf (n : Nat) : List (List Char) := (bytesOf n).map (Nat.toDigits 10)

theorem text_address4 (n : Nat) : (address4 n).text = ['.'].intercalate (partsOf n) := by
  simp [text, partsOf, bytesOf]

theorem address4?_lt {name : List Char} {n : Nat} (read : address4? name = some n) :
    n < 256 ^ 4 := by
  obtain ⟨parts, _, read⟩ := Option.bind_eq_some_iff.mp read
  obtain ⟨last, _, read⟩ := Option.bind_eq_some_iff.mp read
  dsimp only at read
  split at read
  · rename_i fits
    obtain ⟨short, bytes, small⟩ := fits
    cases read
    have front := foldl_digits_lt (fun b member => by
      simpa using List.all_eq_true.mp bytes b member) 0
    generalize parts.dropLast.foldl (fun n b => n * 256 + b) 0 = value at front
    generalize parts.dropLast.length = length at short small front
    rw [Nat.zero_add, Nat.one_mul] at front
    have whole : 256 ^ 4 = 256 ^ length * 256 ^ (4 - length) := by
      rw [← Nat.pow_add, Nat.add_sub_cancel' (by omega)]
    have small : last < 256 ^ (4 - length) := small
    calc value * 256 ^ (4 - length) + last
        < value * 256 ^ (4 - length) + 256 ^ (4 - length) := Nat.add_lt_add_left small _
      _ = (value + 1) * 256 ^ (4 - length) := (Nat.succ_mul _ _).symm
      _ ≤ 256 ^ length * 256 ^ (4 - length) := Nat.mul_le_mul_right _ front
      _ = 256 ^ 4 := whole.symm
  · contradiction

theorem addressPart?_toDigits : ∀ b : Nat, b < 256 →
    addressPart? (Nat.toDigits 10 b) = some b := by
  decide +kernel

theorem bytesOf_lt (n : Nat) : ∀ b ∈ bytesOf n, b < 256 := by
  intro b member
  obtain ⟨i, _, rfl⟩ := List.mem_map.mp member
  exact Nat.mod_lt _ (by decide)

theorem labels_parts (n : Nat) : labels (['.'].intercalate (partsOf n)) = partsOf n := by
  have pieces : Form.splitAt '.' (['.'].intercalate (partsOf n)) = partsOf n := by
    refine splitAt_pieces (by simp [partsOf, bytesOf]) fun part member dot => ?_
    obtain ⟨b, _, rfl⟩ := List.mem_map.mp member
    exact (toDigits_plain (by decide) (by decide) '.' dot).1.2.2.1 rfl
  have filled : (partsOf n).getLast? ≠ some [] := by
    simp [partsOf, bytesOf]
  rw [labels, pieces]
  simp [filled]

theorem text_address4_ne_nil (n : Nat) : (address4 n).text ≠ [] := by
  simp [text_address4, partsOf, bytesOf, List.intercalate_cons_cons]

/-- The text of an address of version 4 is read as that address. -/
theorem parse_address4 {n : Nat} (small : n < 256 ^ 4) :
    parse (address4 n).text = .ok (.address4 n) := by
  have plain : ∀ part ∈ partsOf n, ∀ c ∈ part, Name.IsLabelChar c ∧ c ≠ 'x' := by
    intro part member c inside
    obtain ⟨b, _, rfl⟩ := List.mem_map.mp member
    exact toDigits_plain (by decide) (by decide) c inside
  have noCode : ∀ part ∈ partsOf n, part.take 4 ≠ Name.Label.codeMark := by
    intro part member code
    have mark : 'x' ∈ part.take 4 := by
      rw [code]
      decide
    exact (plain part member 'x' (List.mem_of_mem_take mark)).2 rfl
  have form := Name.toAscii?_labels (by simp [partsOf, bytesOf])
    (fun part member c inside => (plain part member c inside).1) noCode
  have absent : ∀ c : Char, Name.isForbidden c = true → c ∉ ['.'].intercalate (partsOf n) := by
    intro c forbidden member
    rw [Name.toAscii?_plain form c member] at forbidden
    contradiction
  have filled : ['.'].intercalate (partsOf n) ≠ [] := text_address4 n ▸ text_address4_ne_nil n
  have number : endsInNumber (['.'].intercalate (partsOf n)) = true := by
    have digits : (Nat.toDigits 10 (n % 256)).all Char.isDigit = true :=
      List.all_eq_true.mpr fun c member => Nat.isDigit_of_mem_toDigits (by decide) (by decide) member
    rw [endsInNumber, labels_parts]
    simp [partsOf, bytesOf, digits]
  have read : address4? (['.'].intercalate (partsOf n)) = some n := by
    have bytes : (partsOf n).mapM addressPart? = some (bytesOf n) := by
      rw [mapM_some_iff, partsOf, List.map_map]
      exact List.map_congr_left fun b member => addressPart?_toDigits b (bytesOf_lt n b member)
    have whole : ((n / 16777216 % 256 * 256 + n / 65536 % 256) * 256 + n / 256 % 256) * 256 +
        n % 256 = n := by omega
    rw [address4?, labels_parts, bytes]
    simp [bytesOf, Nat.mod_lt, whole]
  rw [text_address4, parse_text (absent '%' (by decide)) (absent '[' (by decide)) form filled,
    if_pos number, read]

/-! Addresses of version 6. -/

theorem hexPiece?_lt {cs : List Char} {ps : List Nat} (read : hexPiece? cs = some ps) :
    ∀ p ∈ ps, p < 65536 := by
  unfold hexPiece? at read
  split at read
  · rename_i length
    obtain ⟨n, found, rfl⟩ := Option.map_eq_some_iff.mp read
    intro p member
    rw [List.mem_singleton.mp member]
    calc n < 16 ^ cs.length := number?_lt found
      _ ≤ 16 ^ 4 := Nat.pow_le_pow_right (by decide) length.2
  · contradiction

theorem dottedPieces?_lt {cs : List Char} {ps : List Nat} (read : dottedPieces? cs = some ps) :
    ∀ p ∈ ps, p < 65536 := by
  obtain ⟨parts, found, read⟩ := Option.bind_eq_some_iff.mp read
  have byte : ∀ n ∈ parts, n < 256 := by
    intro n member
    obtain ⟨part, _, read⟩ := mem_of_mapM found member
    obtain ⟨m, _, read⟩ := Option.bind_eq_some_iff.mp read
    split at read
    · rename_i allowed
      cases read
      simp only [Bool.and_eq_true, decide_eq_true_eq] at allowed
      exact allowed.1.2
    · contradiction
  split at read
  · rename_i a b c d
    cases read
    simp only [List.mem_cons, List.not_mem_nil, or_false, forall_eq_or_imp, forall_eq] at byte ⊢
    omega
  · contradiction

theorem flatten_lt {f : List Char → Option (List Nat)} {parts : List (List Char)}
    {found : List (List Nat)} (small : ∀ cs ps, f cs = some ps → ∀ p ∈ ps, p < 65536)
    (read : parts.mapM f = some found) : ∀ p ∈ found.flatten, p < 65536 := by
  intro p member
  obtain ⟨ps, inFound, inside⟩ := List.mem_flatten.mp member
  obtain ⟨cs, _, one⟩ := mem_of_mapM read inFound
  exact small cs ps one p inside

theorem pieces?_lt {mayEndDotted : Bool} {cs : List Char} {ps : List Nat}
    (read : pieces? mayEndDotted cs = some ps) : ∀ p ∈ ps, p < 65536 := by
  unfold pieces? at read
  dsimp only at read
  split at read
  · cases read
    simp
  · split at read
    · obtain ⟨front, found, read⟩ := Option.bind_eq_some_iff.mp read
      obtain ⟨tail, dotted, read⟩ := Option.bind_eq_some_iff.mp read
      cases read
      intro p member
      rcases List.mem_append.mp member with inFront | inTail
      · exact flatten_lt (fun _ _ => hexPiece?_lt) found p inFront
      · exact dottedPieces?_lt dotted p inTail
    · obtain ⟨found, each, rfl⟩ := Option.map_eq_some_iff.mp read
      exact flatten_lt (fun _ _ => hexPiece?_lt) each

/-- Eight pieces of two bytes each. -/
def ArePieces (ps : List Nat) : Prop := ps.length = 8 ∧ ∀ p ∈ ps, p < 65536

theorem address6?_pieces {cs : List Char} {ps : List Nat} (read : address6? cs = some ps) :
    ArePieces ps := by
  unfold address6? at read
  split at read
  · obtain ⟨front, before, read⟩ := Option.bind_eq_some_iff.mp read
    obtain ⟨back, after, read⟩ := Option.bind_eq_some_iff.mp read
    dsimp only at read
    split at read
    · cases read
      refine ⟨by simp; omega, fun p member => ?_⟩
      simp only [List.mem_append, List.mem_replicate] at member
      rcases member with (inFront | zero) | inBack
      · exact pieces?_lt before p inFront
      · omega
      · exact pieces?_lt after p inBack
    · contradiction
  · dsimp only at read
    split at read
    · contradiction
    · obtain ⟨all, whole, read⟩ := Option.bind_eq_some_iff.mp read
      split at read
      · rename_i eight
        cases read
        exact ⟨eight, pieces?_lt whole⟩
      · contradiction

theorem colon_not_mem (p : Nat) : ':' ∉ Nat.toDigits 16 p := by
  intro member
  have plain := (toDigits_plain (by decide) (by decide) ':' member).1.2.1
  exact absurd plain (by decide)

theorem splitColons_digits {cs : List Char} (absent : ':' ∉ cs) (rest : List Char) :
    splitColons (cs ++ rest) = (splitColons rest).map fun (a, b) => (cs ++ a, b) := by
  induction cs with
  | nil => simp
  | cons c cs ih =>
    have other : c ≠ ':' := fun same => absent (same ▸ List.mem_cons_self)
    have tail := ih fun member => absent (List.mem_cons_of_mem _ member)
    rw [List.cons_append, splitColons.eq_def]
    split
    · rename_i same
      exact absurd (List.cons.inj same).1 other
    · rename_i same
      cases same
      rw [tail, Option.map_map]
      rfl
    · contradiction

theorem splitColons_single {c : Char} (other : c ≠ ':') (cs : List Char) :
    splitColons (':' :: c :: cs) = (splitColons (c :: cs)).map fun (a, b) => (':' :: a, b) := by
  rw [splitColons.eq_def]
  split
  · rename_i same
    exact absurd (List.cons.inj (List.cons.inj same).2).1 other
  · rename_i same
    cases same
    rfl
  · contradiction

theorem hexText_cons (p q : Nat) (ps : List Nat) :
    hexText (p :: q :: ps) = Nat.toDigits 16 p ++ ':' :: hexText (q :: ps) := by
  simp [hexText, List.intercalate_cons_cons]

theorem hexText_head (p : Nat) (ps : List Nat) :
    ∃ c cs, hexText (p :: ps) = c :: cs ∧ c ≠ ':' := by
  obtain ⟨c, cs, digits⟩ := List.exists_cons_of_ne_nil (Nat.toDigits_ne_nil (n := p) (b := 16))
  have other : c ≠ ':' := fun same => colon_not_mem p (same ▸ digits ▸ List.mem_cons_self)
  cases ps with
  | nil => exact ⟨c, cs, by simp [hexText, digits], other⟩
  | cons q ps => exact ⟨c, cs ++ ':' :: hexText (q :: ps), by simp [hexText_cons, digits], other⟩

/-- Behind pieces and the colons between them the first pair of colons is that of the rest. -/
theorem splitColons_hexText (ps : List Nat) (rest : List Char) :
    splitColons (hexText ps ++ rest) =
      (splitColons rest).map fun (a, b) => (hexText ps ++ a, b) := by
  induction ps with
  | nil => simp [hexText]
  | cons p ps ih =>
    cases ps with
    | nil => simpa [hexText] using splitColons_digits (colon_not_mem p) rest
    | cons q ps =>
      obtain ⟨c, cs, head, other⟩ := hexText_head q ps
      rw [head, List.cons_append] at ih
      rw [hexText_cons, head, List.append_assoc, splitColons_digits (colon_not_mem p),
        List.cons_append, List.cons_append, splitColons_single other, ih]
      simp [Option.map_map, Function.comp_def]

theorem pieces?_hexText (mayEndDotted : Bool) {ps : List Nat} (small : ∀ p ∈ ps, p < 65536) :
    pieces? mayEndDotted (hexText ps) = some ps := by
  cases ps with
  | nil => rfl
  | cons p ps =>
    obtain ⟨c, cs, head, _⟩ := hexText_head p ps
    have filled : (hexText (p :: ps)).isEmpty = false := by rw [head]; rfl
    have parts : Form.splitAt ':' (hexText (p :: ps)) = (p :: ps).map (Nat.toDigits 16) := by
      refine splitAt_pieces (by simp) fun piece member => ?_
      obtain ⟨q, _, rfl⟩ := List.mem_map.mp member
      exact colon_not_mem q
    have noDot : ((((p :: ps).map (Nat.toDigits 16)).getLast?.getD []).contains '.') = false := by
      rw [List.getLast?_map, List.getLast?_eq_some_getLast (List.cons_ne_nil p ps)]
      simpa using fun dot => (toDigits_plain (by decide) (by decide) '.' dot).1.2.2.1 rfl
    have each : ((p :: ps).map (Nat.toDigits 16)).mapM hexPiece? =
        some ((p :: ps).map fun q => [q]) := by
      rw [mapM_some_iff, List.map_map, List.map_map]
      refine List.map_congr_left fun q member => ?_
      have length := (Nat.length_toDigits_le_iff (b := 16) (k := 4) (by decide) (by decide)).mpr
        (small q member)
      have positive := Nat.length_toDigits_pos (b := 16) (n := q)
      simp only [Function.comp_apply, hexPiece?]
      rw [if_pos ⟨positive, length⟩, number?_toDigits (by decide) (by decide)]
      rfl
    have joined : ((p :: ps).map fun q => [q]).flatten = p :: ps :=
      (List.map_eq_flatMap (f := id)).symm.trans (List.map_id _)
    unfold pieces?
    rw [filled, parts]
    dsimp only
    rw [noDot, each, Bool.and_false, if_neg (by simp), if_neg (by simp), Option.map_some, joined]

/-! The run of zeros that a pair of colons leaves out. -/

theorem zeroRun_le (pieces : List Nat) :
    (zeroRun pieces).2 ≤ ((pieces.drop (zeroRun pieces).1).takeWhile (· = 0)).length := by
  refine List.foldlRecOn (motive := fun best : Nat × Nat =>
    best.2 ≤ ((pieces.drop best.1).takeWhile (· = 0)).length) _ _ (Nat.zero_le _) ?_
  intro best le i _
  dsimp only
  split
  · exact Nat.le_refl _
  · exact le

theorem drop_zeroRun {pieces : List Nat} {start count : Nat}
    (run : zeroRun pieces = (start, count)) :
    pieces.drop start = List.replicate count 0 ++ pieces.drop (start + count) := by
  have le := zeroRun_le pieces
  rw [run] at le
  dsimp only at le
  have zeros : (pieces.drop start).take count = List.replicate count 0 := by
    refine List.eq_replicate_iff.mpr ⟨?_, fun p member => ?_⟩
    · have short := (List.takeWhile_sublist (l := pieces.drop start) (· = 0)).length_le
      rw [List.length_take]
      omega
    · have front : (pieces.drop start).take count =
          ((pieces.drop start).takeWhile (· = 0)).take count := by
        rw [← List.take_append_of_le_length le, List.takeWhile_append_dropWhile]
      rw [front] at member
      simpa using List.all_eq_true.mp List.all_takeWhile p (List.mem_of_mem_take member)
  rw [← zeros, ← List.drop_drop, List.take_append_drop]

theorem parse_bracketed {inner : List Char} {ps : List Nat} (read : address6? inner = some ps) :
    parse ('[' :: (inner ++ [']'])) = .ok (.address6 ps) := by
  simp [parse, bracketed?, read]

/-- The text of an address of version 6 is read as that address. -/
theorem parse_address6 {ps : List Nat} (pieces : ArePieces ps) :
    parse (address6 ps).text = .ok (.address6 ps) := by
  obtain ⟨eight, small⟩ := pieces
  obtain ⟨⟨start, count⟩, run⟩ : ∃ found, zeroRun ps = found := ⟨_, rfl⟩
  have zeros := drop_zeroRun run
  rw [text, run]
  refine parse_bracketed ?_
  split
  · -- No pair of colons: all eight pieces are written.
    have noColons : splitColons (hexText ps) = none := by
      simpa [splitColons] using splitColons_hexText ps []
    have filled : (hexText ps).isEmpty = false := by
      obtain ⟨p, rest, rfl⟩ := List.exists_cons_of_length_pos (show 0 < ps.length by omega)
      obtain ⟨c, cs, head, _⟩ := hexText_head p rest
      rw [head]
      rfl
    rw [address6?, noColons]
    simp [filled, pieces?_hexText true small, eight]
  · rename_i long
    have cut : splitColons (hexText (ps.take start) ++ [':', ':'] ++
        hexText (ps.drop (start + count))) =
          some (hexText (ps.take start), hexText (ps.drop (start + count))) := by
      rw [List.append_assoc, splitColons_hexText]
      simp [splitColons]
    have before : pieces? false (hexText (ps.take start)) = some (ps.take start) :=
      pieces?_hexText false fun p member => small p (List.mem_of_mem_take member)
    have after : pieces? true (hexText (ps.drop (start + count))) =
        some (ps.drop (start + count)) :=
      pieces?_hexText true fun p member => small p (List.mem_of_mem_drop member)
    have lengths := congrArg List.length zeros
    simp only [List.length_append, List.length_replicate, List.length_drop, eight] at lengths
    have covered : (ps.take start).length + (ps.drop (start + count)).length = 8 - count := by
      rw [List.length_take, List.length_drop]
      omega
    have left : 8 - (8 - count) = count := by omega
    have whole : ps.take start ++ List.replicate count 0 ++ ps.drop (start + count) = ps := by
      rw [List.append_assoc, ← zeros, List.take_append_drop]
    rw [address6?, cut]
    simp only [before, after, Option.bind_eq_bind, Option.bind_some, covered, left, whole]
    exact if_pos (by omega)

/-- A host is read again from its text, unless it is a name in ASCII that does not stand for
itself. -/
theorem parse_again {cs : List Char} {h : Host} (read : parse cs = .ok h)
    (own : ∀ name, h = .name name → Name.toAscii? name = some name) : parse h.text = .ok h := by
  rcases parse_cases read with ⟨_, ascii, _, _, filled, noNumber, rfl⟩ | ⟨_, n, found, rfl⟩ |
    ⟨_, ps, found, rfl⟩
  · exact parse_name (own ascii rfl) filled noNumber
  · exact parse_address4 (address4?_lt found)
  · exact parse_address6 (address6?_pieces found)

theorem text_ne_nil {cs : List Char} {h : Host} (read : parse cs = .ok h) : h.text ≠ [] := by
  rcases parse_cases read with ⟨_, ascii, _, _, filled, _, rfl⟩ | ⟨_, n, _, rfl⟩ | ⟨_, ps, _, rfl⟩
  · exact filled
  · exact text_address4_ne_nil n
  · simp [text]

end AccessCatalog.Web.Host
