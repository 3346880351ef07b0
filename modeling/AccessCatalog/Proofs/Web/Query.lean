import AccessCatalog.Proofs.Text.Codes
import AccessCatalog.Web.Url

/-! Queries. The pairs that are written into a query are the pairs that are read from it, in their
order and behind those it already had. -/
namespace AccessCatalog.Web

theorem forall_of_all {cs : List Char} {P : Char → Prop} [DecidablePred P]
    (checked : (cs.all fun c => decide (P c)) = true) : ∀ c ∈ cs, P c := by
  intro c member
  exact of_decide_eq_true (List.all_eq_true.mp checked c member)

theorem forall_ascii {P : Char → Prop} (small : ∀ n : Nat, n < 128 → P (Char.ofNat n)) :
    ∀ c : Char, c.toNat < 128 → P c := by
  intro c ascii
  have result := small c.toNat ascii
  rwa [Char.ofNat_toNat] at result

/-! Characters of ASCII as bytes. -/

def byteOf (c : Char) : UInt8 := UInt8.ofNat c.toNat

theorem byteOf_toNat {c : Char} (ascii : c.toNat < 128) : (byteOf c).toNat = c.toNat := by
  simp [byteOf, Nat.mod_eq_of_lt (show c.toNat < 256 by omega)]

theorem byteOf_inj {c d : Char} (hc : c.toNat < 128) (hd : d.toNat < 128)
    (same : byteOf c = byteOf d) : c = d := by
  have numbers : c.toNat = d.toNat := by
    rw [← byteOf_toNat hc, ← byteOf_toNat hd, same]
  rw [← Char.ofNat_toNat c, ← Char.ofNat_toNat d, numbers]

theorem utf8EncodeChar_ascii {c : Char} (ascii : c.toNat < 128) :
    String.utf8EncodeChar c = [byteOf c] := by
  have small : c.toNat ≤ 127 := Nat.le_of_lt_succ ascii
  simp [String.utf8EncodeChar, small, byteOf]

theorem utf8_ascii {cs : List Char} (ascii : ∀ c ∈ cs, c.toNat < 128) :
    Text.utf8 cs = cs.map byteOf := by
  induction cs with
  | nil => rfl
  | cons c cs ih =>
    rw [Text.utf8_cons, utf8EncodeChar_ascii (ascii c List.mem_cons_self),
      ih fun d member => ascii d (List.mem_cons_of_mem _ member)]
    rfl

/-! Percent encoding. -/

theorem hexCapital_facts : ∀ d : Nat, d < 16 → (hexCapital d).toNat < 128 ∧
    Form.isPlain (hexCapital d) = true ∧
      hexByteValue? (byteOf (hexCapital d)) = some d := by decide

theorem percentDecode_plain {b : UInt8} (plain : b ≠ 37) (rest : List UInt8) :
    percentDecode (b :: rest) = b :: percentDecode rest := by
  rw [percentDecode.eq_def]
  split
  · contradiction
  · rename_i same
    exact absurd (List.cons.inj same).1 plain
  · rename_i same
    cases same
    rfl

theorem percentDecode_percentByte (b : UInt8) (rest : List UInt8) :
    percentDecode (Text.utf8 (percentByte b) ++ rest) = b :: percentDecode rest := by
  have bound := b.toNat_lt
  obtain ⟨highAscii, _, high⟩ := hexCapital_facts (b.toNat / 16) (by omega)
  obtain ⟨lowAscii, _, low⟩ := hexCapital_facts (b.toNat % 16) (by omega)
  have percent : String.utf8EncodeChar '%' = [37] := rfl
  have whole : UInt8.ofNat (b.toNat / 16 * 16 + b.toNat % 16) = b :=
    Text.Base64.byte_eq (by omega)
  simp only [percentByte, Text.utf8_cons, percent, utf8EncodeChar_ascii highAscii,
    utf8EncodeChar_ascii lowAscii, List.cons_append, List.nil_append]
  rw [percentDecode]
  simp only [high, low, whole]
  rfl

/-- What is written for a character is itself, or percent signs and hexadecimal digits. -/
theorem percentChar_cases {keep : Char → Bool} {c d : Char} (member : d ∈ percentChar keep c) :
    (d = c ∧ c.toNat < 128 ∧ keep c = true) ∨ d = '%' ∨ Form.isPlain d = true := by
  unfold percentChar at member
  split at member
  · rename_i kept
    exact .inl ⟨List.mem_singleton.mp member, by simpa using kept⟩
  · obtain ⟨b, _, inByte⟩ := List.mem_flatMap.mp member
    have bound := b.toNat_lt
    simp only [percentByte, List.mem_cons, List.not_mem_nil, or_false] at inByte
    rcases inByte with rfl | rfl | rfl
    · exact .inr (.inl rfl)
    · exact .inr (.inr (hexCapital_facts _ (by omega)).2.1)
    · exact .inr (.inr (hexCapital_facts _ (by omega)).2.1)

theorem percentChar_written {keep : Char → Bool} {c d : Char} (member : d ∈ percentChar keep c) :
    d.toNat < 128 ∧ keep d = true ∨ d = '%' ∨ Form.isPlain d = true :=
  (percentChar_cases member).imp_left fun ⟨same, kept⟩ => same ▸ kept

namespace Form

/-! What encoded text consists of. -/

def IsEncoded (c : Char) : Prop := isPlain c = true ∨ c = '+' ∨ c = '%'

theorem isPlain_ascii {c : Char} (plain : isPlain c = true) : c.toNat < 128 := by
  have alphanumeric : c.isAlphanum = true → c.toNat < 128 := by
    intro h
    have ranges : (decide ('A'.val ≤ c.val ∧ c.val ≤ 'Z'.val) ||
        (decide ('a'.val ≤ c.val) && decide (c.val ≤ 'z'.val)) ||
        (decide ('0'.val ≤ c.val) && decide (c.val ≤ '9'.val))) = true := h
    simp only [Bool.or_eq_true, Bool.and_eq_true, decide_eq_true_eq] at ranges
    rcases ranges with (upper | lower) | digit
    · exact Nat.lt_of_le_of_lt (UInt32.le_iff_toNat_le.mp upper.2) (by decide)
    · exact Nat.lt_of_le_of_lt (UInt32.le_iff_toNat_le.mp lower.2) (by decide)
    · exact Nat.lt_of_le_of_lt (UInt32.le_iff_toNat_le.mp digit.2) (by decide)
  simp only [isPlain, Bool.or_eq_true, beq_iff_eq] at plain
  rcases plain with (((h | rfl) | rfl) | rfl) | rfl
  · exact alphanumeric h
  all_goals decide

theorem IsEncoded.ascii {c : Char} (h : IsEncoded c) : c.toNat < 128 := by
  rcases h with h | rfl | rfl
  · exact isPlain_ascii h
  all_goals decide

theorem encodeChar_encoded (c : Char) : ∀ d ∈ encodeChar c, IsEncoded d := by
  intro d member
  unfold encodeChar at member
  split at member
  · exact .inr (.inl (List.mem_singleton.mp member))
  · rcases percentChar_written member with ⟨_, kept⟩ | percent | plain
    · exact .inl kept
    · exact .inr (.inr percent)
    · exact .inl plain

theorem encodeText_encoded (s : String) : ∀ c ∈ encodeText s, IsEncoded c := by
  intro c member
  obtain ⟨d, _, inChar⟩ := List.mem_flatMap.mp member
  exact encodeChar_encoded d c inChar

theorem encodeText_ascii (s : String) : ∀ c ∈ encodeText s, c.toNat < 128 :=
  fun c member => (encodeText_encoded s c member).ascii

/-! Reading encoded text. -/

def unplus (b : UInt8) : UInt8 := if b = 43 then 32 else b

theorem percentDecode_percentBytes (bytes rest : List UInt8) :
    percentDecode ((Text.utf8 (bytes.flatMap percentByte)).map unplus ++ rest) =
      bytes ++ percentDecode rest := by
  have unchanged : ∀ b : UInt8, (Text.utf8 (percentByte b)).map unplus =
      Text.utf8 (percentByte b) := by
    intro b
    have bound := b.toNat_lt
    have digit : ∀ d : Nat, d < 16 →
        (String.utf8EncodeChar (hexCapital d)).map unplus =
          String.utf8EncodeChar (hexCapital d) := by
      decide
    have high := digit (b.toNat / 16) (by omega)
    have low := digit (b.toNat % 16) (by omega)
    have percent : (String.utf8EncodeChar '%').map unplus = String.utf8EncodeChar '%' := by decide
    simp only [percentByte, Text.utf8_cons, List.map_append, percent, high, low]
    rfl
  induction bytes with
  | nil => rfl
  | cons b bytes ih =>
    rw [List.flatMap_cons, Text.utf8_append, List.map_append, unchanged, List.append_assoc,
      percentDecode_percentByte, ih, List.cons_append]

theorem percentDecode_encodeChar (c : Char) (rest : List UInt8) :
    percentDecode ((Text.utf8 (encodeChar c)).map unplus ++ rest) =
      String.utf8EncodeChar c ++ percentDecode rest := by
  unfold encodeChar
  split
  · rename_i blank
    subst blank
    have plus : (Text.utf8 ['+']).map unplus = [32] := rfl
    rw [plus]
    exact percentDecode_plain (by decide) rest
  · unfold percentChar
    split
    · rename_i kept
      have plain : isPlain c = true := by simpa using (Bool.and_eq_true_iff.mp kept).2
      have ascii := isPlain_ascii plain
      have notPercent : byteOf c ≠ 37 := by
        intro same
        have percent : c = '%' := byteOf_inj (d := '%') ascii (by decide) same
        subst percent
        exact absurd plain (by decide)
      have notPlus : byteOf c ≠ 43 := by
        intro same
        have plus : c = '+' := byteOf_inj (d := '+') ascii (by decide) same
        subst plus
        exact absurd plain (by decide)
      rw [Text.utf8_cons, utf8EncodeChar_ascii ascii]
      simp only [Text.utf8, List.flatMap_nil, List.append_nil, List.map_cons, List.map_nil,
        unplus, notPlus, if_false, List.cons_append, List.nil_append]
      exact percentDecode_plain notPercent rest
    · exact percentDecode_percentBytes _ rest

theorem decodeText_encodeText (s : String) : decodeText (Text.utf8 (encodeText s)) = s := by
  have bytes : ∀ cs : List Char,
      percentDecode ((Text.utf8 (cs.flatMap encodeChar)).map unplus) = Text.utf8 cs := by
    intro cs
    induction cs with
    | nil => rfl
    | cons c cs ih =>
      rw [List.flatMap_cons, Text.utf8_append, List.map_append, percentDecode_encodeChar, ih,
        Text.utf8_cons]
  have whole : percentDecode ((Text.utf8 (encodeText s)).map fun b => if b = 43 then 32 else b) =
      Text.utf8 s.toList := bytes s.toList
  rw [decodeText, whole, Text.ofUtf8Lossy_utf8, String.ofList_toList]

/-! Cutting at a mark. -/

section Split

variable {α : Type} [BEq α] {mark : α}

theorem splitAt_ne_nil (mark : α) (xs : List α) : splitAt mark xs ≠ [] := by
  cases xs with
  | nil => simp [splitAt]
  | cons x xs =>
    unfold splitAt
    split
    · simp
    · split <;> simp

theorem splitAt_append [LawfulBEq α] (mark : α) (xs ys : List α) :
    splitAt mark (xs ++ mark :: ys) = splitAt mark xs ++ splitAt mark ys := by
  induction xs with
  | nil => simp [splitAt]
  | cons x xs ih =>
    by_cases hit : (x == mark) = true
    · simp [splitAt, hit, ih]
    · cases pieces : splitAt mark xs with
      | nil => exact absurd pieces (splitAt_ne_nil mark xs)
      | cons piece rest => simp [splitAt, hit, ih, pieces]

/-- The pieces with the mark in front of each are the list with a mark in front. -/
theorem flatMap_splitAt [LawfulBEq α] (mark : α) (xs : List α) :
    (splitAt mark xs).flatMap (mark :: ·) = mark :: xs := by
  induction xs with
  | nil => simp [splitAt]
  | cons x xs ih =>
    by_cases hit : (x == mark) = true
    · simp [splitAt, ih, eq_of_beq hit]
    · cases pieces : splitAt mark xs with
      | nil => exact absurd pieces (splitAt_ne_nil mark xs)
      | cons piece rest =>
        rw [pieces] at ih
        simpa [splitAt, hit, pieces] using ih

theorem splitAt_of_not_mem [LawfulBEq α] {xs : List α} (absent : mark ∉ xs) :
    splitAt mark xs = [xs] := by
  induction xs with
  | nil => rfl
  | cons x xs ih =>
    have other : ¬(x == mark) = true := fun same =>
      absent (List.mem_cons.mpr (.inl (eq_of_beq same).symm))
    have tail := ih fun member => absent (List.mem_cons_of_mem _ member)
    simp [splitAt, other, tail]

variable [LawfulBEq α] {front : List α}

theorem all_other (absent : mark ∉ front) : ∀ x ∈ front, (x != mark) = true := by
  intro x member
  simp only [bne_iff_ne, ne_eq]
  exact fun same => absent (same ▸ member)

theorem takeWhile_other (absent : mark ∉ front) (back : List α) :
    (front ++ mark :: back).takeWhile (· != mark) = front := by
  rw [List.takeWhile_append_of_pos (all_other absent)]
  simp

theorem dropWhile_other (absent : mark ∉ front) (back : List α) :
    (front ++ mark :: back).dropWhile (· != mark) = mark :: back := by
  rw [List.dropWhile_append_of_pos (all_other absent)]
  simp

end Split

theorem decodePair_cut {name value : List UInt8} (absent : (61 : UInt8) ∉ name) :
    decodePair (name ++ 61 :: value) = (decodeText name, decodeText value) := by
  simp [decodePair, takeWhile_other absent, dropWhile_other absent]

theorem not_mem_utf8 {c : Char} (ascii : c.toNat < 128) {cs : List Char}
    (allAscii : ∀ d ∈ cs, d.toNat < 128) (absent : c ∉ cs) : byteOf c ∉ Text.utf8 cs := by
  rw [utf8_ascii allAscii]
  intro member
  obtain ⟨d, inText, same⟩ := List.mem_map.mp member
  have equal := byteOf_inj (allAscii d inText) ascii same
  exact absent (equal ▸ inText)

theorem not_mem_encodeText {c : Char} (other : ¬IsEncoded c) (s : String) : c ∉ encodeText s :=
  fun member => other (encodeText_encoded s c member)

theorem ampersand_not_encoded : ¬IsEncoded '&' := by
  unfold IsEncoded
  decide

theorem equals_not_encoded : ¬IsEncoded '=' := by
  unfold IsEncoded
  decide

theorem decode_piece {name value : List Char}
    (nameAscii : ∀ c ∈ name, c.toNat < 128) (valueAscii : ∀ c ∈ value, c.toNat < 128)
    (plainName : '&' ∉ name ∧ '=' ∉ name) (plainValue : '&' ∉ value) :
    decode (name ++ '=' :: value) =
      [(decodeText (Text.utf8 name), decodeText (Text.utf8 value))] := by
  have bytes : Text.utf8 (name ++ '=' :: value) = Text.utf8 name ++ 61 :: Text.utf8 value := by
    rw [Text.utf8_append, Text.utf8_cons]
    rfl
  have inName := not_mem_utf8 (c := '&') (by decide) nameAscii plainName.1
  have inValue := not_mem_utf8 (c := '&') (by decide) valueAscii plainValue
  have equals := not_mem_utf8 (c := '=') (by decide) nameAscii plainName.2
  have whole : (38 : UInt8) ∉ Text.utf8 name ++ 61 :: Text.utf8 value := by
    intro member
    rcases List.mem_append.mp member with here | member
    · exact inName here
    · rcases List.mem_cons.mp member with equal | behind
      · exact absurd equal (by decide)
      · exact inValue behind
  rw [decode, bytes, splitAt_of_not_mem whole]
  simp [decodePair_cut equals]

theorem decode_encodePair (pair : String × String) : decode (encodePair pair) = [pair] := by
  rw [encodePair, decode_piece (encodeText_ascii _) (encodeText_ascii _)
    ⟨not_mem_encodeText ampersand_not_encoded _, not_mem_encodeText equals_not_encoded _⟩
    (not_mem_encodeText ampersand_not_encoded _), decodeText_encodeText, decodeText_encodeText]

theorem decode_append (front back : List Char) :
    decode (front ++ '&' :: back) = decode front ++ decode back := by
  have mark : Text.utf8 ('&' :: back) = 38 :: Text.utf8 back := by
    rw [Text.utf8_cons]
    rfl
  rw [decode, Text.utf8_append, mark, splitAt_append, List.filter_append, List.map_append]
  rfl

/-- Pairs that are added to a query are read behind those it has. -/
theorem decode_append_pairs (query : List Char) (pairs : List (String × String)) :
    decode (append query pairs) = decode query ++ pairs := by
  induction pairs generalizing query with
  | nil => exact (List.append_nil _).symm
  | cons pair pairs ih =>
    have step : append query (pair :: pairs) =
        append ((if query.isEmpty then [] else query ++ ['&']) ++ encodePair pair) pairs := rfl
    rw [step, ih]
    cases query with
    | nil =>
      have none : decode [] = [] := rfl
      simp [decode_encodePair, none]
    | cons c query =>
      have glued : (if (c :: query).isEmpty then [] else (c :: query) ++ ['&']) ++ encodePair pair =
          (c :: query) ++ '&' :: encodePair pair := by simp
      rw [glued, decode_append, decode_encodePair, List.append_assoc]
      rfl

end Form

namespace Url

variable (u : Url) (pairs : List (String × String))

theorem appendPairs_queryPairs : (u.appendPairs pairs).queryPairs = u.queryPairs ++ pairs := by
  cases pairs with
  | nil => exact (List.append_nil _).symm
  | cons pair pairs => exact Form.decode_append_pairs _ (pair :: pairs)

/-! Pairs change the query alone. -/

theorem appendPairs_isWeb : (u.appendPairs pairs).isWeb = u.isWeb := by
  cases pairs <;> rfl

theorem appendPairs_credentials : (u.appendPairs pairs).credentials = u.credentials := by
  cases pairs <;> rfl

theorem appendPairs_host : (u.appendPairs pairs).host = u.host := by
  cases pairs <;> rfl

theorem appendPairs_path : (u.appendPairs pairs).path = u.path := by
  cases pairs <;> rfl

theorem appendPairs_fragment : (u.appendPairs pairs).fragment = u.fragment := by
  cases pairs <;> rfl

end Url

end AccessCatalog.Web
