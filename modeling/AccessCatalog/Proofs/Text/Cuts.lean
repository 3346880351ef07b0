import AccessCatalog.Proofs.Text.Codes

/-! What is left of a coded text that was cut. Base64 is refused, or gives the first bytes and not
all of them. Bytes of UTF-8 that end within a character give the characters before it, and pieces
that are no character after them. -/
namespace AccessCatalog.Text

/-! Base64. -/

namespace Base64

theorem firstByte (a : UInt8) {low : Nat} (small : low < 16) :
    UInt8.ofNat (a.toNat / 4 * 4 + (a.toNat % 4 * 16 + low) / 16) = a := byte_eq (by omega)

theorem secondByte (b : UInt8) (high : Nat) {low : Nat} (small : low < 4) :
    UInt8.ofNat ((high % 4 * 16 + b.toNat / 16) % 16 * 16 + (b.toNat % 16 * 4 + low) / 4) = b := by
  have bound := b.toNat_lt
  exact byte_eq (by omega)

/-- A front of the sextets of some bytes gives a front of the bytes, if it gives any. -/
theorem bytes?_take {bytes front : List UInt8} {n : Nat}
    (read : bytes? ((sextets bytes).take n) = some front) :
    ∃ rest, bytes = front ++ rest ∧ (n < (sextets bytes).length → rest ≠ []) := by
  -- A front that ends within a group gives the bytes that its sextets complete.
  induction bytes using sextets.induct generalizing n front with
  | case1 =>
    cases (List.take_nil ▸ read : bytes? [] = some front)
    exact ⟨[], rfl, fun cut => by simp [sextets] at cut⟩
  | case2 a =>
    rcases n with _ | _ | n
    · cases read
      exact ⟨[a], rfl, fun _ => by simp⟩
    · cases read
    · have all : (sextets [a]).length ≤ n + 2 := by simp [sextets]
      rw [List.take_of_length_le all, bytes?_sextets] at read
      cases read
      exact ⟨[], rfl, fun cut => absurd all (Nat.not_le_of_lt cut)⟩
  | case3 a b =>
    have bound := b.toNat_lt
    rcases n with _ | _ | _ | n
    · cases read
      exact ⟨[a, b], rfl, fun _ => by simp⟩
    · cases read
    · simp only [sextets, List.take, bytes?, firstByte a (by omega : b.toNat / 16 < 16)] at read
      split at read
      · cases read
        exact ⟨[b], rfl, fun _ => by simp⟩
      · cases read
    · have all : (sextets [a, b]).length ≤ n + 3 := by simp [sextets]
      rw [List.take_of_length_le all, bytes?_sextets] at read
      cases read
      exact ⟨[], rfl, fun cut => absurd all (Nat.not_le_of_lt cut)⟩
  | case4 a b c rest ih =>
    have boundB := b.toNat_lt
    have boundC := c.toNat_lt
    have first := firstByte a (by omega : b.toNat / 16 < 16)
    have second := secondByte b a.toNat (by omega : c.toNat / 64 < 4)
    rcases n with _ | _ | _ | _ | n
    · cases read
      exact ⟨a :: b :: c :: rest, rfl, fun _ => by simp⟩
    · cases read
    · simp only [sextets, List.take, bytes?, first] at read
      split at read
      · cases read
        exact ⟨b :: c :: rest, rfl, fun _ => by simp⟩
      · cases read
    · simp only [sextets, List.take, bytes?, first, second] at read
      split at read
      · cases read
        exact ⟨c :: rest, rfl, fun _ => by simp⟩
      · cases read
    · have third : UInt8.ofNat ((b.toNat % 16 * 4 + c.toNat / 64) % 4 * 64 + c.toNat % 64) = c :=
        byte_eq (by omega)
      simp only [sextets, List.take, bytes?, first, second, third] at read
      obtain ⟨more, readMore, rfl⟩ := Option.map_eq_some_iff.mp read
      obtain ⟨behind, rfl, strict⟩ := ih readMore
      exact ⟨behind, rfl, fun cut => strict (by simpa [sextets] using cut)⟩

/-- What a front of a text of base64 is decoded to, if it is decoded, is a front of the bytes. -/
theorem decode?_cut {bytes front : List UInt8} {cut rest : String}
    (whole : encode bytes = cut ++ rest) (read : decode? cut = some front) :
    ∃ behind, bytes = front ++ behind ∧ (rest ≠ "" → behind ≠ []) := by
  have chars : (sextets bytes).map sextetChar = cut.toList ++ rest.toList := by
    rw [← String.toList_append, ← whole, encode, String.toList_ofList]
  have length := congrArg List.length chars
  rw [List.length_map, List.length_append] at length
  have taken : cut.toList = ((sextets bytes).take cut.toList.length).map sextetChar := by
    rw [List.map_take, chars, List.take_left']
    rfl
  have bound : ∀ n ∈ (sextets bytes).take cut.toList.length, n < 64 :=
    fun n member => sextets_bound bytes n (List.mem_of_mem_take member)
  rw [decode?, taken, mapM_sextet? bound] at read
  obtain ⟨behind, same, strict⟩ := bytes?_take read
  refine ⟨behind, same, fun more => strict ?_⟩
  have positive := List.length_pos_iff.mpr (mt String.toList_eq_nil_iff.mp more)
  omega

end Base64

/-! UTF-8. -/

open String (utf8EncodeChar)

theorem ofUtf8?_eq_some {bytes : List UInt8} {cs : List Char} :
    ofUtf8? bytes = some cs ↔ bytes = utf8 cs := by
  constructor
  · intro read
    obtain ⟨chars, decoded, rfl⟩ := Option.map_eq_some_iff.mp read
    obtain ⟨ds, encoded⟩ := ByteArray.isSome_utf8Decode?_iff.mp (Option.isSome_of_mem decoded)
    have same : bytes = utf8 ds := by
      have data := congrArg (fun b => b.data.toList) encoded
      simpa [List.data_toByteArray, List.utf8Encode, utf8] using data
    rw [encoded, List.utf8Decode?_utf8Encode] at decoded
    rw [same, ← Option.some.inj decoded]
  · rintro rfl
    exact ofUtf8?_utf8 cs

/-- No character is coded by the first bytes of another one. -/
theorem utf8EncodeChar_eq_of_front {c d : Char} (front : utf8EncodeChar c <+: utf8EncodeChar d) :
    c = d := by
  obtain ⟨rest, whole⟩ := front
  have first := ByteArray.utf8DecodeChar?_utf8EncodeChar_append (c := c) (b := rest.toByteArray)
  have second := ByteArray.utf8DecodeChar?_utf8EncodeChar_append (c := d) (b := [].toByteArray)
  rw [← List.toByteArray_append, whole] at first
  rw [← List.toByteArray_append, List.append_nil] at second
  exact Option.some.inj (first.symm.trans second)

theorem utf8EncodeChar_ne_nil (c : Char) : utf8EncodeChar c ≠ [] := by
  rw [← List.length_pos_iff, String.length_utf8EncodeChar]
  exact c.utf8Size_pos

theorem utf8_front {cs ds : List Char} (front : utf8 cs <+: utf8 ds) : cs <+: ds := by
  induction cs generalizing ds with
  | nil => exact List.nil_prefix
  | cons c cs ih =>
    rw [utf8_cons] at front
    have inDs : utf8EncodeChar c <+: utf8 ds := (List.prefix_append _ _).trans front
    cases ds with
    | nil => exact absurd (List.prefix_nil.mp inDs) (utf8EncodeChar_ne_nil c)
    | cons d ds =>
      rw [utf8_cons] at front inDs
      have same : c = d := by
        rcases List.prefix_or_prefix_of_prefix inDs (List.prefix_append _ _) with front | other
        · exact utf8EncodeChar_eq_of_front front
        · exact (utf8EncodeChar_eq_of_front other).symm
      subst same
      exact List.cons_prefix_cons.mpr ⟨rfl, ih ((List.prefix_append_right_inj _).mp front)⟩

/-- Some of the bytes of a character, from the first on, but not all. -/
structure Broken (bytes : List UInt8) : Prop where
  filled : bytes ≠ []
  begun : ∃ c, bytes <+: utf8EncodeChar c ∧ bytes ≠ utf8EncodeChar c

/-- Where the bytes of a text are cut, there are characters, and then perhaps a broken one. -/
theorem utf8_cut {ds : List Char} {front : List UInt8} (cut : front <+: utf8 ds) :
    ∃ cs broken, front = utf8 cs ++ broken ∧ cs <+: ds ∧ (broken = [] ∨ Broken broken) := by
  induction ds generalizing front with
  | nil => exact ⟨[], [], List.prefix_nil.mp cut, List.nil_prefix, .inl rfl⟩
  | cons d ds ih =>
    rw [utf8_cons] at cut
    rcases List.prefix_or_prefix_of_prefix cut (List.prefix_append _ _) with inside | ⟨more, rfl⟩
    · by_cases none : front = []
      · exact ⟨[], [], none, List.nil_prefix, .inl rfl⟩
      · by_cases all : front = utf8EncodeChar d
        · exact ⟨[d], [], by simp [all, utf8], ⟨ds, rfl⟩, .inl rfl⟩
        · exact ⟨[], front, rfl, List.nil_prefix, .inr ⟨none, d, inside, all⟩⟩
    · obtain ⟨cs, broken, rfl, before, rest⟩ := ih ((List.prefix_append_right_inj _).mp cut)
      refine ⟨d :: cs, broken, ?_, List.cons_prefix_cons.mpr ⟨rfl, before⟩, rest⟩
      rw [utf8_cons, List.append_assoc]

/-! The scan of broken text. -/

theorem takeChar?_eq_none {bytes : List UInt8} (charless : ∀ c, ¬utf8EncodeChar c <+: bytes) :
    takeChar? bytes = none := by
  refine List.findSome?_eq_none_iff.mpr fun n _ => ?_
  split
  · rename_i c read
    have coded := ofUtf8?_eq_some.mp read
    rw [utf8, List.flatMap_singleton] at coded
    exact absurd (coded ▸ List.take_prefix n bytes) (charless c)
  · rfl

theorem takeChar?_utf8EncodeChar (c : Char) (rest : List UInt8) :
    takeChar? (utf8EncodeChar c ++ rest) = some (c, rest) := by
  have length := String.length_utf8EncodeChar c
  -- Fewer bytes are no character, and as many as it has are this one.
  have fewer : ∀ n < c.utf8Size, ∀ d, ofUtf8? ((utf8EncodeChar c ++ rest).take n) ≠ some [d] := by
    intro n less d read
    have coded := ofUtf8?_eq_some.mp read
    rw [utf8, List.flatMap_singleton, List.take_append_of_le_length (by omega)] at coded
    have same : d = c := utf8EncodeChar_eq_of_front (coded ▸ List.take_prefix n _)
    subst same
    have shorter := congrArg List.length coded
    rw [List.length_take] at shorter
    omega
  have all : ofUtf8? ((utf8EncodeChar c ++ rest).take c.utf8Size) = some [c] := by
    rw [List.take_left' length, ofUtf8?_eq_some, utf8, List.flatMap_singleton]
  have tried : ∃ before after, [1, 2, 3, 4] = before ++ c.utf8Size :: after ∧
      ∀ n ∈ before, n < c.utf8Size := by
    have size : c.utf8Size = 1 ∨ c.utf8Size = 2 ∨ c.utf8Size = 3 ∨ c.utf8Size = 4 := by
      have positive := c.utf8Size_pos
      have small := c.utf8Size_le_four
      omega
    rcases size with one | two | three | four
    · exact ⟨[], [2, 3, 4], by rw [one]; rfl, by simp⟩
    · exact ⟨[1], [3, 4], by rw [two]; rfl, by simp [two]⟩
    · exact ⟨[1, 2], [4], by rw [three]; rfl, by simp [three]⟩
    · exact ⟨[1, 2, 3], [], by rw [four]; rfl, by simp [four]⟩
  obtain ⟨before, after, split, less⟩ := tried
  refine List.findSome?_eq_some_iff.mpr ⟨before, c.utf8Size, after, split, ?_, fun n member => ?_⟩
  · rw [all, List.drop_left' length]
  · split
    · rename_i d read
      exact absurd read (fewer n (less n member) d)
    · rfl

/-- No character begins anywhere in a broken one. -/
theorem Broken.charless {bytes : List UInt8} (broken : Broken bytes) (k : Nat) (c : Char) :
    ¬utf8EncodeChar c <+: bytes.drop k := by
  obtain ⟨d, begun, strict⟩ := broken.begun
  intro inside
  have positive := List.length_pos_iff.mpr (utf8EncodeChar_ne_nil c)
  have kept := inside.length_le
  rw [List.length_drop] at kept
  have first : (utf8EncodeChar c)[0].IsUTF8FirstByte :=
    UInt8.isUTF8FirstByte_getElem_utf8EncodeChar.mpr rfl
  have inCode : k < (utf8EncodeChar d).length := by
    have bound := begun.length_le
    omega
  have place : (utf8EncodeChar c)[0] = (utf8EncodeChar d)[k] := by
    rw [inside.getElem positive, List.getElem_drop, begun.getElem]
    rfl
  rw [place, UInt8.isUTF8FirstByte_getElem_utf8EncodeChar] at first
  subst first
  have same : c = d := utf8EncodeChar_eq_of_front (inside.trans begun)
  subst same
  exact strict (begun.eq_of_length_le inside.length_le)

theorem Broken.unread {bytes : List UInt8} (broken : Broken bytes) (cs : List Char) :
    ofUtf8? (utf8 cs ++ bytes) = none := by
  refine Option.eq_none_iff_forall_ne_some.mpr fun ds read => ?_
  have coded := ofUtf8?_eq_some.mp read
  obtain ⟨es, rfl⟩ := utf8_front ⟨bytes, coded⟩
  rw [utf8_append, List.append_cancel_left_eq] at coded
  cases es with
  | nil => exact broken.filled coded
  | cons e es => exact broken.charless 0 e ⟨utf8 es, by rw [List.drop_zero, coded, utf8_cons]⟩

theorem scanUtf8_broken {bytes : List UInt8} (broken : Broken bytes) (fuel k : Nat) :
    ∀ found ∈ scanUtf8 fuel (bytes.drop k), found = none := by
  induction fuel generalizing k with
  | zero => simp [scanUtf8]
  | succ fuel ih =>
    have charless := takeChar?_eq_none (broken.charless k)
    cases left : bytes.drop k with
    | nil => simp [scanUtf8]
    | cons b rest =>
      rw [left] at charless
      rw [scanUtf8, charless, ← left, List.drop_drop]
      simpa using ih _

theorem scanUtf8_utf8 (cs : List Char) (rest : List UInt8) (fuel : Nat) :
    scanUtf8 (fuel + cs.length) (utf8 cs ++ rest) = cs.map some ++ scanUtf8 fuel rest := by
  induction cs with
  | nil => rfl
  | cons c cs ih =>
    have taken := takeChar?_utf8EncodeChar c (utf8 cs ++ rest)
    rw [utf8_cons, List.append_assoc]
    obtain ⟨b, bs, coded⟩ := List.exists_cons_of_ne_nil (utf8EncodeChar_ne_nil c)
    rw [coded, List.cons_append] at taken ⊢
    rw [List.length_cons, ← Nat.add_assoc, scanUtf8, taken]
    simp [ih]

theorem length_le_utf8 (cs : List Char) : cs.length ≤ (utf8 cs).length := by
  induction cs with
  | nil => exact Nat.le_refl 0
  | cons c cs ih =>
    have positive := List.length_pos_iff.mpr (utf8EncodeChar_ne_nil c)
    rw [utf8_cons, List.length_append, List.length_cons]
    omega

/-- The scan of a text that ends within a character ends with a piece that is none. -/
theorem scannedChars_broken (cs : List Char) {broken : List UInt8} (isBroken : Broken broken) :
    ∃ found, scannedChars (utf8 cs ++ broken) = found ++ [none] := by
  have charless := takeChar?_eq_none (isBroken.charless 0)
  have pieces := fun fuel => scanUtf8_broken isBroken fuel 0
  obtain ⟨b, bs, rfl⟩ := List.exists_cons_of_ne_nil isBroken.filled
  rw [List.drop_zero] at charless pieces
  obtain ⟨fuel, enough⟩ : ∃ fuel, (utf8 cs ++ b :: bs).length = fuel + 1 + cs.length := by
    have chars := length_le_utf8 cs
    refine ⟨(utf8 cs).length - cs.length + bs.length, ?_⟩
    rw [List.length_append, List.length_cons]
    omega
  have filled : scanUtf8 (fuel + 1) (b :: bs) ≠ [] := by
    rw [scanUtf8, charless]
    exact List.cons_ne_nil _ _
  have last := pieces (fuel + 1) _ (List.getLast_mem filled)
  refine ⟨cs.map some ++ (scanUtf8 (fuel + 1) (b :: bs)).dropLast, ?_⟩
  rw [scannedChars, enough, scanUtf8_utf8, List.append_assoc, ← last,
    List.dropLast_concat_getLast]

end AccessCatalog.Text
