import AccessCatalog.Text.Base64
import AccessCatalog.Text.Utf8

/-! Reading inverts writing for the two codes that text passes through on its way into a token:
UTF-8 and base64. -/
namespace AccessCatalog.Text

theorem ofUtf8?_utf8 (cs : List Char) : ofUtf8? (utf8 cs) = some cs := by
  have encoded : (utf8 cs).toByteArray = cs.utf8Encode := rfl
  simp [ofUtf8?, encoded]

theorem ofUtf8Lossy_utf8 (cs : List Char) : ofUtf8Lossy (utf8 cs) = cs := by
  rw [ofUtf8Lossy, ofUtf8?_utf8]

theorem utf8_append (as bs : List Char) : utf8 (as ++ bs) = utf8 as ++ utf8 bs := by
  simp [utf8]

theorem utf8_cons (c : Char) (cs : List Char) :
    utf8 (c :: cs) = String.utf8EncodeChar c ++ utf8 cs := by
  simp [utf8]

namespace Base64

theorem sextet?_sextetChar : ∀ n : Nat, n < 64 → sextet? (sextetChar n) = some n := by
  decide +kernel

theorem sextets_bound (bytes : List UInt8) : ∀ n ∈ sextets bytes, n < 64 := by
  induction bytes using sextets.induct with
  | case1 => simp [sextets]
  | case2 a =>
    have ha := a.toNat_lt
    simp [sextets]
    omega
  | case3 a b =>
    have ha := a.toNat_lt
    have hb := b.toNat_lt
    simp [sextets]
    omega
  | case4 a b c rest ih =>
    have ha := a.toNat_lt
    have hb := b.toNat_lt
    have hc := c.toNat_lt
    simp only [sextets, List.mem_cons]
    rintro n (rfl | rfl | rfl | rfl | member)
    · omega
    · omega
    · omega
    · omega
    · exact ih n member

theorem mapM_sextet? {ns : List Nat} (bound : ∀ n ∈ ns, n < 64) :
    (ns.map sextetChar).mapM sextet? = some ns := by
  induction ns with
  | nil => rfl
  | cons n rest ih =>
    have head := sextet?_sextetChar n (bound n List.mem_cons_self)
    have tail := ih fun m member => bound m (List.mem_cons_of_mem _ member)
    simp [head, tail]

theorem byte_eq {n : Nat} {b : UInt8} (same : n = b.toNat) : UInt8.ofNat n = b := by
  rw [same, UInt8.ofNat_toNat]

theorem bytes?_sextets (bytes : List UInt8) : bytes? (sextets bytes) = some bytes := by
  induction bytes using sextets.induct with
  | case1 => rfl
  | case2 a =>
    have first : UInt8.ofNat (a.toNat / 4 * 4 + a.toNat % 4 * 16 / 16) = a := byte_eq (by omega)
    have clean : a.toNat % 4 * 16 % 16 = 0 := by omega
    simp only [sextets, bytes?, first, clean, if_true]
  | case3 a b =>
    have hb := b.toNat_lt
    have first : UInt8.ofNat (a.toNat / 4 * 4 + (a.toNat % 4 * 16 + b.toNat / 16) / 16) = a :=
      byte_eq (by omega)
    have second : UInt8.ofNat ((a.toNat % 4 * 16 + b.toNat / 16) % 16 * 16 + b.toNat % 16 * 4 / 4)
        = b := byte_eq (by omega)
    have clean : b.toNat % 16 * 4 % 4 = 0 := by omega
    simp only [sextets, bytes?, first, second, clean, if_true]
  | case4 a b c rest ih =>
    have hb := b.toNat_lt
    have hc := c.toNat_lt
    have first : UInt8.ofNat (a.toNat / 4 * 4 + (a.toNat % 4 * 16 + b.toNat / 16) / 16) = a :=
      byte_eq (by omega)
    have second : UInt8.ofNat ((a.toNat % 4 * 16 + b.toNat / 16) % 16 * 16 +
        (b.toNat % 16 * 4 + c.toNat / 64) / 4) = b := byte_eq (by omega)
    have third : UInt8.ofNat ((b.toNat % 16 * 4 + c.toNat / 64) % 4 * 64 + c.toNat % 64) = c :=
      byte_eq (by omega)
    simp only [sextets, bytes?, ih, Option.map_some, first, second, third]

theorem decode?_encode (bytes : List UInt8) : decode? (encode bytes) = some bytes := by
  simp only [decode?, encode, String.toList_ofList, mapM_sextet? (sextets_bound bytes)]
  exact bytes?_sextets bytes

theorem encode_ne_empty {bytes : List UInt8} (some : bytes ≠ []) : encode bytes ≠ "" := by
  intro none
  have back := decode?_encode bytes
  rw [none] at back
  exact some (Option.some.inj back).symm

end Base64
end AccessCatalog.Text
