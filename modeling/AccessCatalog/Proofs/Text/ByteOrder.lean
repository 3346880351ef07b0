import AccessCatalog.Proofs.Text.Codes

/-! The order of texts is the order of their bytes. Of two characters the one with the smaller number
has the smaller bytes: its first byte says that it has fewer of them, or there are as many, and they
are the digits of the two numbers. -/
namespace AccessCatalog.Text

open String (utf8EncodeChar)

theorem ofNat_lt_iff (m n : Nat) : UInt8.ofNat m < UInt8.ofNat n ↔ m % 256 < n % 256 := by
  simp [UInt8.lt_iff_toNat_lt]

theorem ofNat_inj (m n : Nat) : UInt8.ofNat m = UInt8.ofNat n ↔ m % 256 = n % 256 := by
  simp [← UInt8.toNat_inj]

/-- The digits of a number of a character beyond the first plane. -/
theorem digits_of_plane (v : Nat) : ∃ a b c e, v = 262144 * a + 4096 * b + 64 * c + e ∧
    b < 64 ∧ c < 64 ∧ e < 64 ∧ v / 262144 = a ∧ v / 4096 % 64 = b ∧ v / 64 % 64 = c ∧
      v % 64 = e :=
  ⟨v / 262144, v / 4096 % 64, v / 64 % 64, v % 64, by omega, by omega, by omega, by omega, rfl,
    rfl, rfl, rfl⟩

/-- What follows the bytes of two characters does not matter to their order. -/
theorem utf8EncodeChar_lt {c d : Char} (below : c < d) (cs ds : List UInt8) :
    utf8EncodeChar c ++ cs < utf8EncodeChar d ++ ds := by
  have numbers : c.val.toNat < d.val.toNat := UInt32.lt_iff_toNat_lt.mp below
  have last : d.val.toNat < 1114112 := by
    have valid := d.valid
    unfold UInt32.isValidChar Nat.isValidChar at valid
    omega
  unfold utf8EncodeChar
  generalize c.val.toNat = m at numbers
  generalize d.val.toNat = n at numbers last
  dsimp only
  by_cases long : m ≤ 65535
  · -- At most three bytes on the left: few enough for one calculation.
    rw [if_pos long]
    repeat' split
    all_goals
      first
      | omega
      | simp only [List.cons_append, List.nil_append, List.cons_lt_cons_iff, ofNat_lt_iff,
          ofNat_inj]
        omega
  · obtain ⟨a, b, c, e, left, hb, hc, he, h₁, h₂, h₃, h₄⟩ := digits_of_plane m
    obtain ⟨a', b', c', e', right, hb', hc', he', h₁', h₂', h₃', h₄'⟩ := digits_of_plane n
    repeat rw [if_neg (by omega)]
    simp only [List.cons_append, List.nil_append, List.cons_lt_cons_iff, ofNat_lt_iff, ofNat_inj,
      h₁, h₂, h₃, h₄, h₁', h₂', h₃', h₄']
    clear h₁ h₂ h₃ h₄ h₁' h₂' h₃' h₄'
    omega

theorem utf8_lt {cs ds : List Char} (below : cs < ds) : utf8 cs < utf8 ds := by
  induction cs generalizing ds with
  | nil =>
    cases ds with
    | nil => exact absurd below (List.not_lt_nil _)
    | cons d ds =>
      obtain ⟨b, rest, bytes⟩ := List.exists_cons_of_ne_nil (String.utf8EncodeChar_ne_nil (c := d))
      rw [utf8_cons, bytes]
      exact List.nil_lt_cons _ _
  | cons c cs ih =>
    cases ds with
    | nil => exact absurd below (List.not_lt_nil _)
    | cons d ds =>
      rw [utf8_cons, utf8_cons]
      rcases List.cons_lt_cons_iff.mp below with first | ⟨rfl, behind⟩
      · exact utf8EncodeChar_lt first _ _
      · exact List.append_left_lt (ih behind)

end AccessCatalog.Text
