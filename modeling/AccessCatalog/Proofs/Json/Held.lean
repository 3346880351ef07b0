import AccessCatalog.Proofs.Json.Records
import Mathlib.Algebra.Group.Nat.Defs

/-! Documents that can be held: their integers have 64 bits, their floats are numbers, and their
objects have each key once and in order. Such a document is its own value, and an integer of it that
has no signed form still has a float next to it. -/
namespace AccessCatalog

namespace Numeric

theorem roundHalfEven_le (num den : Nat) : roundHalfEven num den ≤ num / den + 1 := by
  unfold roundHalfEven
  dsimp only
  split
  · omega
  · split
    · omega
    · split <;> omega

/-- What is left of a number in front of its last places has no more than 53 bits. -/
theorem leading_lt (n : Nat) : n / 2 ^ (n.log2 - 52) < 2 ^ 53 := by
  have bits : n < 2 ^ (n.log2 + 1) := Nat.lt_log2_self
  have places : n.log2 + 1 ≤ 53 + (n.log2 - 52) := by omega
  rw [Nat.div_lt_iff_lt_mul (Nat.two_pow_pos _), ← Nat.pow_add]
  exact Nat.lt_of_lt_of_le bits (Nat.pow_le_pow_right (by decide) places)

theorem log2_mul_pow_lt {n a : Nat} (b : Nat) (below : n < 2 ^ a) (some : 0 < a) :
    (n * Nat.pow 2 b).log2 < a + b := by
  by_cases zero : n * Nat.pow 2 b = 0
  · rw [zero, Nat.log2_zero]
    omega
  · rw [Nat.log2_lt zero, Nat.pow_add]
    exact Nat.mul_lt_mul_of_pos_right below (Nat.two_pow_pos b)

namespace Binary64

theorem isFinite_of_bits {m : Nat} (below : m < topExponent * leadingWeight) :
    (Binary64.mk m.toUInt64).isFinite = true := by
  have bits : m.toUInt64.toNat = m := by
    simp only [topExponent, leadingWeight] at below
    rw [Nat.toUInt64, UInt64.toNat_ofNat']
    omega
  have exponent : m / leadingWeight < topExponent :=
    Nat.div_lt_of_lt_mul (Nat.mul_comm _ _ ▸ below)
  have field : (Binary64.mk m.toUInt64).exponentField = m / leadingWeight := by
    rw [exponentField, bits]
    exact Nat.mod_eq_of_lt (Nat.lt_succ_of_lt exponent)
  rw [isFinite, field]
  exact decide_eq_true exponent

/-- A number of 64 bits is far below the range of floats. -/
theorem isFinite_ofNat {n : Nat} (fits : n < wordCount64) : (ofNat n).isFinite = true := by
  have magnitude : (n * unitsPerOne).log2 < 64 + 1074 := by
    unfold unitsPerOne
    generalize 1074 = b
    exact log2_mul_pow_lt b fits (by decide)
  have digits := roundHalfEven_le (n * unitsPerOne) (2 ^ ((n * unitsPerOne).log2 - 52))
  have leading := leading_lt (n * unitsPerOne)
  have small : ((n * unitsPerOne).log2 - 52) * leadingWeight +
      roundHalfEven (n * unitsPerOne) (2 ^ ((n * unitsPerOne).log2 - 52)) <
        topExponent * leadingWeight := by
    simp only [topExponent, leadingWeight]
    omega
  rw [ofNat, ofRatio]
  simp only [Nat.div_one, Nat.one_mul, Nat.pow_eq]
  rw [Nat.min_eq_left (Nat.le_of_lt small)]
  exact isFinite_of_bits small

theorem isFinite_ofInt {i : Int} (low : minInt64 ≤ i) (high : i < wordCount64)
    (wide : ¬fitsInt64 i = true) : (ofInt i).isFinite = true := by
  have above : maxInt64 < i := by
    simp only [fitsInt64, decide_eq_true_eq, not_and, Int.not_le] at wide
    exact wide low
  cases i with
  | ofNat n => exact isFinite_ofNat (Int.ofNat_lt.mp high)
  | negSucc n =>
    have below : maxInt64 < 0 := Int.lt_trans above (Int.negSucc_lt_zero n)
    exact absurd below (by decide)

end Binary64

end Numeric

/-- An integer of 64 bits, with or without a sign, or a finite float. -/
def Number.Held : Number → Prop
  | .int i => Numeric.minInt64 ≤ i ∧ i < Numeric.wordCount64
  | .float x => x.isFinite = true

instance : DecidablePred Number.Held
  | .int i => inferInstanceAs (Decidable (Numeric.minInt64 ≤ i ∧ i < Numeric.wordCount64))
  | .float x => inferInstanceAs (Decidable (x.isFinite = true))

namespace Json

/-- What a document of the program can be: its numbers are held, and its objects are sorted maps. -/
inductive Held : Json → Prop where
  | null : Held .null
  | bool (b : Bool) : Held (.bool b)
  | num {n : Number} : n.Held → Held (.num n)
  | str (s : String) : Held (.str s)
  | arr {items : List Json} : (∀ v ∈ items, Held v) → Held (.arr items)
  | obj {entries : List (String × Json)} : Keyed.Ordered entries → (∀ e ∈ entries, Held e.2) →
      Held (.obj entries)

theorem values?_own {items : List Json} (each : ∀ v ∈ items, v.value? = some v) :
    values? items = some items := by
  induction items with
  | nil => rfl
  | cons v rest ih =>
    rw [values?, each v List.mem_cons_self,
      ih fun w member => each w (List.mem_cons_of_mem _ member)]
    rfl

theorem entryValues?_own {entries : List (String × Json)}
    (each : ∀ e ∈ entries, e.2.value? = some e.2) : entryValues? entries = some entries := by
  induction entries with
  | nil => rfl
  | cons e rest ih =>
    obtain ⟨k, v⟩ := e
    rw [entryValues?, each (k, v) List.mem_cons_self,
      ih fun f member => each f (List.mem_cons_of_mem _ member)]
    rfl

theorem value?_obj {entries : List (String × Json)} (ordered : Keyed.Ordered entries)
    (each : ∀ e ∈ entries, e.2.value? = some e.2) :
    (obj entries).value? = some (.obj entries) := by
  rw [value?, entryValues?_own each, Option.map_some, Keyed.ofList_ordered ordered]

theorem Held.value? {v : Json} (held : v.Held) : v.value? = some v := by
  induction held with
  | null | bool _ | num _ | str _ => rfl
  | arr _ ih => rw [Json.value?, values?_own ih, Option.map_some]
  | obj ordered _ ih => exact value?_obj ordered ih

end Json
end AccessCatalog
