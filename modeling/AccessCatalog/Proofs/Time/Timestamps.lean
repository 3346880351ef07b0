import AccessCatalog.Proofs.Time.Dates
import AccessCatalog.Time.Rfc3339

/-! Written timestamps are read back. Each number of a timestamp is written with leading zeros and
ends at a character that is no digit, so that reading takes the number that was written; and the
date that was written is the date of the day it was made from. -/
namespace AccessCatalog.Time

/-! Numbers. -/

theorem digitsValue_eq (ds : List Char) : digitsValue ds = Nat.ofDigitChars 10 ds 0 := by
  simp [digitsValue, Nat.ofDigitChars, Nat.mul_comm]

theorem padded_toList (width n : Nat) : (padded width n).toList =
    List.replicate (width - (Nat.toDigits 10 n).length) '0' ++ Nat.toDigits 10 n := by
  simp [padded, Nat.toList_repr, ← String.length_toList]

theorem padded_isDigit (width n : Nat) : ∀ c ∈ (padded width n).toList, c.isDigit = true := by
  intro c member
  rw [padded_toList, List.mem_append] at member
  rcases member with zero | digit
  · rw [List.eq_of_mem_replicate zero]
    rfl
  · exact Nat.isDigit_of_mem_toDigits (by decide) (by decide) digit

theorem digitsValue_padded (width n : Nat) : digitsValue (padded width n).toList = n := by
  rw [digitsValue_eq, padded_toList, Nat.ofDigitChars_append, Nat.ofDigitChars_replicate_zero,
    Nat.mul_zero, Nat.ofDigitChars_toDigits (by decide) (by decide)]

theorem padded_ne_nil (width n : Nat) : (padded width n).toList ≠ [] := by
  rw [padded_toList]
  exact List.append_ne_nil_of_right_ne_nil _ Nat.toDigits_ne_nil

theorem padded_length {width n : Nat} (wide : 0 < width) (small : n < Nat.pow 10 width) :
    (padded width n).toList.length = width := by
  have fits : (Nat.toDigits 10 n).length ≤ width :=
    (Nat.length_toDigits_le_iff (by decide) wide).mpr small
  rw [padded_toList, List.length_append, List.length_replicate]
  omega

theorem isBlank_digit {c : Char} (digit : c.isDigit = true) : Text.isBlank c = false := by
  have code : 48 ≤ c.toNat ∧ c.toNat ≤ 57 := by
    simpa [Char.isDigit, UInt32.le_iff_toNat_le] using digit
  simp only [Text.isBlank, decide_eq_false_iff_not]
  omega

section Marked

variable {ds : List Char} (digits : ∀ c ∈ ds, c.isDigit = true) (there : ds ≠ []) {mark : Char}
  (marked : mark.isDigit = false) (rest : List Char)
include digits marked

theorem takeWhile_digits : (ds ++ mark :: rest).takeWhile Char.isDigit = ds := by
  rw [List.takeWhile_append_of_pos digits, List.takeWhile_cons_of_neg (by simp [marked]),
    List.append_nil]

include there

theorem takeNumber?_digits {width : Nat} (fits : ds.length ≤ width) :
    takeNumber? width (ds ++ mark :: rest) = some (digitsValue ds, mark :: rest) := by
  simp only [takeNumber?, takeWhile_digits digits marked, List.take_of_length_le fits]
  simp [there]

theorem takeNanos?_digits (fits : ds.length ≤ 9) :
    takeNanos? ('.' :: (ds ++ mark :: rest)) =
      some (digitsValue ds * Nat.pow 10 (9 - ds.length), mark :: rest) := by
  simp only [takeNanos?, takeWhile_digits digits marked, List.take_of_length_le fits]
  simp [there]

/-- A year without a sign is taken by four digits. -/
theorem takeYear?_digits (four : ds.length = 4) :
    takeYear? (ds ++ mark :: rest) = some ((digitsValue ds : Int), mark :: rest) := by
  have taken := takeNumber?_digits digits there marked rest (Nat.le_of_eq four)
  cases ds with
  | nil => exact absurd rfl there
  | cons c cs =>
    have digit : c.isDigit = true := digits c List.mem_cons_self
    have blanks : skipBlanks (c :: cs ++ mark :: rest) = c :: cs ++ mark :: rest :=
      List.dropWhile_cons_of_neg (by simp [isBlank_digit digit])
    unfold takeYear?
    rw [blanks]
    split
    · rename_i sign
      rw [(List.cons.inj sign).1] at digit
      cases digit
    · rename_i sign
      rw [(List.cons.inj sign).1] at digit
      cases digit
    · rw [taken]
      rfl

end Marked

theorem skipBlanks_cons {c : Char} (visible : Text.isBlank c = false) (cs : List Char) :
    skipBlanks (c :: cs) = c :: cs :=
  List.dropWhile_cons_of_neg (by simp [visible])

theorem skipBlanks_padded (width n : Nat) (rest : List Char) :
    skipBlanks ((padded width n).toList ++ rest) = (padded width n).toList ++ rest := by
  have digits := padded_isDigit width n
  cases written : (padded width n).toList with
  | nil => exact absurd written (padded_ne_nil width n)
  | cons c cs =>
    rw [written] at digits
    exact skipBlanks_cons (isBlank_digit (digits c List.mem_cons_self)) _

/-! Parts of a timestamp. -/

theorem daysInMonth_le (year : Int) (month : Nat) : daysInMonth year month ≤ 31 := by
  unfold daysInMonth
  split
  · split <;> decide
  · split <;> decide

theorem takeMark?_cons {mark : Char} (visible : Text.isBlank mark = false) (rest : List Char) :
    takeMark? mark (mark :: rest) = some rest := by
  simp [takeMark?, skipBlanks_cons visible]

theorem takeField?_padded {low high n : Nat} (above : low ≤ n) (below : n ≤ high)
    (small : n < 100) {mark : Char} (marked : mark.isDigit = false) (rest : List Char) :
    takeField? low high ((padded 2 n).toList ++ mark :: rest) = some (n, mark :: rest) := by
  have taken := takeNumber?_digits (padded_isDigit 2 n) (padded_ne_nil 2 n) marked rest
    (Nat.le_of_eq (padded_length (by decide) small))
  simp [takeField?, skipBlanks_padded, taken, digitsValue_padded, above, below]

theorem takeYear?_minus (cs : List Char) :
    takeYear? ('-' :: cs) = (takeNumber? cs.length cs).map fun r => (-(r.1 : Int), r.2) := by
  have minus : Text.isBlank '-' = false := by decide
  simp [takeYear?, skipBlanks_cons minus]

theorem takeYear?_plus (cs : List Char) :
    takeYear? ('+' :: cs) = (takeNumber? cs.length cs).map fun r => ((r.1 : Int), r.2) := by
  have plus : Text.isBlank '+' = false := by decide
  simp [takeYear?, skipBlanks_cons plus]

/-- A year with a sign ends where its digits do. -/
theorem takeYear?_yearText (year : Int) {mark : Char} (marked : mark.isDigit = false)
    (rest : List Char) :
    takeYear? ((yearText year).toList ++ mark :: rest) = some (year, mark :: rest) := by
  have inside : (padded 4 year.natAbs).toList.length ≤
      ((padded 4 year.natAbs).toList ++ mark :: rest).length := by simp
  have signed := takeNumber?_digits (padded_isDigit 4 year.natAbs) (padded_ne_nil 4 _) marked rest
    inside
  rw [digitsValue_padded] at signed
  unfold yearText
  split
  · rename_i plain
    have four : (padded 4 year.toNat).toList.length = 4 :=
      padded_length (by decide) (show year.toNat < 10000 by omega)
    rw [takeYear?_digits (padded_isDigit 4 _) (padded_ne_nil 4 _) marked rest four,
      digitsValue_padded, Int.toNat_of_nonneg plain.1]
  · rw [String.toList_append]
    split
    · rename_i negative
      have value : -(year.natAbs : Int) = year := by omega
      change takeYear? ('-' :: ((padded 4 year.natAbs).toList ++ mark :: rest)) = _
      rw [takeYear?_minus, signed, Option.map_some, value]
    · rename_i outside notNegative
      have value : (year.natAbs : Int) = year := by omega
      change takeYear? ('+' :: ((padded 4 year.natAbs).toList ++ mark :: rest)) = _
      rw [takeYear?_plus, signed, Option.map_some, value]

/-- What the digits of a second tell of the nanoseconds. -/
def Fraction.shown (f : Fraction) (nano : Nat) : Nat :=
  match f with
  | .millis => nano / 1000000 * 1000000
  | .shortest => nano

/-- As many digits are left out as are zero, or all behind the third. -/
theorem takeNanos?_fractionText (f : Fraction) {nano : Nat} (small : nano < 1000000000)
    (rest : List Char) :
    takeNanos? ((fractionText f nano).toList ++ 'Z' :: rest) =
      some (f.shown nano, 'Z' :: rest) := by
  have taken : ∀ width n : Nat, 0 < width → width ≤ 9 → n < Nat.pow 10 width →
      takeNanos? (("." ++ padded width n).toList ++ 'Z' :: rest) =
        some (n * Nat.pow 10 (9 - width), 'Z' :: rest) := by
    intro width n wide fits small
    have length := padded_length wide small
    have ended : 'Z'.isDigit = false := rfl
    have digits := takeNanos?_digits (padded_isDigit width n) (padded_ne_nil width n) ended rest
      (Nat.le_trans (Nat.le_of_eq length) fits)
    rw [digitsValue_padded, length] at digits
    rw [String.toList_append]
    exact digits
  have thousandths := taken 3 (nano / 1000000) (by decide) (by decide)
    (show nano / 1000000 < 1000 by omega)
  cases f with
  | millis => exact thousandths
  | shortest =>
    simp only [fractionText]
    split
    · rename_i zero
      rw [zero]
      rfl
    · split
      · rename_i millis
        have whole : nano / 1000000 * Nat.pow 10 (9 - 3) = nano :=
          Nat.div_mul_cancel (Nat.dvd_of_mod_eq_zero millis)
        rw [thousandths, whole]
        rfl
      · split
        · rename_i micros
          have whole : nano / 1000 * Nat.pow 10 (9 - 6) = nano :=
            Nat.div_mul_cancel (Nat.dvd_of_mod_eq_zero micros)
          rw [taken 6 _ (by decide) (by decide) (show nano / 1000 < 1000000 by omega), whole]
          rfl
        · have whole : nano * Nat.pow 10 (9 - 9) = nano := Nat.mul_one nano
          rw [taken 9 _ (by decide) (by decide) small, whole]
          rfl

/-- What follows the seconds begins with a point or a Z. -/
theorem fractionText_marked (f : Fraction) (nano : Nat) (rest : List Char) : ∃ mark behind,
    (fractionText f nano).toList ++ 'Z' :: rest = mark :: behind ∧ mark.isDigit = false := by
  have point : ∀ digits : String, ∃ mark behind,
      ("." ++ digits).toList ++ 'Z' :: rest = mark :: behind ∧ mark.isDigit = false :=
    fun digits => ⟨'.', _, by rw [String.toList_append]; rfl, rfl⟩
  cases f with
  | millis => exact point _
  | shortest =>
    simp only [fractionText]
    split
    · exact ⟨'Z', rest, rfl, rfl⟩
    · split
      · exact point _
      · split <;> exact point _

theorem takeField?_seconds {n : Nat} (below : n ≤ 60) (f : Fraction) (nano : Nat)
    (rest : List Char) :
    takeField? 0 60 ((padded 2 n).toList ++ ((fractionText f nano).toList ++ 'Z' :: rest)) =
      some (n, (fractionText f nano).toList ++ 'Z' :: rest) := by
  obtain ⟨mark, behind, tail, marked⟩ := fractionText_marked f nano rest
  rw [tail, takeField?_padded (Nat.zero_le n) below (by omega) marked]

end Time

open Time

namespace Instant

/-- Whether an instant is within range, with nanoseconds of a leap second only behind a second
59. -/
structure IsValid (t : Instant) : Prop where
  inRange : inRange t.day = true
  inDay : t.second < 86400
  nanos : t.nano < 1000000000 ∨ t.nano < 2000000000 ∧ t.second % 60 = 59

theorem text_toList (t : Instant) (f : Fraction) :
    let date := Date.ofDayNumber t.day
    let leap := decide (1000000000 ≤ t.nano)
    (t.text f).toList =
      (yearText date.year).toList ++ '-' :: ((padded 2 date.month).toList ++ '-' ::
        ((padded 2 date.day).toList ++ 'T' :: ((padded 2 (t.second / 3600)).toList ++ ':' ::
          ((padded 2 (t.second / 60 % 60)).toList ++ ':' ::
            ((padded 2 (t.second % 60 + if leap then 1 else 0)).toList ++
              ((fractionText f (if leap then t.nano - 1000000000 else t.nano)).toList ++
                'Z' :: [])))))) := by
  simp [text]

/-- Second 60 stands for the nanoseconds of a leap second. -/
theorem leap_back (f : Fraction) {second nano : Nat}
    (nanos : nano < 1000000000 ∨ nano < 2000000000 ∧ second % 60 = 59) :
    let leap := decide (1000000000 ≤ nano)
    let shown := second % 60 + if leap then 1 else 0
    let rest := if leap then nano - 1000000000 else nano
    shown ≤ 60 ∧ rest < 1000000000 ∧
      (if shown = 60 then (59, f.shown rest + 1000000000) else (shown, f.shown rest)) =
        (second % 60, f.shown nano) := by
  by_cases leap : 1000000000 ≤ nano
  · have last : second % 60 = 59 := by omega
    have back : f.shown (nano - 1000000000) + 1000000000 = f.shown nano := by
      cases f <;> simp only [Fraction.shown] <;> omega
    simp [leap, last, back]
    omega
  · have early : second % 60 ≠ 60 := by omega
    simp [leap, early]
    omega

theorem ofLocal?_zulu {day : Int} {second : Nat} (within : inRange day = true)
    (inDay : second < 86400) (nano : Nat) :
    ofLocal? day second nano 0 = some ⟨day, second, nano⟩ := by
  have whole : (day * 86400 + second - 0) / 86400 = day := by omega
  have rest : ((day * 86400 + second - 0) % 86400).toNat = second := by omega
  simp only [ofLocal?, whole, rest, within, Bool.and_self, if_true]

/-- A timestamp is read as the instant it was written for, as far as its digits tell it. -/
theorem parse?_text_shown (f : Fraction) {t : Instant} (valid : t.IsValid) :
    parse? (t.text f) = some { t with nano := f.shown t.nano } := by
  obtain ⟨day, second, nano⟩ := t
  obtain ⟨within, inDay, nanos⟩ := valid
  dsimp only at within inDay nanos
  obtain ⟨shown, fraction, back⟩ := leap_back f nanos
  have isDate := ofDayNumber_isValid day
  have number := dayNumber_ofDayNumber day
  rw [parse?, text_toList]
  dsimp only
  generalize Date.ofDayNumber day = date at *
  obtain ⟨monthLow, monthHigh, dayLow, dayHigh⟩ := of_decide_eq_true isDate
  have dayInMonth := Nat.le_trans dayHigh (daysInMonth_le date.year date.month)
  have clock : second / 3600 * 3600 + second / 60 % 60 * 60 + second % 60 = second := by omega
  -- What each part of the text is read as, whatever follows it.
  have dash : Text.isBlank '-' = false ∧ '-'.isDigit = false := by decide
  have colon : Text.isBlank ':' = false ∧ ':'.isDigit = false := by decide
  have timeMark : 'T'.isDigit = false := rfl
  have month := takeField?_padded monthLow monthHigh (by omega) dash.2
  have dayOfMonth := takeField?_padded dayLow dayInMonth (by omega) timeMark
  have hour := takeField?_padded (Nat.zero_le (second / 3600))
    (show second / 3600 ≤ 23 by omega) (by omega) colon.2
  have minute := takeField?_padded (Nat.zero_le (second / 60 % 60))
    (show second / 60 % 60 ≤ 59 by omega) (by omega) colon.2
  have zulu : takeOffset? (skipBlanks ['Z']) = some (0, []) := rfl
  have ended : (skipBlanks []).isEmpty = true := rfl
  -- One part after the other.
  refine Option.bind_eq_some_iff.mpr ⟨_, takeYear?_yearText date.year dash.2 _, ?_⟩
  refine Option.bind_eq_some_iff.mpr ⟨_, takeMark?_cons dash.1 _, ?_⟩
  refine Option.bind_eq_some_iff.mpr ⟨_, month _, ?_⟩
  refine Option.bind_eq_some_iff.mpr ⟨_, takeMark?_cons dash.1 _, ?_⟩
  refine Option.bind_eq_some_iff.mpr ⟨_, dayOfMonth _, ?_⟩
  dsimp only
  rw [if_pos (.inl rfl)]
  refine Option.bind_eq_some_iff.mpr ⟨_, rfl, ?_⟩
  refine Option.bind_eq_some_iff.mpr ⟨_, hour _, ?_⟩
  refine Option.bind_eq_some_iff.mpr ⟨_, takeMark?_cons colon.1 _, ?_⟩
  refine Option.bind_eq_some_iff.mpr ⟨_, minute _, ?_⟩
  refine Option.bind_eq_some_iff.mpr ⟨_, takeMark?_cons colon.1 _, ?_⟩
  refine Option.bind_eq_some_iff.mpr ⟨_, takeField?_seconds shown f _ _, ?_⟩
  refine Option.bind_eq_some_iff.mpr ⟨_, takeNanos?_fractionText f fraction _, ?_⟩
  refine Option.bind_eq_some_iff.mpr ⟨_, zulu, ?_⟩
  dsimp only
  rw [ended, isDate, back, number, clock]
  exact ofLocal?_zulu within inDay _

theorem parse?_text {t : Instant} (valid : t.IsValid) : parse? (t.text .shortest) = some t :=
  parse?_text_shown .shortest valid

example : ({ day := 16800, second := 86399, nano := 1500000000 } : Instant).text .shortest =
    "2015-12-31T23:59:60.500Z" := by
  decide +kernel

end Instant
end AccessCatalog
