import AccessCatalog.Time.Calendar

/-! Dates and day numbers. An era of 400 years is four centuries, a century 25 groups of four years,
and only the last year of a group can have a leap day, which is the last day of it. Taken apart so,
every day number has a date that exists, and is the number of that date. -/
namespace AccessCatalog.Time

/-- A day of an era by its century, the four years in it, the year of those and the day of the
year. Years begin in March, so that a leap day is day 365 of its year. -/
structure EraDay where
  century : Int
  group : Int
  year : Int
  day : Int
  inEra : 0 ≤ century ∧ century ≤ 3
  inCentury : 0 ≤ group ∧ group ≤ 24
  inGroup : 0 ≤ year ∧ year ≤ 3
  inYear : 0 ≤ day ∧ day ≤ 365
  leap : day = 365 → year = 3 ∧ (group = 24 → century = 3)

namespace EraDay

def number (d : EraDay) : Int := 36524 * d.century + 1461 * d.group + 365 * d.year + d.day

def yearOfEra (d : EraDay) : Int := 100 * d.century + 4 * d.group + d.year

theorem exists_number {n : Int} (low : 0 ≤ n) (high : n < 146097) :
    ∃ d : EraDay, d.number = n := by
  let century := min (n / 36524) 3
  let inCentury := n - 36524 * century
  let group := inCentury / 1461
  let inGroup := inCentury - 1461 * group
  let year := min (inGroup / 365) 3
  refine ⟨⟨century, group, year, inGroup - 365 * year, ?_, ?_, ?_, ?_, ?_⟩, ?_⟩
  · omega
  · omega
  · omega
  · omega
  · omega
  · simp only [number]
    omega

theorem yearOfEra_eq (d : EraDay) :
    (d.number - d.number / 1460 + d.number / 36524 - d.number / 146096) / 365 = d.yearOfEra := by
  obtain ⟨century, group, year, day, inEra, inCentury, inGroup, inYear, leap⟩ := d
  simp only [number, yearOfEra]
  generalize counted : 36524 * century + 1461 * group + 365 * year + day = n
  have inside : n < 36524 * century + 36524 ∨ century = 3 ∧ n = 146096 := by omega
  have centuries : n / 36524 - n / 146096 = century := by
    rcases inside with inside | ⟨rfl, rfl⟩
    · have whole : n / 36524 = century := by omega
      omega
    · rfl
  -- Groups of 1460 days run ahead of those of four years, by one group at most.
  have groups : n / 1460 = 25 * century + group ∧ day < 365 ∨
      n / 1460 = 25 * century + group + 1 ∧ 1 ≤ day := by omega
  omega

theorem yearOfEra_parts (d : EraDay) : 0 ≤ d.yearOfEra ∧ d.yearOfEra < 400 ∧
    d.yearOfEra / 4 = 25 * d.century + d.group ∧ d.yearOfEra / 100 = d.century := by
  obtain ⟨century, group, year, day, inEra, inCentury, inGroup, inYear, leap⟩ := d
  simp only [yearOfEra]
  omega

theorem dayOfYear_eq (d : EraDay) :
    d.number - (365 * d.yearOfEra + d.yearOfEra / 4 - d.yearOfEra / 100) = d.day := by
  obtain ⟨-, -, groups, centuries⟩ := d.yearOfEra_parts
  rw [groups, centuries]
  simp only [number, yearOfEra]
  omega

end EraDay

/-- The date of a day of a year that begins in March. -/
def marchDate (year day : Int) : Date :=
  let month := (5 * day + 2) / 153
  let fromJanuary := if month < 10 then month + 3 else month - 9
  ⟨year + (if fromJanuary ≤ 2 then 1 else 0), fromJanuary.toNat,
    (day - (153 * month + 2) / 5 + 1).toNat⟩

theorem ofDayNumber_eq (n : Int) : ∃ (era : Int) (d : EraDay),
    n = era * 146097 + d.number - 719468 ∧
      Date.ofDayNumber n = marchDate (era * 400 + d.yearOfEra) d.day := by
  obtain ⟨d, number⟩ := EraDay.exists_number (n := (n + 719468) % 146097) (by omega) (by omega)
  refine ⟨(n + 719468) / 146097, d, by omega, ?_⟩
  simp only [Date.ofDayNumber, ← number, d.yearOfEra_eq, d.dayOfYear_eq, marchDate]
  rw [Int.add_comm d.yearOfEra]

/-- The months from March to December belong to the year they began in, the other two to the
next. -/
theorem marchDate_cases (year : Int) {day : Int} (low : 0 ≤ day) (high : day ≤ 365) :
    ∃ month dayOfMonth : Nat, (month : Int) = (5 * day + 2) / 153 ∧
      (dayOfMonth : Int) = day - (153 * month + 2) / 5 + 1 ∧
      (month < 10 ∧ marchDate year day = ⟨year, month + 3, dayOfMonth⟩ ∨
        10 ≤ month ∧ month < 12 ∧ marchDate year day = ⟨year + 1, month - 9, dayOfMonth⟩) := by
  obtain ⟨month, monthOf⟩ := Int.eq_ofNat_of_zero_le (show 0 ≤ (5 * day + 2) / 153 by omega)
  have begun : 0 ≤ day - (153 * month + 2) / 5 + 1 := by omega
  obtain ⟨dayOfMonth, dayOf⟩ := Int.eq_ofNat_of_zero_le begun
  refine ⟨month, dayOfMonth, monthOf.symm, dayOf.symm, ?_⟩
  simp only [marchDate, monthOf, dayOf]
  by_cases early : month < 10
  · left
    have early' : (month : Int) < 10 := by omega
    have late : ¬(month : Int) + 3 ≤ 2 := by omega
    rw [if_pos early', if_neg late]
    exact ⟨early, by simp; omega⟩
  · right
    have late : ¬(month : Int) < 10 := by omega
    have first : (month : Int) - 9 ≤ 2 := by omega
    rw [if_neg late, if_pos first]
    exact ⟨by omega, by omega, by simp; omega⟩

theorem dayNumber_marchDate (year : Int) {day : Int} (low : 0 ≤ day) (high : day ≤ 365) :
    (marchDate year day).dayNumber =
      year / 400 * 146097 + (year % 400 * 365 + year % 400 / 4 - year % 400 / 100 + day) -
        719468 := by
  obtain ⟨month, dayOfMonth, -, dayOf, ⟨early, date⟩ | ⟨late, inYear, date⟩⟩ :=
    marchDate_cases year low high
  · have fromMarch : ((month + 3 : Nat) + 9 : Int) % 12 = month := by omega
    have notJanuary : ¬month + 3 ≤ 2 := by omega
    simp only [date, Date.dayNumber, fromMarch, if_neg notJanuary, dayOf]
    omega
  · have fromMarch : ((month - 9 : Nat) + 9 : Int) % 12 = month := by omega
    have january : month - 9 ≤ 2 := by omega
    simp only [date, Date.dayNumber, fromMarch, if_pos january, dayOf]
    omega

theorem dayNumber_ofDayNumber (n : Int) : (Date.ofDayNumber n).dayNumber = n := by
  obtain ⟨era, d, rfl, date⟩ := ofDayNumber_eq n
  obtain ⟨low, high, -, -⟩ := d.yearOfEra_parts
  have inEra : (era * 400 + d.yearOfEra) / 400 = era ∧
      (era * 400 + d.yearOfEra) % 400 = d.yearOfEra := by omega
  have counted := d.dayOfYear_eq
  rw [date, dayNumber_marchDate _ d.inYear.1 d.inYear.2, inEra.1, inEra.2]
  omega

/-- Day 365 is there in a leap year only. -/
theorem EraDay.isLeapYear_of_last (era : Int) (d : EraDay) (last : d.day = 365) :
    isLeapYear (era * 400 + d.yearOfEra + 1) = true := by
  obtain ⟨century, group, year, day, inEra, inCentury, inGroup, inYear, leap⟩ := d
  obtain ⟨fourth, centuryEnd⟩ := leap last
  simp only [isLeapYear, yearOfEra, Bool.and_eq_true, Bool.or_eq_true, beq_iff_eq, bne_iff_ne]
  omega

theorem ofDayNumber_isValid (n : Int) : (Date.ofDayNumber n).isValid = true := by
  obtain ⟨era, d, -, date⟩ := ofDayNumber_eq n
  have inYear := d.inYear
  obtain ⟨month, dayOfMonth, monthOf, dayOf, ⟨early, parts⟩ | ⟨late, inside, parts⟩⟩ :=
    marchDate_cases (era * 400 + d.yearOfEra) inYear.1 inYear.2
  · simp only [date, parts, Date.isValid, decide_eq_true_eq, daysInMonth]
    have notFebruary : month + 3 ≠ 2 := by omega
    rw [if_neg notFebruary]
    split <;> omega
  · simp only [date, parts, Date.isValid, decide_eq_true_eq, daysInMonth]
    by_cases january : month = 10
    · subst january
      rw [if_neg (by decide), if_neg (by decide)]
      omega
    · have february : month - 9 = 2 := by omega
      rw [if_pos february]
      by_cases last : d.day = 365
      · rw [if_pos (d.isLeapYear_of_last era last)]
        omega
      · split <;> omega

end AccessCatalog.Time
