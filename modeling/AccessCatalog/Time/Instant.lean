import AccessCatalog.Time.Calendar

/-! Points in universal time, to the nanosecond, within the years -262143 to 262142. -/
namespace AccessCatalog

/-- A day, a second of it, and nanoseconds. During a leap second, which follows a second 59, the
nanoseconds run from one thousand million on. -/
structure Instant where
  day : Int
  second : Nat
  nano : Nat
  deriving DecidableEq, Repr, Inhabited

namespace Instant

def firstDay : Int := Time.Date.dayNumber ⟨-262143, 1, 1⟩
def lastDay : Int := Time.Date.dayNumber ⟨262142, 12, 31⟩
def inRange (day : Int) : Bool := decide (firstDay ≤ day ∧ day ≤ lastDay)

/-- The instant a number of seconds after the start of 1970. -/
def ofUnixSeconds? (seconds : Int) : Option Instant :=
  let day := seconds / 86400
  if inRange day then some ⟨day, (seconds % 86400).toNat, 0⟩ else none

/-- A time of a day somewhere, moved to universal time by the offset it was given with. -/
def ofLocal? (day : Int) (second nano : Nat) (offset : Int) : Option Instant :=
  let total := day * 86400 + second - offset
  let moved := total / 86400
  if inRange day && inRange moved then some ⟨moved, (total % 86400).toNat, nano⟩ else none

end Instant
end AccessCatalog
