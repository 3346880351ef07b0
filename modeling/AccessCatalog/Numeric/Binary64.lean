import AccessCatalog.Numeric.Word

/-! Binary floating point as arithmetic on natural numbers. A finite number is a significand
times a power of two, counted in units of the least positive number, and every operation
rounds its exact result to the nearest number, ties to the even significand. -/
namespace AccessCatalog.Numeric

/-- A 64-bit binary floating point number: a sign bit, eleven exponent bits, 52 fraction bits. -/
structure Binary64 where
  bits : UInt64
  deriving DecidableEq, Repr, Inhabited

/-- The quotient to the nearest integer, a half going to the even neighbour. -/
def roundHalfEven (num den : Nat) : Nat :=
  let q := num / den
  let r := num % den
  if 2 * r < den then q
  else if den < 2 * r then q + 1
  else if q % 2 = 0 then q else q + 1

namespace Binary64

def signWeight : Nat := 0x8000000000000000

/-- The weight of the lowest exponent bit, and of the bit in front of the fraction. -/
def leadingWeight : Nat := 0x10000000000000

def topExponent : Nat := 2047

def zero : Binary64 := ⟨0⟩
def isNegative (x : Binary64) : Bool := decide (signWeight ≤ x.bits.toNat)
def exponentField (x : Binary64) : Nat := x.bits.toNat / leadingWeight % (topExponent + 1)
def fractionField (x : Binary64) : Nat := x.bits.toNat % leadingWeight
def isFinite (x : Binary64) : Bool := decide (x.exponentField < topExponent)
def isZero (x : Binary64) : Bool := decide (x.bits.toNat % signWeight = 0)
def neg (x : Binary64) : Binary64 := ⟨x.bits ^^^ signWeight.toUInt64⟩

def significand (x : Binary64) : Nat :=
  if x.exponentField = 0 then x.fractionField else leadingWeight + x.fractionField

def shift (x : Binary64) : Nat := x.exponentField - 1

/-- The magnitude in units of `1 / unitsPerOne`. -/
def units (x : Binary64) : Nat := x.significand * Nat.pow 2 x.shift

def unitsPerOne : Nat := Nat.pow 2 1074

/-- The nearest number to a nonnegative quotient; infinity when it is out of range. -/
def ofRatio (num den : Nat) : Binary64 :=
  let whole := num * unitsPerOne / den
  let shift := Nat.log2 whole - 52
  let digits := roundHalfEven (num * unitsPerOne) (den * Nat.pow 2 shift)
  ⟨(min (shift * leadingWeight + digits) (topExponent * leadingWeight)).toUInt64⟩

def ofNat (n : Nat) : Binary64 := ofRatio n 1

def ofInt : Int → Binary64
  | .ofNat n => ofNat n
  | .negSucc n => (ofNat (n + 1)).neg

def scaleUp (x y : Binary64) : Binary64 :=
  ofRatio (x.units * y.units) (unitsPerOne * unitsPerOne)

def scaleDown (x y : Binary64) : Binary64 := ofRatio x.units y.units

/-- The number as an integer when it has no fraction, held within the signed 64-bit range. -/
def toInt? (x : Binary64) : Option Int :=
  if x.isFinite && x.units % unitsPerOne = 0 then
    let n : Int := x.units / unitsPerOne
    some (if x.isNegative then max (-n) minInt64 else min n maxInt64)
  else none

end Binary64
end AccessCatalog.Numeric
