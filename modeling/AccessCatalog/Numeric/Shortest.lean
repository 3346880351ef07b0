import AccessCatalog.Numeric.Binary64

/-! Decimal text of a binary number: the fewest digits that lie closer to it than to any
other number, and of those the nearest. -/
namespace AccessCatalog.Numeric

def decimalDigits (n : Nat) : List Char := (Nat.repr n).toList

/-- Decimal digits times a power of ten. -/
structure Decimal where
  digits : Nat
  exponent : Int
  deriving DecidableEq, Repr

/-- The interval of decimals that round to a number, in quarters of its unit. -/
structure Rounding where
  low : Nat
  value : Nat
  high : Nat
  closed : Bool

def Rounding.contains (r : Rounding) (x : Nat) : Bool :=
  if r.closed then decide (r.low ≤ x ∧ x ≤ r.high) else decide (r.low < x ∧ x < r.high)

/-- What rounds to `x`: half a step on each side, a quarter below a power of two. -/
def Binary64.rounding (x : Binary64) : Rounding :=
  let q := 4 * x.units
  let step := Nat.pow 2 x.shift
  let below := if x.fractionField = 0 ∧ 1 < x.exponentField then step else 2 * step
  ⟨q - below, q, q + 2 * step, decide (x.significand % 2 = 0)⟩

/-- The nearest multiple of a power of ten that still rounds to the number, if there is one. -/
def Rounding.onGrid? (r : Rounding) (exponent : Int) : Option Nat :=
  let scale := 4 * Binary64.unitsPerOne
  let num := r.value * Nat.pow 10 (-exponent).toNat
  let den := scale * Nat.pow 10 exponent.toNat
  let d := num / den
  let inside (n : Nat) : Bool :=
    let t := Nat.pow 10 (-exponent).toNat
    let scaled : Rounding := ⟨r.low * t, r.value * t, r.high * t, r.closed⟩
    scaled.contains (n * den)
  let downFirst := decide (2 * (num % den) < den) || (decide (2 * (num % den) = den) && d % 2 == 0)
  let (first, second) := if downFirst then (d, d + 1) else (d + 1, d)
  if inside first then some first else if inside second then some second else none

/-- The coarsest grid that holds a decimal of the number, from `exponent` down. -/
def Rounding.search (r : Rounding) : Nat → Int → Decimal
  | 0, exponent => ⟨0, exponent⟩
  | fuel + 1, exponent =>
    match r.onGrid? exponent with
    | some d => ⟨d, exponent⟩
    | none => r.search fuel (exponent - 1)

/-- The shortest decimal of a finite number other than zero; the grids run from 10^309 down past
the least number. -/
def Binary64.shortest (x : Binary64) : Decimal := x.rounding.search 640 309

/-- Positional up to sixteen places before the point and five zeros after it, else scientific;
a point always shows. -/
def Binary64.text (x : Binary64) : String :=
  let sign := if x.isNegative then "-" else ""
  if x.isZero then sign ++ "0.0"
  else
    let d := x.shortest
    let digits := decimalDigits d.digits
    let zeros (n : Nat) := List.replicate n '0'
    let point : Int := digits.length + d.exponent
    let body :=
      if 0 ≤ d.exponent ∧ point ≤ 16 then digits ++ zeros d.exponent.toNat ++ ['.', '0']
      else if 0 < point ∧ point ≤ 16 then
        digits.take point.toNat ++ '.' :: digits.drop point.toNat
      else if -5 < point ∧ point ≤ 0 then '0' :: '.' :: zeros (-point).toNat ++ digits
      else
        let tail := 'e' :: (toString (point - 1)).toList
        match digits with
        | [c] => c :: tail
        | c :: cs => c :: '.' :: cs ++ tail
        | [] => tail
    sign ++ String.ofList body

end AccessCatalog.Numeric
