import AccessCatalog.Json.Basic

/-! Numbers as JSON writes them. An integer that fits in 64 bits is kept exactly. Every other
numeral is read through one 64-bit significand: digits are taken while they fit, the rest only
move the decimal exponent, and the result is scaled by one rounded power of ten. -/
namespace AccessCatalog.Json

open Numeric (Binary64)

/-- A numeral taken apart; a missing fraction or exponent differs from an empty one. -/
structure Numeral where
  negative : Bool
  whole : List Nat
  fraction : Option (List Nat)
  exponent : Option (Bool × List Nat)

def digit? (c : Char) : Option Nat :=
  if c.isDigit then some (c.toNat - '0'.toNat) else none

def spanDigits (cs : List Char) : List Nat × List Char :=
  ((cs.takeWhile Char.isDigit).filterMap digit?, cs.dropWhile Char.isDigit)

def takeSign : List Char → Bool × List Char
  | '-' :: cs => (true, cs)
  | cs => (false, cs)

/-- A zero in front stands alone. -/
def takeWhole (cs : List Char) : Option (List Nat × List Char) :=
  match spanDigits cs with
  | ([], _) => none
  | (0 :: _ :: _, _) => none
  | r => some r

def takeFraction : List Char → Option (Option (List Nat) × List Char)
  | '.' :: cs =>
    match spanDigits cs with
    | ([], _) => none
    | (ds, rest) => some (some ds, rest)
  | cs => some (none, cs)

def takeExponent : List Char → Option (Option (Bool × List Nat) × List Char)
  | [] => some (none, [])
  | c :: cs =>
    if c = 'e' ∨ c = 'E' then
      let (negative, body) :=
        match cs with
        | '-' :: r => (true, r)
        | '+' :: r => (false, r)
        | r => (false, r)
      match spanDigits body with
      | ([], _) => none
      | (ds, rest) => some (some (negative, ds), rest)
    else some (none, c :: cs)

def Numeral.scan? (cs : List Char) : Option Numeral := do
  let (negative, cs) := takeSign cs
  let (whole, cs) ← takeWhole cs
  let (fraction, cs) ← takeFraction cs
  let (exponent, cs) ← takeExponent cs
  if cs.isEmpty then some ⟨negative, whole, fraction, exponent⟩ else none

/-- Takes digits into a significand while it fits in 64 bits. -/
def absorb : Nat → List Nat → Nat × List Nat
  | s, [] => (s, [])
  | s, d :: ds => if s * 10 + d < Numeric.wordCount64 then absorb (s * 10 + d) ds else (s, d :: ds)

def powerOfTen (n : Nat) : Binary64 := Binary64.ofNat (Nat.pow 10 n)

/-- Divides by a power of ten, 308 places at a time. -/
def lower (x : Binary64) (places : Nat) : Binary64 :=
  if places ≤ 308 then x.scaleDown (powerOfTen places)
  else if x.isZero then x
  else lower (x.scaleDown (powerOfTen 308)) (places - 308)
termination_by places

/-- A magnitude times a power of ten; none when it leaves the finite range. -/
def scale? (x : Binary64) (exponent : Int) : Option Binary64 :=
  if exponent < 0 then some (lower x exponent.natAbs)
  else if exponent ≤ 308 then
    let y := x.scaleUp (powerOfTen exponent.natAbs)
    if y.isFinite then some y else none
  else if x.isZero then some x
  else none

def decimalValue (ds : List Nat) : Nat := ds.foldl (fun n d => n * 10 + d) 0

/-- Largest exponent that is read as a number; beyond it only zero or underflow remain. -/
def maxExponent : Nat := 0x7fffffff

def Numeral.magnitude? (n : Numeral) : Option Binary64 :=
  let (s, rest) := absorb 0 n.whole
  let fraction := n.fraction.getD []
  let (s, left) := absorb s fraction
  let places : Int := (rest.length : Int) - (fraction.length - left.length : Nat)
  match n.exponent with
  | none => scale? (Binary64.ofNat s) places
  | some (negative, ds) =>
    let e := decimalValue ds
    if maxExponent < e then
      if s ≠ 0 ∧ !negative then none else some Binary64.zero
    else scale? (Binary64.ofNat s) (if negative then places - e else places + e)

/-- The value of a numeral; none when it is out of range. Minus zero is a float. -/
def Numeral.value? (n : Numeral) : Option Number :=
  let exact : Option Int :=
    match n.fraction, n.exponent, absorb 0 n.whole with
    | none, none, (s, []) =>
      if !n.negative then some s
      else if s = 0 ∨ (-s : Int) < Numeric.minInt64 then none
      else some (-s)
    | _, _, _ => none
  match exact with
  | some i => some (.int i)
  | none => n.magnitude?.map fun x => .float (if n.negative then x.neg else x)

end AccessCatalog.Json
