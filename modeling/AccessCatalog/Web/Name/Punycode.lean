/-! Text in letters, digits and hyphens. The characters of ASCII come first, then numbers of
varying length which say, in the order of their code points, where each other character goes. -/
namespace AccessCatalog.Web.Name.Punycode

/-- Bounds the numbers that are read. -/
def limit : Nat := 4294967296

def digitChar (d : Nat) : Char := Char.ofNat (if d < 26 then 97 + d else 22 + d)

def digit? (c : Char) : Option Nat :=
  if 'a' ≤ c ∧ c ≤ 'z' then some (c.toNat - 97)
  else if 'A' ≤ c ∧ c ≤ 'Z' then some (c.toNat - 65)
  else if '0' ≤ c ∧ c ≤ '9' then some (c.toNat - 22)
  else none

def threshold (position bias : Nat) : Nat := max 1 (min 26 (position - bias))

theorem one_le_threshold (position bias : Nat) : 1 ≤ threshold position bias :=
  Nat.le_max_left ..

def scale (position delta : Nat) : Nat :=
  if 455 < delta then scale (position + 36) (delta / 35)
  else position + 36 * delta / (delta + 38)
termination_by delta
decreasing_by omega

/-- The bias after a number that brought the text to `count` characters. -/
def adapt (delta count : Nat) (isFirst : Bool) : Nat :=
  let delta := if isFirst then delta / 700 else delta / 2
  scale 0 (delta + delta / count)

/-- The text so far, the code point and the place of the last character put in, and the number that
is being read: the place it started from, and the position and the weight of its next digit. -/
structure Decoder where
  text : List Char
  codePoint : Nat := 128
  place : Nat := 0
  bias : Nat := 72
  start : Nat := 0
  position : Nat := 36
  weight : Nat := 1

def char? (n : Nat) : Option Char :=
  if n < 0xd800 ∨ (0xe000 ≤ n ∧ n < 0x110000) then some (Char.ofNat n) else none

/-- Puts in the next character, when its number has been read. -/
def Decoder.put? (d : Decoder) : Option Decoder := do
  let count := d.text.length + 1
  let codePoint := d.codePoint + d.place / count
  let c ← char? codePoint
  let place := d.place % count
  some {
    text := d.text.take place ++ c :: d.text.drop place
    codePoint
    place := place + 1
    bias := adapt (d.place - d.start) count (d.start = 0)
    start := place + 1 }

def Decoder.run? (d : Decoder) : List Char → Option (List Char)
  | [] => if d.position = 36 then some d.text else none
  | c :: rest => do
    let digit ← digit? c
    let t := threshold d.position d.bias
    let place := d.place + digit * d.weight
    let weight := d.weight * (36 - t)
    if limit ≤ place then none
    else if digit < t then
      let d ← Decoder.put? { d with place }
      d.run? rest
    else if limit ≤ weight then none
    else Decoder.run? { d with place, weight, position := d.position + 36 } rest

/-- What stands before the last hyphen is in the text as it is. A hyphen in front parts nothing. -/
def decode? (cs : List Char) : Option (List Char) :=
  let code := (cs.reverse.takeWhile (· != '-')).reverse
  match cs.take (cs.length - code.length) with
  | [] => Decoder.run? { text := [] } cs
  | [_] => none
  | basic => Decoder.run? { text := basic.dropLast } code

/-- The digits of a number, those of least weight first. -/
def digits (bias position n : Nat) : List Char :=
  let t := threshold position bias
  if n < t then [digitChar n]
  else digitChar (t + (n - t) % (36 - t)) :: digits bias (position + 36) ((n - t) / (36 - t))
termination_by n
decreasing_by
  have := one_le_threshold position bias
  have := Nat.div_le_self (n - threshold position bias) (36 - threshold position bias)
  omega

/-- What has been written, how many characters it covers, and the steps since the last of them. -/
structure Encoder where
  code : List Char := []
  count : Nat
  delta : Nat := 0
  bias : Nat := 72

/-- Passes one character of the text while those of one code point are written. -/
def Encoder.pass (basics point : Nat) (e : Encoder) (c : Char) : Encoder :=
  if c.toNat < point then { e with delta := e.delta + 1 }
  else if c.toNat = point then
    { code := e.code ++ digits e.bias 36 e.delta, count := e.count + 1,
      bias := adapt e.delta (e.count + 1) (e.count = basics) }
  else e

/-- Writes the characters of each code point, `next` being the first one not looked at. -/
def Encoder.run (text : List Char) (basics next : Nat) (e : Encoder) : List Nat → List Char
  | [] => e.code
  | point :: points =>
    let e := { e with delta := e.delta + (point - next) * (e.count + 1) }
    let e := text.foldl (Encoder.pass basics point) e
    Encoder.run text basics (point + 1) { e with delta := e.delta + 1 } points

def encode (text : List Char) : List Char :=
  let basic := text.filter (·.toNat < 128)
  let points := ((text.map Char.toNat).filter (128 ≤ ·)).eraseDups.mergeSort
  (if basic.isEmpty then [] else basic ++ ['-']) ++
    Encoder.run text basic.length 128 { count := basic.length } points

end AccessCatalog.Web.Name.Punycode
