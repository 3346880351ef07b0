import AccessCatalog.Web.Name.Label

/-! Hosts of web addresses: names, and internet addresses of both versions. A name whose last
label is a number is an address of version 4, in up to four decimal, octal or hexadecimal parts. -/
namespace AccessCatalog.Web

inductive UrlError where
  | relativeWithoutBase
  | emptyHost
  | invalidPort
  | invalidAddress4
  | invalidAddress6
  | invalidName
  | invalidCharacter
  deriving DecidableEq, Repr

def UrlError.message : UrlError → String
  | .relativeWithoutBase => "relative URL without a base"
  | .emptyHost => "empty host"
  | .invalidPort => "invalid port number"
  | .invalidAddress4 => "invalid IPv4 address"
  | .invalidAddress6 => "invalid IPv6 address"
  | .invalidName => "invalid international domain name"
  | .invalidCharacter => "invalid domain character"

inductive Host where
  | name (text : List Char)
  | address4 (value : Nat)
  | address6 (pieces : List Nat)
  deriving DecidableEq, Repr

namespace Host

def digitIn? (base : Nat) (c : Char) : Option Nat :=
  let d :=
    if '0' ≤ c ∧ c ≤ '9' then some (c.toNat - 48)
    else if 'a' ≤ c ∧ c ≤ 'f' then some (c.toNat - 87)
    else if 'A' ≤ c ∧ c ≤ 'F' then some (c.toNat - 55)
    else none
  d.filter (· < base)

def number? (base : Nat) (cs : List Char) : Option Nat :=
  (cs.mapM (digitIn? base)).map fun ds => ds.foldl (fun n d => n * base + d) 0

/-- A part of a version 4 address: `0x` marks hexadecimal digits and a leading zero octal ones. -/
def addressPart? : List Char → Option Nat
  | [] => none
  | '0' :: 'x' :: cs => number? 16 cs
  | '0' :: 'X' :: cs => number? 16 cs
  | '0' :: c :: cs => number? 8 (c :: cs)
  | cs => number? 10 cs

def labels (name : List Char) : List (List Char) :=
  let parts := Form.splitAt '.' name
  if 1 < parts.length ∧ parts.getLast? = some [] then parts.dropLast else parts

def endsInNumber (name : List Char) : Bool :=
  match (labels name).getLast? with
  | some last => (!last.isEmpty && last.all Char.isDigit) || (addressPart? last).isSome
  | none => false

/-- Each part but the last is one byte, and the last fills the bytes that are left. -/
def address4? (name : List Char) : Option Nat := do
  let parts ← (labels name).mapM addressPart?
  let last ← parts.getLast?
  let front := parts.dropLast
  if front.length < 4 ∧ front.all (· < 256) ∧ last < Nat.pow 256 (4 - front.length) then
    some (front.foldl (fun n b => n * 256 + b) 0 * Nat.pow 256 (4 - front.length) + last)
  else none

/-- Four decimal bytes without leading zeros, as two pieces of a version 6 address. -/
def dottedPieces? (cs : List Char) : Option (List Nat) := do
  let parts ← (Form.splitAt '.' cs).mapM fun part => do
    let n ← number? 10 part
    if !part.isEmpty && n < 256 && Nat.repr n == String.ofList part then some n else none
  match parts with
  | [a, b, c, d] => some [a * 256 + b, c * 256 + d]
  | _ => none

def hexPiece? (cs : List Char) : Option (List Nat) :=
  if 1 ≤ cs.length ∧ cs.length ≤ 4 then (number? 16 cs).map ([·]) else none

/-- Pieces between colons; the last may be four decimal bytes. -/
def pieces? (mayEndDotted : Bool) (cs : List Char) : Option (List Nat) :=
  if cs.isEmpty then some []
  else
    let parts := Form.splitAt ':' cs
    let last := parts.getLast?.getD []
    if mayEndDotted && last.contains '.' then do
      let front ← parts.dropLast.mapM hexPiece?
      let tail ← dottedPieces? last
      some (front.flatten ++ tail)
    else (parts.mapM hexPiece?).map List.flatten

/-- What stands before and after the first pair of colons. -/
def splitColons : List Char → Option (List Char × List Char)
  | ':' :: ':' :: rest => some ([], rest)
  | c :: rest => (splitColons rest).map fun (a, b) => (c :: a, b)
  | [] => none

/-- Eight pieces, of which a pair of colons leaves out zeros. -/
def address6? (cs : List Char) : Option (List Nat) :=
  match splitColons cs with
  | some (before, after) => do
    let front ← pieces? false before
    let back ← pieces? true after
    let n := front.length + back.length
    if n ≤ 7 then some (front ++ List.replicate (8 - n) 0 ++ back) else none
  | none => do
    let all ← if cs.isEmpty then none else pieces? true cs
    if all.length = 8 then some all else none

/-- Characters that no host of any scheme has. -/
def isForbiddenAnywhere (c : Char) : Bool :=
  c == '\x00' || c == ' ' || "#/:<>?@[\\]^|\t\n\r".toList.contains c

def bracketed? (cs : List Char) : Except UrlError Host :=
  match (cs.drop 1).getLast? with
  | some ']' =>
    match address6? (cs.drop 1).dropLast with
    | some pieces => .ok (.address6 pieces)
    | none => .error .invalidAddress6
  | _ => .error .invalidAddress6

/-- A host of the web. Percent signs are decoded, and a name is taken in its form in ASCII. -/
def parse (cs : List Char) : Except UrlError Host :=
  if cs.head? = some '[' then bracketed? cs
  else match (Text.ofUtf8? (percentDecode (Text.utf8 cs))).bind Name.toAscii? with
    | none => .error .invalidName
    | some [] => .error .emptyHost
    | some ascii =>
      if endsInNumber ascii then
        match address4? ascii with
        | some n => .ok (.address4 n)
        | none => .error .invalidAddress4
      else .ok (.name ascii)

def isControl (c : Char) : Bool := c.toNat < 0x20 || c.toNat == 0x7f

/-- A host of a scheme outside the web, kept as it is written. -/
def parseOpaque (cs : List Char) : Except UrlError Host :=
  if cs.head? = some '[' then bracketed? cs
  else if cs.any isForbiddenAnywhere then .error .invalidCharacter
  else .ok (.name (percentEncode (fun c => !isControl c) cs))

/-- The place and length of the first longest run of zeros. -/
def zeroRun (pieces : List Nat) : Nat × Nat :=
  (List.range 8).foldl
    (fun best i =>
      let n := ((pieces.drop i).takeWhile (· = 0)).length
      if best.2 < n then (i, n) else best)
    (0, 0)

def hexText (pieces : List Nat) : List Char :=
  (List.intercalate [':'] (pieces.map (Nat.toDigits 16)))

def text : Host → List Char
  | .name cs => cs
  | .address4 n =>
    (String.intercalate "." ([3, 2, 1, 0].map fun i => Nat.repr (n / Nat.pow 256 i % 256))).toList
  | .address6 pieces =>
    let (start, count) := zeroRun pieces
    let inner :=
      if count < 2 then hexText pieces
      else hexText (pieces.take start) ++ [':', ':'] ++ hexText (pieces.drop (start + count))
    '[' :: (inner ++ [']'])

end Host
end AccessCatalog.Web
