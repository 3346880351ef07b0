import AccessCatalog.Web.Name.PropertyTable
import AccessCatalog.Web.Name.Rows

/-! The composed form of a text: characters are taken apart, marks on one letter are put into the
order of their classes, and each letter is joined with the marks that compose with it. The syllables
of Hangul are computed, all other pairs come from a table. -/
namespace AccessCatalog.Web.Name

def combiningClasses : List (Nat × Nat) := twosOf combiningText

def combiningClass (c : Char) : Nat :=
  if c.toNat < 0x300 then 0 else classAt combiningClasses c.toNat

structure Pair where
  whole : Char
  first : Char
  last : Char

def pairs : List Pair :=
  (rowsOf pairsText).filterMap fun
    | [whole, first, last] => some ⟨Char.ofNat whole, Char.ofNat first, Char.ofNat last⟩
    | _ => none

/-- The letters of a syllable: an initial, a vowel, and mostly a final. -/
def syllableParts (n : Nat) : List Char :=
  let final := n % 28
  Char.ofNat (0x1100 + n / 588) :: Char.ofNat (0x1161 + n % 588 / 28) ::
    if final = 0 then [] else [Char.ofNat (0x11a7 + final)]

/-- The parts of a character, by rows that each come before the row of their own first part. -/
def partsIn : List Pair → Char → List Char
  | [], c => [c]
  | p :: rows, c => if p.whole = c then partsIn rows p.first ++ [p.last] else partsIn rows c

def parts (c : Char) : List Char :=
  let n := c.toNat
  if n < 0x80 then [c]
  else if 0xac00 ≤ n ∧ n < 0xd7a4 then syllableParts (n - 0xac00)
  else partsIn pairs c

/-- Adds a character to a text held last first: a mark goes in front of marks of higher classes. -/
def insertOrdered (c : Char) : List Char → List Char
  | [] => [c]
  | p :: before =>
    if 0 < combiningClass c ∧ combiningClass c < combiningClass p then p :: insertOrdered c before
    else c :: p :: before

def decompose (cs : List Char) : List Char :=
  ((cs.flatMap parts).foldl (fun before c => insertOrdered c before) []).reverse

/-- A syllable made of an initial and a vowel, or of an open syllable and a final. -/
def syllable? (a b : Nat) : Option Char :=
  if 0x1100 ≤ a ∧ a < 0x1113 ∧ 0x1161 ≤ b ∧ b < 0x1176 then
    some (Char.ofNat (0xac00 + ((a - 0x1100) * 21 + (b - 0x1161)) * 28))
  else if 0xac00 ≤ a ∧ a < 0xd7a4 ∧ (a - 0xac00) % 28 = 0 ∧ 0x11a8 ≤ b ∧ b < 0x11c3 then
    some (Char.ofNat (a + (b - 0x11a7)))
  else none

def whole? (a b : Char) : Option Char :=
  syllable? a.toNat b.toNat <|>
    (pairs.find? fun p => p.first = a ∧ p.last = b).map (·.whole)

/-- Composes a letter with what follows it. The marks that stay between, last first, keep out those
whose class is not higher. -/
def composeFrom (letter : Char) (between : List Char) : List Char → List Char
  | [] => letter :: between.reverse
  | c :: rest =>
    let reaches := match between with
      | [] => true
      | p :: _ => decide (combiningClass p < combiningClass c)
    match if reaches then whole? letter c else none with
    | some whole => composeFrom whole between rest
    | none =>
      if combiningClass c = 0 then letter :: (between.reverse ++ composeFrom c [] rest)
      else composeFrom letter (c :: between) rest

def composeAll : List Char → List Char
  | [] => []
  | c :: rest => if combiningClass c = 0 then composeFrom c [] rest else c :: composeAll rest

def composed (cs : List Char) : List Char :=
  if isAscii cs then cs else composeAll (decompose cs)

end AccessCatalog.Web.Name
