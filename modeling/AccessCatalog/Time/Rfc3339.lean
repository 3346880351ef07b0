import AccessCatalog.Text.Blank
import AccessCatalog.Time.Instant

/-! Timestamps as text. Written timestamps end in Z. Read ones may have blanks around their parts,
a blank between date and time, short numbers, and any offset of less than a day. -/
namespace AccessCatalog.Time

/-- How many digits of a second are written. -/
inductive Fraction where
  | millis
  /-- As many groups of three as are not zero. -/
  | shortest

def padded (width n : Nat) : String :=
  let digits := Nat.repr n
  String.ofList (List.replicate (width - digits.length) '0') ++ digits

/-- Years outside 0 to 9999 carry a sign. -/
def yearText (year : Int) : String :=
  if 0 ≤ year ∧ year ≤ 9999 then padded 4 year.toNat
  else (if year < 0 then "-" else "+") ++ padded 4 year.natAbs

def fractionText (f : Fraction) (nano : Nat) : String :=
  match f with
  | .millis => "." ++ padded 3 (nano / 1000000)
  | .shortest =>
    if nano = 0 then ""
    else if nano % 1000000 = 0 then "." ++ padded 3 (nano / 1000000)
    else if nano % 1000 = 0 then "." ++ padded 6 (nano / 1000)
    else "." ++ padded 9 nano

end Time

namespace Instant

open Time

def text (t : Instant) (f : Fraction) : String :=
  let d := Date.ofDayNumber t.day
  let leap := decide (1000000000 ≤ t.nano)
  let second := t.second % 60 + (if leap then 1 else 0)
  let nano := if leap then t.nano - 1000000000 else t.nano
  yearText d.year ++ "-" ++ padded 2 d.month ++ "-" ++ padded 2 d.day ++ "T" ++
    padded 2 (t.second / 3600) ++ ":" ++ padded 2 (t.second / 60 % 60) ++ ":" ++
    padded 2 second ++ fractionText f nano ++ "Z"

end Instant

namespace Time

def skipBlanks (cs : List Char) : List Char := cs.dropWhile Text.isBlank

def digitsValue (ds : List Char) : Nat := ds.foldl (fun n c => n * 10 + (c.toNat - 48)) 0

/-- A number of one digit or more, at most `width`. -/
def takeNumber? (width : Nat) (cs : List Char) : Option (Nat × List Char) :=
  let digits := (cs.takeWhile Char.isDigit).take width
  if digits.isEmpty then none else some (digitsValue digits, cs.drop digits.length)

/-- A number after blanks, within bounds. -/
def takeField? (low high : Nat) (cs : List Char) : Option (Nat × List Char) := do
  let (n, rest) ← takeNumber? 2 (skipBlanks cs)
  if low ≤ n ∧ n ≤ high then some (n, rest) else none

/-- A year of up to four digits, or a signed one of any length. -/
def takeYear? (cs : List Char) : Option (Int × List Char) :=
  match skipBlanks cs with
  | '-' :: rest => (takeNumber? rest.length rest).map fun r => (-(r.1 : Int), r.2)
  | '+' :: rest => (takeNumber? rest.length rest).map fun r => ((r.1 : Int), r.2)
  | rest => (takeNumber? 4 rest).map fun r => ((r.1 : Int), r.2)

def takeMark? (mark : Char) (cs : List Char) : Option (List Char) :=
  match skipBlanks cs with
  | c :: rest => if c = mark then some rest else none
  | [] => none

/-- Nanoseconds after a point; digits beyond the ninth are passed over. -/
def takeNanos? : List Char → Option (Nat × List Char)
  | '.' :: rest =>
    let digits := rest.takeWhile Char.isDigit
    if digits.isEmpty then none
    else
      let kept := digits.take 9
      some (digitsValue kept * Nat.pow 10 (9 - kept.length), rest.drop digits.length)
  | rest => some (0, rest)

def isZulu (c : Char) : Bool := c == 'Z' || c == 'z'

/-- Two hour digits, colons and blanks, two minute digits; in seconds. -/
def takeOffsetDigits? : List Char → Option (Nat × List Char)
  | h₁ :: h₂ :: rest =>
    match rest.dropWhile fun c => c == ':' || Text.isBlank c with
    | m₁ :: m₂ :: rest =>
      if h₁.isDigit ∧ h₂.isDigit ∧ m₁.isDigit ∧ m₁ ≤ '5' ∧ m₂.isDigit then
        some (digitsValue [h₁, h₂] * 3600 + digitsValue [m₁, m₂] * 60, rest)
      else none
    | _ => none
  | _ => none

/-- The offset from universal time in seconds, less than a day either way. -/
def takeOffset? (cs : List Char) : Option (Int × List Char) :=
  if (cs.take 3).map Char.toUpper = ['U', 'T', 'C'] then some (0, cs.drop 3)
  else match cs with
    | [] => none
    | c :: rest =>
      if isZulu c then some (0, rest)
      else if c = '+' ∨ c = '-' ∨ c = '\u2212' then do
        let (n, rest) ← takeOffsetDigits? rest
        if n < 86400 then some (if c = '+' then (n : Int) else -(n : Int), rest) else none
      else none

end Time

open Time in
/-- Reads a timestamp. Second 60 is the leap second after 59. -/
def Instant.parse? (text : String) : Option Instant := do
  let (year, cs) ← takeYear? text.toList
  let cs ← takeMark? '-' cs
  let (month, cs) ← takeField? 1 12 cs
  let cs ← takeMark? '-' cs
  let (day, cs) ← takeField? 1 31 cs
  let cs ← match cs with
    | c :: rest => if c = 'T' ∨ c = 't' ∨ c = ' ' then some rest else none
    | [] => none
  let (hour, cs) ← takeField? 0 23 cs
  let cs ← takeMark? ':' cs
  let (minute, cs) ← takeField? 0 59 cs
  let cs ← takeMark? ':' cs
  let (second, cs) ← takeField? 0 60 cs
  let (nano, cs) ← takeNanos? cs
  let (offset, cs) ← takeOffset? (skipBlanks cs)
  let date : Date := ⟨year, month, day⟩
  if (skipBlanks cs).isEmpty && date.isValid then
    let (second, nano) := if second = 60 then (59, nano + 1000000000) else (second, nano)
    Instant.ofLocal? date.dayNumber (hour * 3600 + minute * 60 + second) nano offset
  else none

end AccessCatalog
