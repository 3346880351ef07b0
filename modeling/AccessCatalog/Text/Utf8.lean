/-! Text as bytes. A sequence of bytes that is not UTF-8 is taken apart from the front: the
characters in it, and between them the pieces that begin no character. -/
namespace AccessCatalog.Text

def utf8 (cs : List Char) : List UInt8 := cs.flatMap String.utf8EncodeChar

def ofUtf8? (bytes : List UInt8) : Option (List Char) :=
  bytes.toByteArray.utf8Decode?.map Array.toList

def takeChar? (bytes : List UInt8) : Option (Char × List UInt8) :=
  [1, 2, 3, 4].findSome? fun n =>
    match ofUtf8? (bytes.take n) with
    | some [c] => some (c, bytes.drop n)
    | _ => none

/-- How many bytes follow a first byte, and the bounds of the first of them. -/
def following? (first : UInt8) : Option (Nat × UInt8 × UInt8) :=
  if 0xC2 ≤ first ∧ first ≤ 0xDF then some (1, 0x80, 0xBF)
  else if first = 0xE0 then some (2, 0xA0, 0xBF)
  else if first = 0xED then some (2, 0x80, 0x9F)
  else if 0xE1 ≤ first ∧ first ≤ 0xEF then some (2, 0x80, 0xBF)
  else if first = 0xF0 then some (3, 0x90, 0xBF)
  else if 0xF1 ≤ first ∧ first ≤ 0xF3 then some (3, 0x80, 0xBF)
  else if first = 0xF4 then some (3, 0x80, 0x8F)
  else none

/-- The length of the piece in front that begins no character, at least one. -/
def brokenLength : List UInt8 → Nat
  | first :: second :: rest =>
    match following? first with
    | some (count, low, high) =>
      if low ≤ second ∧ second ≤ high then
        2 + ((rest.take (count - 1)).takeWhile fun b => 0x80 ≤ b ∧ b ≤ 0xBF).length
      else 1
    | none => 1
  | _ => 1

/-- The characters of a sequence of bytes, none for each piece that begins no character. -/
def scanUtf8 : Nat → List UInt8 → List (Option Char)
  | 0, _ => []
  | _ + 1, [] => []
  | fuel + 1, b :: rest =>
    match takeChar? (b :: rest) with
    | some (c, after) => some c :: scanUtf8 fuel after
    | none => none :: scanUtf8 fuel ((b :: rest).drop (brokenLength (b :: rest)))

def scannedChars (bytes : List UInt8) : List (Option Char) := scanUtf8 bytes.length bytes

/-- The text of a sequence of bytes, a replacement character for each broken piece. -/
def ofUtf8Lossy (bytes : List UInt8) : List Char :=
  match ofUtf8? bytes with
  | some cs => cs
  | none => (scannedChars bytes).map (·.getD '\ufffd')

end AccessCatalog.Text
