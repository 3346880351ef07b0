import AccessCatalog.Text.Utf8

/-! Percent encoding: a character outside a class stands as the bytes of its UTF-8 form, each
written as a percent sign and two capital hexadecimal digits. -/
namespace AccessCatalog.Web

def hexCapital (d : Nat) : Char := if d < 10 then Char.ofNat (48 + d) else Char.ofNat (55 + d)

def percentByte (b : UInt8) : List Char :=
  ['%', hexCapital (b.toNat / 16), hexCapital (b.toNat % 16)]

/-- One character, as itself when it is an ASCII character of the class. -/
def percentChar (keep : Char → Bool) (c : Char) : List Char :=
  if c.toNat < 128 && keep c then [c] else (String.utf8EncodeChar c).flatMap percentByte

def percentEncode (keep : Char → Bool) (cs : List Char) : List Char :=
  cs.flatMap (percentChar keep)

def hexByteValue? (b : UInt8) : Option Nat :=
  if 48 ≤ b ∧ b ≤ 57 then some (b.toNat - 48)
  else if 65 ≤ b ∧ b ≤ 70 then some (b.toNat - 55)
  else if 97 ≤ b ∧ b ≤ 102 then some (b.toNat - 87)
  else none

/-- Bytes with each percent sign and two digits replaced by the byte they stand for; a percent
sign without them stands for itself. -/
def percentDecode : List UInt8 → List UInt8
  | [] => []
  | 37 :: h :: l :: rest =>
    match hexByteValue? h, hexByteValue? l with
    | some h, some l => UInt8.ofNat (h * 16 + l) :: percentDecode rest
    | _, _ => 37 :: percentDecode (h :: l :: rest)
  | b :: rest => b :: percentDecode rest

def isUnreserved (c : Char) : Bool :=
  c.isAlphanum || c == '-' || c == '_' || c == '.' || c == '~'

/-- One segment of a path, whatever characters it has. -/
def pathSegment (s : String) : String := String.ofList (percentEncode isUnreserved s.toList)

end AccessCatalog.Web
