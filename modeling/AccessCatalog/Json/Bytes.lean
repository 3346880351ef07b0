import AccessCatalog.Json.Reader
import AccessCatalog.Text.Utf8

/-! Reading a document from bytes. Bytes that are no character may stand only inside a string,
and a string with such bytes has no value. -/
namespace AccessCatalog.Json

/-- Where a byte stands: outside of strings, inside one, or after a backslash in one. -/
inductive Place where
  | outside
  | inside
  | escaped

def Place.next : Place → Char → Place
  | .outside, c => if c = '"' then .inside else .outside
  | .inside, c => if c = '"' then .outside else if c = '\\' then .escaped else .inside
  | .escaped, _ => .inside

/-- The text with every broken piece of a string written as a lone surrogate, which has no value
either. -/
def mend? : Place → List (Option Char) → Option (List Char)
  | _, [] => some []
  | place, some c :: rest => (mend? (place.next c) rest).map (c :: ·)
  | .inside, none :: rest =>
    (mend? .inside rest).map (['\\', 'u', 'd', '8', '0', '0'] ++ ·)
  | _, none :: _ => none

def readBytes? (bytes : List UInt8) : Option Json :=
  match Text.ofUtf8? bytes with
  | some cs => read? cs
  | none => (mend? .outside (Text.scannedChars bytes)).bind read?

end AccessCatalog.Json
