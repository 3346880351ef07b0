import AccessCatalog.Web.Form
import AccessCatalog.Web.Name.Direction
import AccessCatalog.Web.Name.Joining
import AccessCatalog.Web.Name.Mapping
import AccessCatalog.Web.Name.Punycode

/-! The labels of a name, which dots part. A label beyond ASCII has a second form, in ASCII, behind
a mark; names are looked up in that form. -/
namespace AccessCatalog.Web.Name

/-- Characters that no name of a host on the web has. -/
def isForbidden (c : Char) : Bool :=
  c.toNat ≤ 0x20 || c.toNat == 0x7f || "%#/:<>?@[\\]^|".toList.contains c

def marks : List (Nat × Nat) := twosOf marksText

def isMark (c : Char) : Bool := decide (0x80 ≤ c.toNat) && Text.inRanges marks c.toNat

/-- What a label stands for, and its form in ASCII. -/
structure Label where
  text : List Char
  ascii : List Char
  deriving DecidableEq, Repr

namespace Label

def codeMark : List Char := "xn--".toList

def maxLength : Nat := 1000
def maxCodeLength : Nat := 2000

/-- Whether a text beyond ASCII may be a label. -/
def isSound (text : List Char) : Bool :=
  !(text.head?.map isMark).getD false && joinersFit [] text && decide (text.length ≤ maxLength)

/-- What a code stands for. It has to be a text that mapping and composing would leave alone, with
a character beyond ASCII in it. -/
def decode? (code : List Char) : Option (List Char) := do
  let text ← if maxCodeLength < code.length then none else Punycode.decode? code
  if !isAscii text && text.all (treatment · = .kept) && composed text = text then some text
  else none

/-- Reads a label of a mapped name. -/
def read? (cs : List Char) : Option Label := do
  let isCode := cs.take 4 = codeMark
  let text ← if isCode then decode? (cs.drop 4) else some cs
  if text.any isForbidden then none
  else if isAscii text then some ⟨text, cs⟩
  else if isSound text then some ⟨text, if isCode then cs else codeMark ++ Punycode.encode text⟩
  else none

end Label

def toAscii? (name : List Char) : Option (List Char) := do
  let text ← mapped? name
  let labels ← (Form.splitAt '.' (composed text)).mapM Label.read?
  if directionsFit (labels.map (·.text)) then
    some (List.intercalate ['.'] (labels.map (·.ascii)))
  else none

end AccessCatalog.Web.Name
