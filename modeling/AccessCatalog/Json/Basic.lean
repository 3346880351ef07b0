import AccessCatalog.Numeric.Binary64

/-! JSON documents. An object keeps its entries in written order, repeated keys included, so that
each reader of a document decides what a repetition means. A part that is well formed but stands
for no value (a lone surrogate, a number out of range, nesting too deep) is kept as a marked leaf,
because a reader that skips the part must not fail on it. -/
namespace AccessCatalog

open Numeric (Binary64)

/-- An integer of 64 bits, signed or unsigned, or a binary floating point number. -/
inductive Number where
  | int (value : Int)
  | float (value : Binary64)
  deriving DecidableEq, Repr

inductive Json where
  | null
  | bool (value : Bool)
  | num (value : Number)
  | str (value : String)
  | arr (items : List Json)
  | obj (entries : List (String × Json))
  | unreadable
  deriving Repr, Inhabited

namespace Json

/-- Containers nested deeper than this have no value. -/
def maxDepth : Nat := 127

def int (i : Int) : Json := .num (.int i)
def nat (n : Nat) : Json := .num (.int n)

/-- The first entry under a key of an object. -/
def get? : Json → String → Option Json
  | .obj entries, key => entries.lookup key
  | _, _ => none

end Json
end AccessCatalog
