import AccessCatalog.Web.Name.PropertyTable
import AccessCatalog.Web.Name.Rows

/-! Names written in two directions. When a name holds a character that runs from right to left,
each of its labels has one direction: the first character decides it, and the label holds and ends
with what that direction admits. -/
namespace AccessCatalog.Web.Name

inductive Direction where
  | left
  | right
  | european
  | arabic
  | neutral
  | mark
  deriving DecidableEq, Repr

def directions : List (Nat × Nat) := twosOf directionText

def direction (c : Char) : Direction :=
  if c.toNat < 0x80 then
    if c.isAlpha then .left else if c.isDigit then .european else .neutral
  else match classAt directions c.toNat with
    | 0 => .left
    | 1 => .right
    | 2 => .european
    | 3 => .arabic
    | 4 => .neutral
    | _ => .mark

def runsLeftward (c : Char) : Bool := direction c == .right || direction c == .arabic

/-- The directions of a label without the marks at its end. -/
def core (label : List Char) : List Direction :=
  ((label.map direction).reverse.dropWhile (· == .mark)).reverse

/-- Whether a label keeps to the direction of its first character. -/
def keepsDirection (label : List Char) : Bool :=
  let ds := core label
  match label.head?.map direction with
  | none => true
  | some .left =>
    !ds.contains .right && !ds.contains .arabic &&
      (ds.getLast? == some .left || ds.getLast? == some .european)
  | some .right =>
    !ds.contains .left && !(ds.contains .european && ds.contains .arabic) &&
      ds.getLast? != some .neutral
  | some _ => false

def directionsFit (labels : List (List Char)) : Bool :=
  labels.all keepsDirection || !labels.any (·.any runsLeftward)

end AccessCatalog.Web.Name
