import AccessCatalog.Text.Lowercase
import AccessCatalog.Web.Name.MappingTable
import AccessCatalog.Web.Name.Rows

/-! Mapping a name: letters become small, spellings of one character become the plain one, and
characters without weight are left out. -/
namespace AccessCatalog.Web.Name

def shifted : List (List Nat) := rowsOf shiftedText
def images : List (List Nat) := rowsOf imagesText
def spelled : List (List Nat) := rowsOf spelledText
def dropped : List (Nat × Nat) := twosOf droppedText
def refused : List (Nat × Nat) := twosOf refusedText

def image? (n : Nat) : Option (List Nat) :=
  let inRun : List Nat → Option (List Nat)
    | [first, last, step, image] =>
      if first ≤ n ∧ n ≤ last ∧ (n - first) % step = 0 then some [image + (n - first)] else none
    | _ => none
  let inBlock : List Nat → Option (List Nat)
    | first :: block => if first ≤ n then block[n - first]?.map ([·]) else none
    | [] => none
  let asSpelled : List Nat → Option (List Nat)
    | source :: text => if source = n then some text else none
    | [] => none
  shifted.findSome? inRun <|> images.findSome? inBlock <|> spelled.findSome? asSpelled

inductive Treatment where
  | kept
  | dropped
  | replaced (text : List Char)
  | refused
  deriving DecidableEq, Repr

def treatment (c : Char) : Treatment :=
  if c.toNat < 0x80 then if c.isUpper then .replaced [c.toLower] else .kept
  else match image? c.toNat with
    | some text => .replaced (text.map Char.ofNat)
    | none =>
      if Text.inRanges dropped c.toNat then .dropped
      else if Text.inRanges refused c.toNat then .refused
      else .kept

def mapped? (cs : List Char) : Option (List Char) :=
  (cs.mapM fun c => match treatment c with
    | .kept => some [c]
    | .dropped => some []
    | .replaced text => some text
    | .refused => none).map List.flatten

end AccessCatalog.Web.Name
