import AccessCatalog.Web.Name.Composition

/-! Where the two invisible joiners may stand: after a virama, and the one that parts letters also
between letters that would join across it. -/
namespace AccessCatalog.Web.Name

inductive Joining where
  | none
  | both
  | left
  | right
  | transparent
  deriving DecidableEq, Repr

def joiningTypes : List (Nat × Nat) := twosOf joiningText

def joining (c : Char) : Joining :=
  if c.toNat < 0x80 then .none
  else match classAt joiningTypes c.toNat with
    | 1 => .both
    | 2 => .left
    | 3 => .right
    | 4 => .transparent
    | _ => .none

def isVirama (c : Char) : Bool := combiningClass c == 9

/-- Whether the first character that is not transparent joins in one of the given ways. -/
def joinsBy (ways : List Joining) (cs : List Char) : Bool :=
  match cs.dropWhile fun c => joining c = .transparent with
  | c :: _ => ways.contains (joining c)
  | [] => false

/-- Whether a joiner may stand between the text before it, last character first, and after it. -/
def mayStand (joiner : Char) (before after : List Char) : Bool :=
  match before with
  | [] => false
  | p :: _ =>
    isVirama p ||
      (joiner == '\u200c' && joinsBy [.both, .left] before && joinsBy [.both, .right] after)

/-- Whether all joiners of a text stand where they may. -/
def joinersFit (before : List Char) : List Char → Bool
  | [] => true
  | c :: rest =>
    ((c != '\u200c' && c != '\u200d') || mayStand c before rest) && joinersFit (c :: before) rest

end AccessCatalog.Web.Name
