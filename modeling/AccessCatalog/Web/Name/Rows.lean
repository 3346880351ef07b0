/-! Character data kept as text: rows of hexadecimal numbers. A number ends at a blank, a row at a
comma or at the end of a line. -/
namespace AccessCatalog.Web.Name

/-- What has been read of a table, with the last row and the last number first. -/
structure TableText where
  number : Option Nat := none
  row : List Nat := []
  rows : List (List Nat) := []

namespace TableText

def endNumber (t : TableText) : TableText :=
  match t.number with
  | some n => { t with number := none, row := n :: t.row }
  | none => t

def endRow (t : TableText) : TableText :=
  let t := t.endNumber
  if t.row.isEmpty then t else { rows := t.row.reverse :: t.rows }

def take (t : TableText) (c : Char) : TableText :=
  if c = ',' ∨ c = '\n' then t.endRow
  else if c = ' ' then t.endNumber
  else
    let digit := if c.isDigit then c.toNat - 48 else c.toNat - 87
    { t with number := some (t.number.getD 0 * 16 + digit) }

end TableText

def rowsOf (text : String) : List (List Nat) :=
  ((text.toList.foldl TableText.take {}).endRow).rows.reverse

def twosOf (text : String) : List (Nat × Nat) :=
  (rowsOf text).filterMap fun
    | [a, b] => some (a, b)
    | _ => none

/-- What the last row that starts at or before a number says. -/
def classAt (rows : List (Nat × Nat)) (n : Nat) : Nat :=
  ((rows.takeWhile (·.1 ≤ n)).getLast?.map (·.2)).getD 0

def isAscii (cs : List Char) : Bool := cs.all (·.toNat < 0x80)

end AccessCatalog.Web.Name
