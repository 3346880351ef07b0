import AccessCatalog.Text.HiddenTable
import AccessCatalog.Text.Lowercase

/-! Quotation of a text for a diagnostic: quotes, backslashes and line controls are escaped by a
letter, every other character that does not show by itself by its number. -/
namespace AccessCatalog.Text

def isHidden (c : Char) : Bool :=
  if c.toNat < 0x7f then decide (c.toNat < 0x20) else inRanges hiddenRanges c.toNat

def hexNumber (n : Nat) : List Char := (Nat.toDigits 16 n)

def quoteChar (c : Char) : List Char :=
  if c = '"' then ['\\', '"']
  else if c = '\\' then ['\\', '\\']
  else if c = '\n' then ['\\', 'n']
  else if c = '\r' then ['\\', 'r']
  else if c = '\t' then ['\\', 't']
  else if c = '\x00' then ['\\', '0']
  else if isHidden c then '\\' :: 'u' :: '\x7b' :: (hexNumber c.toNat ++ ['\x7d'])
  else [c]

def quoted (s : String) : String := String.ofList ('"' :: (s.toList.flatMap quoteChar ++ ['"']))

end AccessCatalog.Text
